import StatementTagging.Command.Diagnose
import StatementTagging.Command.Pipeline
import StatementTagging.Command.Tag
import Std.Time.Format

set_option autoImplicit false

/-! # Command line

`tag`, `diagnose` and `pipeline` run the three commands on the files of the current directory. Each is
run as a value first; only then its output is printed and its files are written.
-/

namespace StatementTagging.CommandLine

/-! ## What is around -/

/-- The variables that commands look at. -/
def variableNames : List String :=
  ["TAG_RULES_JSON", "TAG_INPUT_PATH", "TAG_OUTPUT_DIR", "TAG_DESCRIPTION_FIELD",
   "TAG_AS_OF_DATE", "RUN_SELF_CHECKS", "RUN_DIAGNOSTICS"]

/-- The variables with given names that are set. -/
def readVariables (names : List String) : IO Variables :=
  names.eraseDups.filterMapM fun name => do
    return (← IO.getEnv name).map fun text => (name, text)

/-- The bytes of a file, if there is one. -/
def readBytes? (path : String) : IO (Option (List UInt8)) := do
  try return some (← IO.FS.readBinFile path).toList
  catch _ => return none

/-- Adds files that exist. -/
def addFiles (files : Files) (paths : List String) : IO Files :=
  paths.foldlM (fun files path => do
    match ← readBytes? path with
    | some bytes =>
      let p := Path.ofText path
      return (files.makeDirectory p.parent).write p bytes
    | none => return files) files

/-- The texts that may be paths: arguments, what stands after an equals sign in them, and variables. -/
def mentioned (args : List String) (env : Variables) : List String :=
  let attached := args.filterMap fun arg =>
    (Text.splitFirst '=' arg.toList).2.map String.ofList
  args ++ attached ++ env.map (·.2)

/-- The tables that an earlier run of the pipeline may have left in a directory that is mentioned. -/
def tablesIn (paths : List String) : List String :=
  paths.map fun path => ((Path.ofText path).child TagCommand.outputName).text

/-- The variables to which a file of variables leads. -/
def fileNames (bytes : Option (List UInt8)) : List String :=
  match bytes.map Files.textOf with
  | some (.ok text) => EnvFile.namesIn text
  | _ => []

/-! ## Running -/

/-- The files that a command has changed. -/
def changed (before after : Files) : List (Place × List UInt8) :=
  after.entries.filter fun (place, bytes) => before.entries.lookup place != some bytes

/-- Writes a file, with the directories that lead to it. -/
def writeFile (place : Place) (bytes : List UInt8) : IO Unit := do
  let p : Path := ⟨.root, place⟩
  IO.FS.createDirAll p.parent.text
  IO.FS.writeBinFile p.text ⟨bytes.toArray⟩

/-- What a command says about why it stopped. -/
def complaint : Stop → Option String
  | .helped => none
  | .misused => some "invalid arguments"
  | .refused message => some message
  | .failed f => some (f.message?.getD "a value is of the wrong kind")

/-- Runs a command on files, and ends with its status. -/
def execute (job : Job Unit) (files : Files) : IO UInt32 := do
  let (result, session) := job.runOn { files := files }
  (← IO.getStdout).putStr session.printed
  (changed files session.files).forM fun (place, bytes) => writeFile place bytes
  match result with
  | .ok _ => return 0
  | .error s =>
    if let some text := complaint s then (← IO.getStderr).putStrLn text
    return s.status.toUInt32

/-- The command with a name. -/
def command? (name : String) (args : List String) : Option (Surroundings → Job Unit) :=
  match name with
  | "tag" => some fun around => TagCommand.run around args
  | "diagnose" => some fun around => DiagnoseCommand.run around args
  | "pipeline" => some PipelineCommand.run
  | _ => none

/-- Runs a command in the current directory. -/
def runHere (command : Surroundings → Job Unit) (args : List String) : IO UInt32 := do
  let current := (Path.ofText (← IO.currentDir).toString).names
  let files : Files := { current := current }
  let envPath := (PipelineCommand.envFile files).text
  let env ← readVariables (variableNames ++ fileNames (← readBytes? envPath))
  let files ← addFiles files [envPath]
  let known := (PipelineCommand.withEnvFile env files).toOption.getD env
  let paths := mentioned args known
  let files ← addFiles files (paths ++ tablesIn paths)
  execute (command { env := env, today := toString (← Std.Time.PlainDate.now) }) files

end StatementTagging.CommandLine

/-- The first argument is the name of a command, and the others are for it. -/
def main (args : List String) : IO UInt32 := do
  match args with
  | name :: rest =>
    match StatementTagging.CommandLine.command? name rest with
    | some command => StatementTagging.CommandLine.runHere command rest
    | none =>
      (← IO.getStderr).putStrLn "commands: tag, diagnose, pipeline"
      return 2
  | [] =>
    (← IO.getStderr).putStrLn "commands: tag, diagnose, pipeline"
    return 2
