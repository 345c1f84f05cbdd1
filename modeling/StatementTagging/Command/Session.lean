import StatementTagging.Files
import StatementTagging.Rule.Document
import StatementTagging.Table.CsvWriter
import StatementTagging.Variables
import StatementTagging.Command.Options

set_option autoImplicit false

/-! # Sessions

A command reads and writes files, prints lines, and may stop before its work is done. What it has printed
and written until then remains.
-/

namespace StatementTagging

/-- What a command finds around it apart from files. -/
structure Surroundings where
  env : Variables
  /-- The current day. -/
  today : String

/-- Why a command stops before its work is done. -/
inductive Stop where
  /-- It has shown its help. -/
  | helped
  /-- Its arguments make no sense. -/
  | misused
  /-- Something that it must be given is missing. -/
  | refused (message : String)
  | failed (f : Fault)

/-- The status with which a command ends that stops. -/
def Stop.status : Stop → Nat
  | helped => 0
  | misused => 2
  | refused _ => 1
  | failed _ => 1

/-- What a command changes: files, and the text it has printed. -/
structure Session where
  files : Files := {}
  printed : String := ""

/-- A command, or a part of one. -/
abbrev Job (α : Type) := ExceptT Stop (StateM Session) α

namespace Job

/-- Runs a job. -/
def runOn {α : Type} (job : Job α) (s : Session) : Except Stop α × Session := job.run s

/-- Prints a line. -/
def print (line : String) : Job Unit :=
  modify fun s => { s with printed := s.printed ++ line ++ "\n" }

/-- Prints lines. -/
def printAll (lines : List String) : Job Unit := lines.forM print

/-- Stops the command. -/
def stop {α : Type} (s : Stop) : Job α := throw s

/-- The result of a computation that may fail. -/
def ofExcept {α : Type} (r : Except Fault α) : Job α :=
  match r with
  | .ok a => pure a
  | .error f => stop (.failed f)

/-- The result of reading from the files. -/
def reading {α : Type} (load : Files → Except Fault α) : Job α := do
  ofExcept (load (← get).files)

/-- Makes a directory. -/
def makeDirectory (p : Path) : Job Unit :=
  modify fun s => { s with files := s.files.makeDirectory p }

/-- Writes a text into a file. -/
def write (p : Path) (text : String) : Job Unit :=
  modify fun s => { s with files := s.files.write p text.toUTF8.toList }

/-- Writes a frame into a file as a table. -/
def writeTable (p : Path) (f : Frame) : Job Unit := write p (Csv.write f)

/-- The values of options, or the end of the command after its help has been shown. -/
def options (specs : List OptionSpec) (help : List String) (args : List String) :
    Job OptionValues :=
  match Options.read specs args with
  | .ok values => pure values
  | .error .help => do
    printAll help
    stop .helped
  | .error .misuse => stop .misused

end Job

/-! ## Rules in files -/

/-- The libraries in a file. -/
def Document.loadFile (files : Files) (p : Path) : Except Fault (List Library) := do
  let bytes ← files.expect "Rule collection" p
  Document.load (String.ofList (← Files.textOf bytes))

/-- A line that sets off a heading. -/
def ruler : String := String.ofList (List.replicate 60 '=')

end StatementTagging
