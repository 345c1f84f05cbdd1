import StatementTagging.Command.Diagnose
import StatementTagging.Command.Tag
import StatementTagging.Variables.EnvFile

set_option autoImplicit false

/-! # Tagging and reporting in one go

The command runs the two others one after the other, with settings from variables and from the file of
variables beside them.
-/

namespace StatementTagging.PipelineCommand

/-- The name under which the command is called. -/
def name : String := "run_pipeline.py"

/-! ## Settings -/

/-- The directory of the commands. -/
def codeDirectory (files : Files) : Path := ⟨.root, files.current ++ ["code"]⟩

/-- The directory for reports. -/
def reportDirectory (files : Files) : Path := ⟨.root, files.current ++ ["diagnostics"]⟩

/-- The file of variables. -/
def envFile (files : Files) : Path := (codeDirectory files).child ".env"

/-- The variables with those of the file beside the commands. -/
def withEnvFile (around : Variables) (files : Files) : Except Fault Variables :=
  match files.find? (envFile files) with
  | some bytes => (Files.textOf bytes).map (EnvFile.addTo around)
  | none => .ok around

/-- The settings that the command looks at itself. -/
structure Plan where
  rules : String
  output : Path

/-- The settings from variables. -/
def plan (env : Variables) : Except Fault Plan :=
  match env.given? "TAG_RULES_JSON", env.given? "TAG_INPUT_PATH",
    env.given? "TAG_OUTPUT_DIR" with
  | some rules, some _, some output => .ok { rules := rules, output := Path.ofText output }
  | _, _, _ => .error .pipelineSettingsMissing

/-! ## Stages -/

/-- The command line of a stage. -/
def commandLine (files : Files) (name : String) (args : List String) : List String :=
  "python3" :: ((codeDirectory files).child name).text :: args

/-- Runs a command as a stage; if it fails, so does the whole. -/
def stage (name : String) (command : List String → Job Unit) (args : List String) : Job Unit := do
  let line := commandLine (← get).files name args
  Job.print ""
  Job.print ("RUN: " ++ String.intercalate " " line)
  try command args
  catch s => if s.status ≠ 0 then Job.stop (.failed (.commandFailed line s.status))

/-- Reports on the table that the first stage has written. -/
def report (around : Surroundings) (p : Plan) (tagged : Path) : Job Unit := do
  if around.env.lookup "RUN_DIAGNOSTICS" = some "0" then
    Job.printAll ["", "-> Skipping diagnostics (RUN_DIAGNOSTICS=0)"]
  else
    let output := (reportDirectory (← get).files).text
    stage DiagnoseCommand.name (DiagnoseCommand.run around)
      ["--input", tagged.text, "--rules", p.rules, "--output-dir", output]

/-- The command. -/
def run (around : Surroundings) : Job Unit := do
  let known ← Job.reading (withEnvFile around.env)
  let around := { around with env := known }
  let p ← Job.ofExcept (plan known)
  stage TagCommand.name (TagCommand.run around) []
  let tagged := p.output.child TagCommand.outputName
  if ((← get).files.find? tagged).isNone then
    Job.stop (.failed (.stageOutputMissing tagged.text))
  report around p tagged
  Job.printAll ["", "Pipeline complete."]

end StatementTagging.PipelineCommand
