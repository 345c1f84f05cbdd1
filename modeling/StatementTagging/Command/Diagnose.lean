import StatementTagging.Command.Session
import StatementTagging.Report.Catalog
import StatementTagging.Report.Extraction
import StatementTagging.Report.Untagged
import StatementTagging.Settings

set_option autoImplicit false

/-! # Reports on tagged transactions

The command reads a table of tagged transactions and the rules, writes four reports and prints the most
important findings.
-/

namespace StatementTagging.DiagnoseCommand

/-! ## Options -/

/-- The name under which the command is called. -/
def name : String := "tag_diagnostics.py"

/-- The options of the command. -/
def specs : List OptionSpec := [⟨"--input", true⟩, ⟨"--rules", false⟩, ⟨"--output-dir", true⟩,
  ⟨"--description-field", false⟩]

/-- The help on the command. -/
def help : List String :=
  ["usage: tag_diagnostics.py [-h] --input INPUT [--rules RULES] --output-dir",
   "                          OUTPUT_DIR [--description-field DESCRIPTION_FIELD]",
   "",
   "Transaction tagging diagnostics tool",
   "",
   "options:",
   "  -h, --help            show this help message and exit",
   "  --input INPUT         Path to tagged_transactions.csv",
   "  --rules RULES         Rule collection JSON (default: TAG_RULES_JSON)",
   "  --output-dir OUTPUT_DIR",
   "                        Output directory for diagnostic CSVs",
   "  --description-field DESCRIPTION_FIELD",
   "                        Free-text field for grouping untagged rows (default:",
   "                        TAG_DESCRIPTION_FIELD or Field86)",
   "",
   "Examples:",
   "  python tag_diagnostics.py --input tagged.csv --rules rules.json --output-dir diagnostics/",
   "  python tag_diagnostics.py --input tagged.csv --rules rules.json --output-dir diagnostics/ "
     ++ "--description-field Description",
   "        "]

/-- What the command works on. -/
structure Task where
  input : Path
  rules : Path
  output : Path
  descriptionField : String

/-- What the command says without rules. -/
def refusal : String := "Missing rules. Provide --rules or set TAG_RULES_JSON in .env."

/-- The path that a required option gives. -/
def requiredPath (values : OptionValues) (name : String) : Path :=
  Path.ofText ((values.value? name).getD "")

/-- The task from arguments and variables. -/
def task (around : Surroundings) (args : List String) : Job Task := do
  let values ← Job.options specs help args
  match choose (values.value? "--rules") around.env "TAG_RULES_JSON" with
  | none => Job.stop (.refused refusal)
  | some rules =>
    let field := choose (values.value? "--description-field") around.env
      "TAG_DESCRIPTION_FIELD"
    return {
      input := requiredPath values "--input"
      rules := Path.ofText rules
      output := requiredPath values "--output-dir"
      descriptionField := field.getD defaultDescriptionField }

/-! ## Reports -/

/-- The reports on a frame, with what the summary needs of them. -/
structure Reports where
  coverage : List Coverage.Line
  untagged : Untagged.Summary
  catalog : List Row
  /-- The tables to be written, with their names. -/
  tables : List (String × Frame)

/-- The reports on a frame. -/
def Reports.of (f : Frame) (libraries : List Library) (field : String) :
    Except Fault Reports := do
  let coverage ← Coverage.lines f
  let coverageTable ← Coverage.table coverage
  let untagged ← Untagged.summarize f field
  let untaggedTable ← untagged.table
  let extractionTable ← ExtractionReport.report f libraries
  let catalog ← Catalog.lines f libraries
  let catalogTable ← Catalog.table catalog
  return {
    coverage := coverage
    untagged := untagged
    catalog := catalog
    tables :=
      [("tag_coverage_summary.csv", coverageTable),
       ("untagged_pressure_report.csv", untaggedTable),
       ("attribute_extraction_report.csv", extractionTable),
       ("rule_catalog.csv", catalogTable)] }

/-! ## Summary -/

/-- The text with spaces after it up to a width. -/
def padEnd (width : Nat) (s : String) : String :=
  s ++ String.ofList (List.replicate (width - s.length) ' ')

/-- The text with spaces before it up to a width. -/
def padStart (width : Nat) (s : String) : String :=
  String.ofList (List.replicate (width - s.length) ' ') ++ s

/-- The line of the summary for a tag. -/
def coverageText (l : Coverage.Line) : String :=
  "  " ++ toString l.rank ++ ". " ++ padEnd 30 l.tag ++ " | " ++ padStart 6 (toString l.count)
    ++ " rows (" ++ oneDecimal l.percentage ++ "%)"

/-- The lines of the summary on the most frequent tags. -/
def coverageTexts (lines : List Coverage.Line) : List String :=
  if lines.isEmpty then ["  (no tags)"] else (lines.take 5).map coverageText

/-- The line of the summary on rows without tags. -/
def untaggedText (u : Untagged.Summary) : String :=
  let marker := if u.grade = "OK" then "" else " [" ++ u.grade ++ "]"
  s!"Untagged: {u.untagged} rows (" ++ oneDecimal u.percentage ++ "%)" ++ marker

/-- The lines of the summary on fields that the data lacks. -/
def absentTexts (fields : List String) : List String :=
  if fields.isEmpty then []
  else
    ["", "[WARNING] Rules reference fields absent from the data: " ++ Text.quotedList fields]

/-- The summary. -/
def summary (t : Task) (r : Reports) : List String :=
  ["", ruler, "TAGGING DIAGNOSTICS", ruler, "", "Input: " ++ t.input.text,
   s!"Total rows loaded: {r.untagged.total}", "", "Top 5 Tags by Coverage:"]
    ++ coverageTexts r.coverage ++ ["", untaggedText r.untagged]
    ++ absentTexts (Catalog.absentFields r.catalog)
    ++ ["", "Outputs written to: " ++ t.output.text ++ "/"]
    ++ r.tables.map (fun (name, _) => "  - " ++ name) ++ ["", ruler]

/-! ## The command -/

/-- Reads, reports and writes. -/
def work (t : Task) : Job Unit := do
  let frame ← Job.reading fun files => do Files.tableOf (← files.expect "Input" t.input)
  Job.ofExcept (checkColumns frame)
  let libraries ← Job.reading (Document.loadFile · t.rules)
  let reports ← Job.ofExcept (Reports.of frame libraries t.descriptionField)
  Job.makeDirectory t.output
  reports.tables.forM fun (name, table) => Job.writeTable (t.output.child name) table
  Job.printAll (summary t reports)

/-- The command with its arguments. -/
def run (around : Surroundings) (args : List String) : Job Unit := do
  work (← task around args)

end StatementTagging.DiagnoseCommand
