import StatementTagging.Command.SelfCheck
import StatementTagging.Command.Session
import StatementTagging.Number.Rounding
import StatementTagging.Settings
import StatementTagging.Tagging
import StatementTagging.Transactions

set_option autoImplicit false

/-! # Tagging a file of transactions

The command reads rules and transactions, tags the transactions, writes them as a table and prints how
many it has tagged.
-/

namespace StatementTagging.TagCommand

/-! ## Options -/

/-- The name under which the command is called. -/
def name : String := "tag_transactions.py"

/-- The options of the command. -/
def specs : List OptionSpec := [⟨"--rules", false⟩, ⟨"--input", false⟩, ⟨"--output-dir", false⟩,
  ⟨"--as-of", false⟩]

/-- The help on the command. -/
def help : List String :=
  ["usage: tag_transactions.py [-h] [--rules RULES] [--input INPUT]",
   "                           [--output-dir OUTPUT_DIR] [--as-of AS_OF]",
   "",
   "Tag bank transactions with a rule collection",
   "",
   "options:",
   "  -h, --help            show this help message and exit",
   "  --rules RULES         Rule collection JSON",
   "  --input INPUT         Transactions CSV or JSON",
   "  --output-dir OUTPUT_DIR",
   "                        Directory for tagged_transactions.csv",
   "  --as-of AS_OF         Validity reference date (YYYY-MM-DD)"]

/-- The settings that the values of options give. -/
def given (values : OptionValues) : GivenSettings :=
  { rules := values.value? "--rules"
    input := values.value? "--input"
    output := values.value? "--output-dir"
    asOf := values.value? "--as-of" }

/-- What the command says if a setting is missing. -/
def refusal (f : Fault) : String :=
  "Missing configuration: " ++ f.message?.getD ""
    ++ ". Provide --rules/--input/--output-dir or set them in .env."

/-! ## Tagging -/

/-- The name of the table that the command writes. -/
def outputName : String := "tagged_transactions.csv"

/-- How many rows of a tagged frame have a tag. -/
def taggedCount (f : Frame) : Nat :=
  ((f.column? "Tag_Count").getD []).countP fun cell =>
    match cell with
    | .int n => 0 < n
    | _ => false

/-- The share of tagged rows; none of no rows. -/
def taggedShare (f : Frame) : Float :=
  if f.height = 0 then 0 else (taggedCount f).toFloat / f.height.toFloat

/-- What the command prints before its work. -/
def opening (s : Settings) : List String :=
  [ruler, "TRANSACTION TAGGING", ruler, "Rules:  " ++ s.rules.text, "Input:  " ++ s.input.text,
   "Output: " ++ s.output.text]
    ++ (s.asOf.map fun day => "As of:  " ++ day).toList ++ [""]

/-- What the command prints after its work. -/
def closing (libraries : List Library) (f : Frame) (written : Path) : List String :=
  let definitions := (libraries.flatMap (·.definitions)).length
  [s!"[INFO] Rule libraries: {libraries.length} ({definitions} definitions)",
   s!"[INFO] Transactions: {f.height}",
   s!"[OK] Tagged rows: {taggedCount f} (" ++ percentText (taggedShare f) ++ ")",
   "Tagging complete -> " ++ written.text]

/-- Reads, tags and writes. -/
def work (s : Settings) (today : String) : Job Unit := do
  let libraries ← Job.reading (Document.loadFile · s.rules)
  let rows ← Job.reading (Transactions.load · s.input)
  let frame ← Job.ofExcept (Frame.ofRows rows)
  let tagged ← Job.ofExcept (tagFrame frame libraries (s.asOf.getD today))
  Job.makeDirectory s.output
  let written := s.output.child outputName
  Job.writeTable written tagged
  Job.printAll (closing libraries tagged written)

/-! ## The command -/

/-- Checks that tagging works instead of doing it. -/
def selfCheck : Job Unit := do
  if ← Job.ofExcept SelfCheck.passes then Job.print "Tagging self-checks passed."
  else Job.stop (.refused "Tagging self-checks failed.")

/-- The settings from arguments and variables. -/
def settings (around : Surroundings) (args : List String) : Job Settings := do
  let values ← Job.options specs help args
  match Settings.resolve (given values) around.env with
  | .ok s => return s
  | .error f => Job.stop (.refused (refusal f))

/-- The command with its arguments. -/
def run (around : Surroundings) (args : List String) : Job Unit := do
  if around.env.lookup "RUN_SELF_CHECKS" = some "1" then selfCheck
  else
    let s ← settings around args
    Job.printAll (opening s)
    work s around.today

end StatementTagging.TagCommand
