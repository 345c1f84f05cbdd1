import StatementTagging.Operation
import StatementTagging.Pattern.Escape
import StatementTagging.Text.Blank

set_option autoImplicit false

/-! # Tests of a field

A test as an editor shows it, the pattern it is compiled to, and its description. Texts given by the
user are escaped, so that they stand for themselves; a comparison with a number is no pattern but a
mark followed by its threshold.
-/

namespace StatementTagging

open Pattern (escape)

/-- A test with its parameters. Only some of them matter to each operation. -/
structure MatchForm where
  operation : MatchOperation
  value : String := ""
  values : Option (List String) := none
  before : Option String := none
  after : Option String := none
deriving DecidableEq

/-- The mark of a comparison, which its threshold follows. -/
def Comparison.mark (c : Comparison) : List Char :=
  "__NUMERIC_".toList ++ c.code.toList ++ [':']

/-- A text between apostrophes. -/
def between (s : String) : String := "'" ++ s ++ "'"

namespace MatchForm

/-- The alternatives of a test with several values; the single value if there are none. -/
def alternatives (f : MatchForm) : List String :=
  match f.values with
  | some (v :: vs) => v :: vs
  | _ => [f.value]

/-- The pattern for an optional text. -/
def escapeOption (s : Option String) : List Char := escape (s.getD "").toList

/-- What a test is compiled to. -/
def source (f : MatchForm) : List Char :=
  let v := escape f.value.toList
  match f.operation with
  | .compare c => c.mark ++ Text.strip f.value.toList
  | .beginsWith => '^' :: v
  | .endsWith => v ++ ['$']
  | .contains => v
  | .doesNotContain => "^(?!.*".toList ++ v ++ [')']
  | .equals => '^' :: v ++ ['$']
  | .doesNotEqual => "^(?!".toList ++ v ++ ['$', ')']
  | .matchesPattern => List.intercalate ['|'] (f.alternatives.map fun w => escape w.toList)
  | .extractAndCompare =>
    "(?:".toList ++ escapeOption f.before ++ [')'] ++ v
      ++ "(?:".toList ++ escapeOption f.after ++ [')']
  | .other _ => v

/-- What a test is compiled to, as a string. -/
def compile (f : MatchForm) : String := String.ofList f.source

/-- The description that is stored with a compiled test. -/
def description (f : MatchForm) : String :=
  match f.operation with
  | .compare c => c.label ++ " " ++ String.ofList (Text.strip f.value.toList)
  | .beginsWith => "Begin with " ++ between f.value
  | .endsWith => "End with " ++ between f.value
  | .contains => "Contain " ++ between f.value
  | .doesNotContain => "Not contain " ++ between f.value
  | .equals => "Equal " ++ between f.value
  | .doesNotEqual => "Not equal " ++ between f.value
  | .matchesPattern => "Match one of: " ++ String.intercalate ", " (f.alternatives.map between)
  | .extractAndCompare =>
    "Extract between " ++ between (f.before.getD "") ++ " and " ++ between (f.after.getD "")
      ++ " equals " ++ between f.value
  | .other _ => f.value

end MatchForm

end StatementTagging
