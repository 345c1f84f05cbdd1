import StatementTagging.Condition

set_option autoImplicit false

/-! # Extractions from a field

An extraction as an editor shows it, the pattern it is compiled to, and its description. The extracted
value is what the first group of the pattern captures.
-/

namespace StatementTagging

/-- An extraction with its parameters. Only some of them matter to each operation. -/
structure ExtractionForm where
  operation : ExtractionOperation
  before : Option String := none
  after : Option String := none
  pattern : Option String := none
  verify : Option String := none
deriving DecidableEq

namespace ExtractionForm

/-- The group that takes as much as possible of a line. -/
def greedyGroup : List Char := "(.*)".toList

/-- The group that takes as little as possible of a line. -/
def lazyGroup : List Char := "(.*?)".toList

/-- What an extraction is compiled to. -/
def source (f : ExtractionForm) : List Char :=
  match f.operation with
  | .predefined key =>
    match PredefinedPattern.ofKey? key with
    | some p => p.pattern.toList
    | none => greedyGroup
  | .between | .betweenAndVerify =>
    MatchForm.escapeOption f.before ++ lazyGroup ++ MatchForm.escapeOption f.after
  | .after => MatchForm.escapeOption f.before ++ greedyGroup
  | .before => lazyGroup ++ MatchForm.escapeOption f.after
  | .matching =>
    match f.pattern with
    | some p => if p = "" then greedyGroup else '(' :: p.toList ++ [')']
    | none => greedyGroup
  | .other _ => greedyGroup

/-- What an extraction is compiled to, as a string. -/
def compile (f : ExtractionForm) : String := String.ofList f.source

/-- The description of the text between the two parameters. -/
def betweenText (f : ExtractionForm) : String :=
  "Extract between " ++ between (f.before.getD "") ++ " and " ++ between (f.after.getD "")

/-- The description that is stored with a compiled extraction. -/
def description (f : ExtractionForm) : String :=
  match f.operation with
  | .predefined key =>
    match PredefinedPattern.ofKey? key with
    | some p => p.label
    | none => "Extract value"
  | .between => f.betweenText
  | .betweenAndVerify => f.betweenText ++ " and verify " ++ between (f.verify.getD "")
  | .after => "Extract after " ++ between (f.before.getD "")
  | .before => "Extract before " ++ between (f.after.getD "")
  | .matching => "Extract matching " ++ between (f.pattern.getD "")
  | .other _ => "Extract value"

end ExtractionForm

end StatementTagging
