import StatementTagging.Condition
import StatementTagging.Datum.Print
import StatementTagging.Fault
import StatementTagging.Number.Leading
import StatementTagging.Pattern.Matcher
import StatementTagging.Pattern.Reader

set_option autoImplicit false

/-! # Criteria

A rule keeps one text that is either a pattern or a comparison with a number. A criterion is that text
with the decision made, ready to be run on the value of a field.
-/

namespace StatementTagging

/-! ## The two kinds -/

/-- What a rule tests a value for. -/
inductive Criterion where
  | pattern (source : List Char)
  | comparison (c : Comparison) (threshold : List Char)
deriving DecidableEq

namespace Criterion

/-- The criterion that a text of a rule stands for: a comparison if the text begins with the mark of
one, otherwise a pattern. -/
def ofSource (source : List Char) : Criterion :=
  match Comparison.all.find? fun c => c.mark.isPrefixOf source with
  | some c => comparison c (source.drop c.mark.length)
  | none => pattern source

/-- The text of a criterion in a rule. -/
def source : Criterion → List Char
  | pattern source => source
  | comparison c threshold => c.mark ++ threshold

end Criterion

/-! ## Running -/

/-- The pattern that a text writes; nothing if the text is malformed. Some kinds of texts are faults
rather than malformed. -/
def compilePattern (source : List Char) : Except Fault (Option Pattern) :=
  match Pattern.read source with
  | .ok p => .ok (some p)
  | .error .malformed => .ok none
  | .error .repetitionTooLarge => .error .repetitionTooLarge
  | .error .flagConflict => .error .flagConflict
  | .error .codeTooLarge => .error .codeTooLarge
  | .error (.tooManyDigits count) => .error (.tooManyDigits count)

/-- The number that a value stands for in comparisons: that of a number, or the one at the front of a
text. -/
def Datum.number? : Datum → Except Fault (Option Float)
  | .null => .ok none
  | .bool _ => .ok none
  | .int n =>
    match floatOfInt? n with
    | some x => .ok (some x)
    | none => .error .numberTooLarge
  | .float x => .ok (if x.isNaN then none else some x)
  | d => .ok (numberIn? d.display.toList)

namespace Criterion

/-- The criterion accepts a value. A pattern is looked for in the text of the value without blanks at
its ends; a comparison needs a number on both sides. -/
def accepts (c : Criterion) (value : Datum) : Except Fault Bool :=
  match c with
  | pattern source => do
    match ← compilePattern source with
    | some p => return Pattern.matchesIn p (Text.strip value.fieldText.toList)
    | none => return false
  | comparison c threshold => do
    match numberIn? threshold, ← value.number? with
    | some limit, some number => return c.holds number limit
    | _, _ => return false

end Criterion

end StatementTagging
