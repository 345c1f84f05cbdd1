import StatementTagging.Tagging
import StatementTagging.Text.Upper

set_option autoImplicit false

/-! # Descriptions

Free texts of transactions are brought into one form before they are counted: upper case, single
spaces, at most eighty characters.
-/

namespace StatementTagging

/-- The greatest length of a description. -/
def descriptionLength : Nat := 80

/-- The form in which a description is counted. -/
def normalizeText (s : List Char) : List Char :=
  let words := Text.words (Text.strip (Text.upper s))
  (List.intercalate [' '] words).take descriptionLength

/-- The description in a cell, the empty text if there is none. -/
def normalizeDescription (cell : Datum) : Except Fault String := do
  if ← cellMissing cell then return ""
  return String.ofList (normalizeText cell.display.toList)

/-! ## Counting -/

/-- Counts how often each text occurs, in order of first occurrence. -/
def tally (texts : List String) : List (String × Nat) :=
  texts.foldl (fun counts s => upsert (· == ·) s ((counts.lookup s).getD 0 + 1) counts) []

/-- The order of reports: more frequent texts first, and texts of one frequency by their characters'
codes. -/
def rankedBefore (a b : String × Nat) : Bool := b.2 < a.2 || (a.2 == b.2 && decide (a.1 ≤ b.1))

/-- Counts in the order of reports. -/
def ranked (counts : List (String × Nat)) : List (String × Nat) := counts.mergeSort rankedBefore

end StatementTagging
