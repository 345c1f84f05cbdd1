import StatementTagging.Report.Coverage

set_option autoImplicit false

/-! # Rows without tags

How much of a statement no rule explains, how serious that is, and the most frequent descriptions among
the rows left over.
-/

namespace StatementTagging.Untagged

/-! ## Severity -/

/-- The share of rows without tags from which on there is a warning. -/
def warningShare : Float := 0.30

/-- The share of rows without tags from which on it is critical. -/
def criticalShare : Float := 0.50

/-- How serious a share is. -/
def severity (part warning critical : Float) : String :=
  if critical ≤ part then "CRITICAL" else if warning ≤ part then "WARNING" else "OK"

/-! ## Descriptions -/

/-- The number of descriptions shown. -/
def topCount : Nat := 5

/-- The most frequent descriptions in a column, with their numbers. -/
def topDescriptions (f : Frame) (field : String) : Except Fault (List (String × Nat)) := do
  match f.column? field with
  | none => return []
  | some cells =>
    let texts ← cells.mapM normalizeDescription
    return (ranked (tally (texts.filter (· != "")))).take topCount

/-- The cells for the description of rank `i`. -/
def descriptionCells (top : List (String × Nat)) (i : Nat) : Row :=
  let (text, n) := top.getD i ("", 0)
  let name := "Top_Description_" ++ toString (i + 1)
  [(name, .text text), (name ++ "_Count", countDatum n)]

/-! ## The report -/

/-- What the report says. -/
structure Summary where
  total : Nat
  untagged : Nat
  field : String
  top : List (String × Nat)

namespace Summary

/-- The share of rows without tags; none of no rows. -/
def part (s : Summary) : Float := if s.total = 0 then 0 else share s.untagged s.total

/-- The share as a percentage. -/
def percentage (s : Summary) : Float := roundPlaces (s.part * 100) 2

/-- How serious the share is. -/
def grade (s : Summary) : String := severity s.part warningShare criticalShare

/-- The cells of the only line of the report. -/
def cells (s : Summary) : Row :=
  [("Total_Rows", countDatum s.total), ("Untagged_Count", countDatum s.untagged),
   ("Untagged_Pct", .float s.percentage), ("Severity", .text s.grade),
   ("Threshold_Warning", .float (warningShare * 100)),
   ("Threshold_Critical", .float (criticalShare * 100)), ("Description_Field", .text s.field)]
    ++ (List.range topCount).flatMap (descriptionCells s.top)

/-- The report that says this. -/
def table (s : Summary) : Except Fault Frame := Frame.ofRows [s.cells]

end Summary

/-- What there is to say about a frame. -/
def summarize (f : Frame) (field : String) : Except Fault Summary := do
  let tags ← rowTags f
  let untagged := f.keep (tags.map (·.isEmpty))
  let top ← topDescriptions untagged field
  return { total := f.height, untagged := untagged.height, field := field, top := top }

/-- The report on a frame. -/
def report (f : Frame) (field : String) : Except Fault Frame := do (← summarize f field).table

end StatementTagging.Untagged
