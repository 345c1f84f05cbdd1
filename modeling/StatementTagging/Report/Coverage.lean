import StatementTagging.Number.Rounding
import StatementTagging.Report.Description

set_option autoImplicit false

/-! # Coverage

How many rows carry each tag, and which share of all rows that is.
-/

namespace StatementTagging

/-- The columns that reports need. -/
def requiredColumns : List String := ["Tags"]

/-- The frame has the columns that reports need. -/
def checkColumns (f : Frame) : Except Fault Unit :=
  let missing := requiredColumns.filter fun name => !f.names.contains name
  if missing.isEmpty then .ok ()
  else .error (.columnsMissing missing (f.names.mergeSort fun a b => decide (a ≤ b)))

/-- The cells with the tags of the rows; the column must be there. -/
def tagCells (f : Frame) : Except Fault (List Datum) :=
  match f.column? "Tags" with
  | some cells => .ok cells
  | none => .error (.missingEntry "Tags")

/-- The tags of each row. -/
def rowTags (f : Frame) : Except Fault (List (List String)) := do (← tagCells f).mapM splitTags

/-- A number of rows in a report. -/
def countDatum (n : Nat) : Datum := .int n

/-- The share of `part` in `whole`, which is not zero. -/
def share (part whole : Nat) : Float := part.toFloat / whole.toFloat

namespace Coverage

/-- The columns of the report. -/
def columns : List String := ["Tag", "Txn_Count", "Txn_Pct", "Rank"]

/-- How many rows carry each tag; a tag that a row carries twice counts once for it. -/
def counts (tags : List (List String)) : List (String × Nat) :=
  ranked (tally (tags.flatMap List.eraseDups))

/-- A tag with the number of rows that carry it and their share. -/
structure Line where
  tag : String
  count : Nat
  percentage : Float
  rank : Nat

/-- The lines of the report on a frame. -/
def lines (f : Frame) : Except Fault (List Line) := do
  let tags ← rowTags f
  return (counts tags).zipIdx.map fun ((tag, n), i) =>
    { tag := tag, count := n, percentage := roundHundredths (share n f.height * 100), rank := i + 1 }

/-- The cells of a line. -/
def Line.cells (l : Line) : Row :=
  [("Tag", .text l.tag), ("Txn_Count", countDatum l.count), ("Txn_Pct", .float l.percentage),
   ("Rank", countDatum l.rank)]

/-- The report with given lines. -/
def table (lines : List Line) : Except Fault Frame :=
  Frame.ofRecords columns (lines.map Line.cells)

/-- The report on a frame. -/
def report (f : Frame) : Except Fault Frame := do table (← lines f)

end Coverage

end StatementTagging
