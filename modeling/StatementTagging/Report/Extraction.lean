import StatementTagging.Report.Coverage
import StatementTagging.Text.Lower

set_option autoImplicit false

/-! # Extracted values

For each attribute, how many of the rows with its tag have a value, how many lack one that they must
have, and how many checks failed.
-/

namespace StatementTagging.ExtractionReport

/-! ## Cells -/

/-- The cell holds nothing but blanks. -/
def isBlankCell (cell : Datum) : Except Fault Bool := do
  if ← cellMissing cell then return true
  return (Text.strip cell.display.toList).isEmpty

/-- The texts of a check that failed. -/
def failureTexts : List (List Char) := ["false".toList, "0".toList]

/-- The cell says that a check failed. -/
def isFailedCell (cell : Datum) : Except Fault Bool := do
  if ← isBlankCell cell then return false
  return failureTexts.contains ((Text.strip cell.display.toList).map Text.lowerChar)

/-! ## Lines -/

/-- The columns of the report. -/
def columns : List String :=
  ["Tag", "Attribute", "Is_Mandatory", "Matched_Rows", "Extracted", "Null", "Extraction_Pct",
   "Mandatory_Missing", "Verification_Failed"]

/-- The tag is a text among those of a row. -/
def carries (tag : Datum) (tags : List String) : Bool :=
  match tag with
  | .text s => tags.contains s
  | _ => false

/-- How many cells of a column pass a test; none if there is no such column. -/
def countCells (f : Frame) (column : String) (test : Datum → Except Fault Bool) :
    Except Fault (Option Nat) :=
  match f.column? column with
  | some cells => do return some ((← cells.mapM test).count true)
  | none => .ok none

/-- The line of an attribute of a definition with a tag. -/
def line (f : Frame) (tags : Except Fault (List (List String))) (tag : Datum) (a : Attribute) :
    Except Fault Row := do
  let matched := f.keep ((← tags).map (carries tag))
  let blank := (← countCells matched (valueColumn tag a.tag) isBlankCell).getD matched.height
  let failed := (← countCells matched (checkColumn tag a.tag) isFailedCell).getD 0
  let extracted := matched.height - blank
  let part := if matched.height = 0 then 0 else share extracted matched.height
  return [
    ("Tag", tag), ("Attribute", a.tag), ("Is_Mandatory", a.mandatory),
    ("Matched_Rows", countDatum matched.height), ("Extracted", countDatum extracted),
    ("Null", countDatum blank), ("Extraction_Pct", .float (roundPlaces (part * 100) 2)),
    ("Mandatory_Missing", countDatum (if a.mandatory.truthy then blank else 0)),
    ("Verification_Failed", countDatum failed)]

/-- The pair of tags is among those seen; compound tags cannot be looked up. -/
def isSeen (tag name : Datum) (seen : List (Datum × Datum)) : Except Fault Bool :=
  if tag.isCompound || name.isCompound then .error .wrongType
  else .ok (seen.any fun s => s.1.same tag && s.2.same name)

/-- The lines of attributes, each pair of tags once. -/
def linesFrom (f : Frame) (tags : Except Fault (List (List String)))
    (seen : List (Datum × Datum)) : List (Datum × Attribute) → Except Fault (List Row)
  | [] => .ok []
  | (tag, a) :: r => do
    if ← isSeen tag a.tag seen then linesFrom f tags seen r
    else
      let first ← line f tags tag a
      return first :: (← linesFrom f tags ((tag, a.tag) :: seen) r)

/-- The attributes of all definitions with the tags of these. -/
def attributesOf (libraries : List Library) : List (Datum × Attribute) :=
  (libraries.flatMap (·.definitions)).flatMap fun d => d.attributes.map fun a => (d.tag, a)

/-- The report on a frame. -/
def report (f : Frame) (libraries : List Library) : Except Fault Frame := do
  Frame.ofRecords columns (← linesFrom f (rowTags f) [] (attributesOf libraries))

end StatementTagging.ExtractionReport
