import StatementTagging.Analysis
import StatementTagging.Table.Frame
import StatementTagging.Text.Pieces

set_option autoImplicit false

/-! # Tagging a frame

The analyses of the rows of a frame become columns beside the given ones: the tags, their number, the
identifiers of the definitions that matched, the highest certainty among them, and a column for each
extracted value and each check.
-/

namespace StatementTagging

/-! ## Tags in one cell -/

/-- The tags of a row in one text; every tag must be a text. -/
def joinTags (tags : List Datum) : Except Fault String := do
  return String.intercalate "|" (← tags.mapM fun t =>
    match t with
    | .text s => .ok s
    | _ => .error .wrongType)

/-- The value of a cell counts as missing. A cell with several values has no answer. -/
def cellMissing : Datum → Except Fault Bool
  | .list [] => .ok false
  | .list [d] => cellMissing d
  | .list (_ :: _ :: _) => .error .severalValues
  | d => .ok d.isMissing

/-- The tags in a text, without empty ones. -/
def tagsOfText (s : List Char) : List String :=
  ((Text.pieces '|' (Text.strip s)).filter (!·.isEmpty)).map String.ofList

/-- The tags in a cell. -/
def splitTags (cell : Datum) : Except Fault (List String) := do
  if ← cellMissing cell then return []
  return tagsOfText cell.display.toList

/-! ## Certainty -/

/-- The rank of a certainty; one that is not known ranks lowest. -/
def certaintyRank (certainty : Datum) : Except Fault Nat :=
  if certainty.isCompound then .error .wrongType
  else
    match certainty with
    | .text "HIGH" => .ok 3
    | .text "MEDIUM" => .ok 2
    | .text "LOW" => .ok 1
    | _ => .ok 0

/-- The certainty of highest rank, starting from one of rank `rank`; the first of several counts. -/
def bestCertainty (best : Datum) (rank : Nat) : List Datum → Except Fault Datum
  | [] => .ok best
  | c :: r => do
    let n ← certaintyRank c
    if rank < n then bestCertainty c n r else bestCertainty best rank r

/-- The highest certainty among definitions, the empty text if there are none. -/
def topCertainty (certainties : List Datum) : Except Fault Datum :=
  match certainties with
  | [] => .ok (.text "")
  | c :: r => do bestCertainty c (← certaintyRank c) r

/-! ## Columns -/

/-- The column of an extracted value. -/
def valueColumn (tag name : Datum) : String :=
  "Attr__" ++ tag.display ++ "__" ++ name.display

/-- The column of a check. -/
def checkColumn (tag name : Datum) : String :=
  "Verified__" ++ tag.display ++ "__" ++ name.display

/-- The two columns of an attribute. -/
def columnsOf (d : Definition) : List String :=
  d.attributes.flatMap fun a => [valueColumn d.tag a.tag, checkColumn d.tag a.tag]

/-- The columns of all attributes in the order of the rules, each once. -/
def attributeColumns (libraries : List Library) : List String :=
  ((libraries.flatMap (·.definitions)).flatMap columnsOf).eraseDups

/-- The cells that an analysis gives to columns. -/
def Analysis.cells (a : Analysis) : List (String × Datum) :=
  a.attributes.flatMap (fun (tag, values) =>
      values.map fun (name, v) => (valueColumn tag name, valueDatum v))
    ++ a.verified.flatMap fun (tag, checks) =>
      checks.map fun (name, ok) => (checkColumn tag name, .bool ok)

/-- The cell of a column in a row; the last value counts. -/
def Analysis.cell (a : Analysis) (column : String) : Datum :=
  ((a.cells.reverse.lookup column)).getD .null

/-- The analysis gives cells only to columns that are there. -/
def Analysis.checkColumns (a : Analysis) (columns : List String) : Except Fault Unit :=
  a.cells.forM fun (column, _) =>
    if columns.contains column then .ok () else .error (.missingEntry column)

/-- The column is one of checks. -/
def isCheckColumn (column : String) : Bool := "Verified__".toList.isPrefixOf column.toList

/-- Adds the columns of attributes, leaving out checks that were never made. -/
def addAttributeColumns (analyses : List Analysis) (f : Frame) :
    List String → Except Fault Frame
  | [] => .ok f
  | column :: r => do
    let values := analyses.map (·.cell column)
    if isCheckColumn column && values.all (·.isNull) then addAttributeColumns analyses f r
    else addAttributeColumns analyses (← f.withColumn column values) r

/-- The frame with the columns that the analyses of its rows give. -/
def tagFrame (f : Frame) (libraries : List Library) (today : String) : Except Fault Frame := do
  let analyses ← analyzeRows libraries today f.rows
  let tags ← analyses.mapM fun a => joinTags a.tags
  let f ← f.withColumn "Tags" (tags.map .text)
  let f ← f.withColumn "Tag_Count" (analyses.map fun a => .int a.tags.length)
  let ids := analyses.map fun a => String.intercalate "|" (a.matched.map (·.id.display))
  let f ← f.withColumn "Matched_Definition_Ids" (ids.map .text)
  let certainties ← analyses.mapM fun a => topCertainty (a.matched.map (·.certainty))
  let f ← f.withColumn "Top_Certainty" certainties
  let columns := attributeColumns libraries
  analyses.forM (·.checkColumns columns)
  addAttributeColumns analyses f columns

end StatementTagging
