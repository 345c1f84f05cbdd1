import StatementTagging.Datum.Print
import StatementTagging.Table.Frame

set_option autoImplicit false

/-! # Writing tables of comma-separated values

One line for the names of the columns and one for each row. A field is quoted only if it holds a comma,
a quotation mark or a line feed; null is an empty field.
-/

namespace StatementTagging.Csv

/-- The field needs quotation marks. -/
def needsQuotes (field : List Char) : Bool :=
  field.any fun c => c == ',' || c == '"' || c == '\n'

/-- The written form of a field. -/
def writeField (field : List Char) : List Char :=
  if needsQuotes field then
    '"' :: (field.flatMap (fun c => if c = '"' then ['"', '"'] else [c]) ++ ['"'])
  else field

/-- The written form of a record. One that would be an empty line is quoted. -/
def writeRecord (fields : List (List Char)) : List Char :=
  match fields with
  | [[]] => ['"', '"', '\n']
  | fields => List.intercalate [','] (fields.map writeField) ++ ['\n']

/-- The text of a cell. -/
def cellText (d : Datum) : String := if d.isMissing then "" else d.display

/-- The text of a frame. -/
def write (f : Frame) : String :=
  let header := writeRecord (f.names.map (·.toList))
  let rows := f.cells.map fun cells => writeRecord (cells.map fun d => (cellText d).toList)
  String.ofList (header ++ rows.flatten)

end StatementTagging.Csv
