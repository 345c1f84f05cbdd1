import StatementTagging.Datum
import StatementTagging.Number.Shortest
import StatementTagging.Text.Quoted

set_option autoImplicit false

/-! # Texts of data

A datum has two texts. `display` is the one of messages, identifiers and tables; `fieldText` is the
one that conditions and contexts are compared with, where truth values are in lower case and
integral numbers have no point.
-/

namespace StatementTagging.Datum

mutual

/-- The text of a datum inside a list or a record: texts are quoted. -/
def literal : Datum → String
  | null => "None"
  | bool b => if b then "True" else "False"
  | int n => toString n
  | float x => NumberFormat.plain.text x
  | text s => Text.quoted s
  | list items => "[" ++ String.intercalate ", " (literalItems items) ++ "]"
  | record entries => "\x7b" ++ String.intercalate ", " (literalEntries entries) ++ "\x7d"

/-- The texts of the items of a list. -/
def literalItems : List Datum → List String
  | [] => []
  | d :: r => literal d :: literalItems r

/-- The texts of the entries of a record. -/
def literalEntries : List (String × Datum) → List String
  | [] => []
  | (key, d) :: r => (Text.quoted key ++ ": " ++ literal d) :: literalEntries r

end

/-- The text of a datum standing alone. -/
def display : Datum → String
  | text s => s
  | d => d.literal

/-- The text of a row value that conditions, contexts and extractions look at. -/
def fieldText : Datum → String
  | null => ""
  | bool b => if b then "true" else "false"
  | float x =>
    match integral? x with
    | some n => toString n
    | none => NumberFormat.plain.text x
  | d => d.display

/-- The name of the kind of a datum. -/
def kindName : Datum → String
  | null => "NoneType"
  | bool _ => "bool"
  | int _ => "int"
  | float _ => "float"
  | text _ => "str"
  | list _ => "list"
  | record _ => "dict"

end StatementTagging.Datum
