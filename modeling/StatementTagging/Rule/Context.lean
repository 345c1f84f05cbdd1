import StatementTagging.Datum.Access
import StatementTagging.Datum.Print

set_option autoImplicit false

/-! # Contexts

A context is a list of fields with the texts they must have. It matches a row that has all of them;
the order of its entries does not matter.
-/

namespace StatementTagging

/-- A field and the text it must have. -/
structure ContextEntry where
  key : String
  value : String
deriving DecidableEq

/-- The conditions a row must meet; the empty context is met by every row. -/
abbrev Context := List ContextEntry

/-- The entry that a datum writes. -/
def ContextEntry.ofDatum (d : Datum) : Except Fault ContextEntry := do
  let key ← d.entry "Key"
  let value ← d.field "Value"
  return ⟨key.display, value.fieldText⟩

/-- The datum for an entry. -/
def ContextEntry.toDatum (e : ContextEntry) : Datum :=
  .record [("Key", .text e.key), ("Value", .text e.value)]

namespace Context

/-- The context that a datum writes; a datum that is not present writes the empty one. -/
def ofDatum (d : Datum) : Except Fault Context := do
  (← d.partsIfPresent).mapM ContextEntry.ofDatum

/-- The datum for a context. -/
def toDatum (c : Context) : Datum := .list (c.map ContextEntry.toDatum)

/-- The text under a key. -/
def value? (c : Context) (key : String) : Option String :=
  (c.find? (·.key == key)).map (·.value)

/-- Two contexts have the same entries, each equally often. -/
def same (a b : Context) : Bool := a.isPerm b

/-- The row has the text of every entry in its field. -/
def matchesRow (c : Context) (row : Row) : Bool :=
  c.all fun e =>
    let value := Datum.valueAt row e.key
    !value.isNull && value.fieldText == e.value

/-- The text of a context in reports. -/
def format (c : Context) : String :=
  if c.isEmpty then "(any)"
  else String.intercalate ", " (c.map fun e => e.key ++ "=" ++ e.value)

end Context

end StatementTagging
