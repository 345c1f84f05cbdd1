import StatementTagging.Datum
import StatementTagging.Fault

set_option autoImplicit false

/-! # Taking data apart

Three ways of looking into a datum that may be of the wrong kind: an entry that must be there, an entry
that may be missing, and the items to go through. Each fails in its own way.
-/

namespace StatementTagging.Datum

/-- The value under a key that must be there. -/
def entry (d : Datum) (key : String) : Except Fault Datum :=
  match d with
  | record es =>
    match es.lookup key with
    | some v => .ok v
    | none => .error (.missingEntry key)
  | _ => .error .wrongType

/-- The value under a key, null if it is missing. -/
def field (d : Datum) (key : String) : Except Fault Datum :=
  match d with
  | record es => .ok (valueAt es key)
  | _ => .error .lacksMember

/-- The value under a key, or another one if the key is missing. -/
def fieldOr (d : Datum) (key : String) (other : Datum) : Except Fault Datum :=
  match d with
  | record es => .ok ((es.lookup key).getD other)
  | _ => .error .lacksMember

/-- What a loop over the datum goes through: items, keys or characters. -/
def parts : Datum → Except Fault (List Datum)
  | list items => .ok items
  | record es => .ok (es.map fun e => text e.1)
  | text s => .ok (s.toList.map fun c => text (String.ofList [c]))
  | _ => .error .wrongType

/-- The parts of a datum that counts as empty when it is not present. -/
def partsIfPresent (d : Datum) : Except Fault (List Datum) := if d.truthy then d.parts else .ok []

end StatementTagging.Datum

namespace StatementTagging

/-! ## Rows -/

/-- A transaction: values under field names. -/
abbrev Row := List (String × Datum)

/-- The value of a field, null if the row has none. The name of the field comes from a document and may
be anything; only a text can be the name of a field, and a compound value cannot be looked up. -/
def fieldOf (row : Row) (name : Datum) : Except Fault Datum :=
  match name with
  | .text key => .ok (Datum.valueAt row key)
  | .list _ => .error .wrongType
  | .record _ => .error .wrongType
  | _ => .ok .null

end StatementTagging
