import StatementTagging.Files
import StatementTagging.Json.Reader
import StatementTagging.Rule.Attribute

set_option autoImplicit false

/-! # Transactions

A file of transactions is a JSON document or a table. The document is a list of rows, or a record with
that list under `Transactions`; a row is a record, or a list of keys with their values.
-/

namespace StatementTagging.Transactions

/-! ## Rows of documents -/

/-- The key and the value in an item of a row that is a list; `index` counts the items. -/
def pairOf (index : Nat) (item : Datum) : Except Fault (Datum × Datum) := do
  match ← item.parts with
  | [key, value] => return (key, value)
  | parts => throw (.pairLength index parts.length)

/-- The entries that items write, after those of a table; later ones replace earlier ones. -/
def entriesFrom (table : TagTable Datum) : Nat → List Datum → Except Fault (TagTable Datum)
  | _, [] => .ok table
  | index, item :: r => do
    let (key, value) ← pairOf index item
    entriesFrom (← table.put key value) (index + 1) r

/-- The row that a datum writes. -/
def rowOf (d : Datum) : Except Fault Row :=
  match d with
  | .record es => .ok es
  | d => do
    let table ← entriesFrom [] 0 (← d.parts)
    return table.foldl (fun row (key, value) => upsert (· == ·) key.display value row) []

/-! ## Documents -/

/-- The part of a document that should be the list of rows. -/
def listOf (d : Datum) : Datum :=
  match d with
  | .record es => Datum.valueAt es "Transactions"
  | d => d

/-- The rows of a document; `path` is where it comes from. -/
def ofDocument (path : Path) (text : List Char) : Except Fault (List Row) := do
  match listOf (← (Json.read (String.ofList text)).mapError .json) with
  | .list items => items.mapM rowOf
  | _ => throw (.noTransactionList path.text)

/-! ## Files -/

/-- The rows in a file. -/
def load (files : Files) (path : Path) : Except Fault (List Row) := do
  let bytes ← files.expect "Transactions" path
  if path.hasSuffix ".json" then ofDocument path (← Files.textOf bytes)
  else return (← Files.tableOf bytes).rows

end StatementTagging.Transactions
