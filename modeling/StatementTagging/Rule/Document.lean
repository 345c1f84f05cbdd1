import StatementTagging.Json.Reader
import StatementTagging.Json.Writer
import StatementTagging.Rule.Definition

set_option autoImplicit false

/-! # Rule documents

A rule document is a JSON list of libraries. Its outer shape is checked before any library is read, and
the first violation is reported.
-/

namespace StatementTagging.Document

/-! ## Shape -/

/-- The lists that every library must have. -/
def requiredLists : List String := ["Context", "TagSpecDefinitions"]

/-- A datum is a list. -/
def isList : Datum → Bool
  | .list _ => true
  | _ => false

/-- Every definition of library `library` is a record; `index` counts the definitions. -/
def checkDefinitions (library : Nat) : Nat → List Datum → Except DocumentFault Unit
  | _, [] => .ok ()
  | index, d :: r =>
    match d with
    | .record _ => checkDefinitions library (index + 1) r
    | _ => .error (.definitionNotRecord index library)

/-- Every library is a record with the required lists; `index` counts the libraries. -/
def checkLibraries : Nat → List Datum → Except DocumentFault Unit
  | _, [] => .ok ()
  | index, d :: r =>
    match d with
    | .record es => do
      let missing := requiredLists.filter fun key => !isList (Datum.valueAt es key)
      if !missing.isEmpty then throw (.missingLists index missing)
      match Datum.valueAt es "TagSpecDefinitions" with
      | .list definitions => checkDefinitions index 0 definitions
      | _ => return
      checkLibraries (index + 1) r
    | _ => .error (.libraryNotRecord index)

/-- The libraries of a document, as data. -/
def checked (d : Datum) : Except DocumentFault (List Datum) :=
  match d with
  | .list items => (checkLibraries 0 items).map fun _ => items
  | d => .error (.notList d.kindName)

/-! ## Reading and writing -/

/-- What makes a part of a document no definition. Other faults are not about the form of a part. -/
def malformation? : Fault → Option Malformation
  | .missingEntry key => some (.missingEntry key)
  | .wrongType => some .wrongType
  | .lacksMember => some .lacksMember
  | _ => none

/-- The report of a fault met inside a library: a malformed part is a fault of the document, and any
other fault stays as it is. -/
def reported (f : Fault) : Fault :=
  match malformation? f with
  | some cause => .document (.malformed cause)
  | none => f

/-- The libraries that a text writes. -/
def load (text : String) : Except Fault (List Library) := do
  let data ← (Json.read text).mapError fun f => .document (.notJson f)
  let items ← (checked data).mapError .document
  (items.mapM Library.ofDatum).mapError reported

/-- The text of libraries. -/
def render (libraries : List Library) : String :=
  Json.write (.list (libraries.map Library.toDatum))

end StatementTagging.Document
