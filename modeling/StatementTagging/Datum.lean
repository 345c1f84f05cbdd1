import StatementTagging.Number.Binary

set_option autoImplicit false

/-! # Data

The values that rule documents and transaction rows hold. Documents are accepted with values of any
kind in most places, so one type serves for all of them. Records keep their entries in order of
arrival, each key once.
-/

namespace StatementTagging

/-- A value of a document or a row. -/
inductive Datum where
  | null
  | bool (value : Bool)
  | int (value : Int)
  | float (value : Float)
  | text (value : String)
  | list (items : List Datum)
  | record (entries : List (String × Datum))

instance : Inhabited Datum := ⟨.null⟩

namespace Datum

/-! ## Presence -/

/-- The value counts as present: it is not null, false, zero or empty. -/
def truthy : Datum → Bool
  | null => false
  | bool b => b
  | int n => n != 0
  | float x => !(x == 0)
  | text s => s != ""
  | list items => !items.isEmpty
  | record entries => !entries.isEmpty

/-- The value if it is present. -/
def present? (d : Datum) : Option Datum := if d.truthy then some d else none

/-- The value if it is present, otherwise the other one. -/
def orElse (d other : Datum) : Datum := if d.truthy then d else other

def isNull : Datum → Bool
  | null => true
  | _ => false

/-- Missing values: null and the floating-point value that is not a number. -/
def isMissing : Datum → Bool
  | null => true
  | float x => x.isNaN
  | _ => false

/-! ## Parts -/

def text? : Datum → Option String
  | text s => some s
  | _ => none

def entries? : Datum → Option (List (String × Datum))
  | record es => some es
  | _ => none

/-- The value under a key among the entries of a record; null if there is none. -/
def valueAt (entries : List (String × Datum)) (key : String) : Datum :=
  (entries.lookup key).getD null

/-- Compound values cannot be looked up in a table of keys. -/
def isCompound : Datum → Bool
  | list _ => true
  | record _ => true
  | _ => false

/-! ## Equality

Truth values, integers and floating-point numbers are compared by value, so that `1`, `1.0` and
`true` are the same; records are compared without regard to order. -/

/-- The integer that a number stands for, if any. -/
def integer? : Datum → Option Int
  | bool b => some (if b then 1 else 0)
  | int n => some n
  | float x => integral? x
  | _ => none

/-- Equality of two numbers by value. -/
def sameNumber : Datum → Datum → Bool
  | float x, float y => x == y
  | a, b =>
    match a.integer?, b.integer? with
    | some m, some n => m == n
    | _, _ => false

mutual

/-- Equality by value. -/
def same : Datum → Datum → Bool
  | null, null => true
  | text a, text b => a == b
  | list as, list bs => sameItems as bs
  | record as, record bs => as.length == bs.length && sameEntries as bs
  | a, b => sameNumber a b

/-- Equality of two lists item by item. -/
def sameItems : List Datum → List Datum → Bool
  | [], [] => true
  | a :: as, b :: bs => same a b && sameItems as bs
  | _, _ => false

/-- Every entry of the first list has the same value under the same key in the second. -/
def sameEntries : List (String × Datum) → List (String × Datum) → Bool
  | [], _ => true
  | (key, a) :: as, bs =>
    (match bs.lookup key with
      | some b => same a b
      | none => false) && sameEntries as bs

end

/-! ## Tables of entries in order of arrival -/

end Datum

/-- Puts a value under a key: in place if the key is there, otherwise at the end. -/
def upsert {α β : Type} (same : α → α → Bool) (key : α) (value : β) : List (α × β) → List (α × β)
  | [] => [(key, value)]
  | (k, v) :: r => if same k key then (k, value) :: r else (k, v) :: upsert same key value r

/-- The value under a key. -/
def lookupBy {α β : Type} (same : α → α → Bool) (key : α) (entries : List (α × β)) : Option β :=
  (entries.find? fun e => same e.1 key).map (·.2)

end StatementTagging
