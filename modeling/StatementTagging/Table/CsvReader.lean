import StatementTagging.Fault
import StatementTagging.Table.Frame

set_option autoImplicit false

/-! # Reading tables of comma-separated values

A text is split into records of fields. Quotation marks around a field protect commas, line breaks and
doubled quotation marks; lines without a field are skipped. The first record names the columns, and the
longer of the first two gives the width that no later one may exceed.
-/

namespace StatementTagging.Csv

/-! ## Records -/

/-- Where the scanner stands. -/
inductive Place where
  /-- Before a record. -/
  | start
  /-- After a carriage return that ended a line. -/
  | afterReturn
  /-- After blanks at the start of a line, the last one first. -/
  | blanks (held : List Char)
  /-- Before a field. -/
  | field
  /-- In a field. -/
  | plain
  /-- Between quotation marks. -/
  | quoted
  /-- After a quotation mark between quotation marks. -/
  | quoteSeen

/-- What has been scanned. -/
structure Scan where
  place : Place := .start
  /-- The characters of the field being read, the last one first. -/
  current : List Char := []
  /-- The fields of the record being read, the last one first. -/
  fields : List (List Char) := []
  /-- The records, the last one first. -/
  records : List (List (List Char)) := []
  /-- The number of records and skipped lines. -/
  lines : Nat := 0
  /-- The greatest number of fields among the first two records. -/
  width : Nat := 0

namespace Scan

/-- Ends the field being read. -/
def endField (s : Scan) : Scan :=
  { s with place := .field, current := [], fields := s.current.reverse :: s.fields }

/-- Ends the record being read. -/
def endRecord (s : Scan) (place : Place) : Except TableFault Scan :=
  let seen := s.fields.length
  if 2 ≤ s.records.length ∧ s.width < seen then .error (.tooManyFields s.width (s.lines + 1) seen)
  else
    .ok { s with
      place := place
      fields := []
      records := s.fields.reverse :: s.records
      lines := s.lines + 1
      width := max s.width seen }

/-- Skips a line without fields. -/
def skipLine (s : Scan) (place : Place) : Scan := { s with place := place, lines := s.lines + 1 }

/-- Adds a character to the field being read. -/
def push (s : Scan) (c : Char) : Scan := { s with place := .plain, current := c :: s.current }

/-- A character after which a field may end. -/
def stepPlain (s : Scan) (c : Char) : Except TableFault Scan :=
  if c = '\n' then s.endField.endRecord .start
  else if c = '\r' then s.endField.endRecord .afterReturn
  else if c = ',' then .ok s.endField
  else .ok (s.push c)

/-- The first character of a field. -/
def stepField (s : Scan) (c : Char) : Except TableFault Scan :=
  if c = '"' then .ok { s with place := .quoted } else s.stepPlain c

/-- The first character of a line. -/
def stepStart (s : Scan) (c : Char) : Except TableFault Scan :=
  if c = '\n' then .ok (s.skipLine .start)
  else if c = '\r' then .ok (s.skipLine .afterReturn)
  else if c = ' ' ∨ c = '\t' then .ok { s with place := .blanks [c] }
  else s.stepField c

/-- Takes one character. -/
def step (s : Scan) (c : Char) : Except TableFault Scan :=
  match s.place with
  | .start => s.stepStart c
  | .afterReturn => if c = '\n' then .ok { s with place := .start } else s.stepStart c
  | .blanks held =>
    if c = '\n' then .ok (s.skipLine .start)
    else if c = '\r' then .ok (s.skipLine .afterReturn)
    else if c = ' ' ∨ c = '\t' then .ok { s with place := .blanks (c :: held) }
    else { s with current := held }.stepPlain c
  | .field => s.stepField c
  | .plain => s.stepPlain c
  | .quoted => if c = '"' then .ok { s with place := .quoteSeen } else
    .ok { s with current := c :: s.current }
  | .quoteSeen =>
    if c = '"' then .ok { s with place := .quoted, current := c :: s.current } else s.stepPlain c

/-- Ends the text. -/
def finish (s : Scan) : Except TableFault Scan :=
  match s.place with
  | .start | .afterReturn | .blanks _ => .ok s
  | .quoted => .error (.openQuote s.lines)
  | .field | .plain | .quoteSeen => s.endField.endRecord .start

end Scan

/-- The records of a text; a mark of byte order at its front does not belong to it. -/
def records (text : List Char) : Except TableFault (List (List (List Char))) := do
  let text := match text with
    | '\ufeff' :: r => r
    | cs => cs
  let s ← (← text.foldlM Scan.step {}).finish
  return s.records.reverse

/-! ## Names of columns -/

/-- Counts of names. -/
abbrev Counts := List (String × Nat)

/-- The count of a name. -/
def Counts.of (counts : Counts) (name : String) : Nat := (counts.lookup name).getD 0

/-- The counts with another count for a name. -/
def Counts.set (counts : Counts) (name : String) (n : Nat) : Counts :=
  upsert (· == ·) name n counts

/-- A name for a further column called `name`, made with numbers from `count` on; `taken` are the names
of all columns. -/
def numbered (taken : List String) (name : String) :
    Nat → Nat → Counts → String × Nat × Counts
  | 0, count, counts => (name, count, counts)
  | fuel + 1, count, counts =>
    let counts := counts.set name (count + 1)
    let candidate := name ++ "." ++ toString count
    if taken.contains candidate then numbered taken name fuel (count + 1) counts
    else
      match counts.of candidate with
      | 0 => (candidate, 0, counts)
      | n + 1 => numbered taken name fuel (n + 1) counts

/-- Gives the columns at the given places names of their own. -/
def distinctAt (taken : List String) (counts : Counts) : List Nat → List String
  | [] => taken
  | i :: r =>
    let name := taken.getD i ""
    match counts.of name with
    | 0 => distinctAt taken (counts.set name 1) r
    | n + 1 =>
      let (fresh, count, counts) := numbered taken name (2 * taken.length + 2) (n + 1) counts
      distinctAt (taken.set i fresh) (counts.set fresh (count + 1)) r

/-- The names of columns from their headings: a column without a heading is named by its place, and
names that occur again are numbered, those that were given first. -/
def columnNames (headings : List (List Char)) : List String :=
  let places := List.range headings.length
  let isUnnamed (i : Nat) : Bool := (headings.getD i []).isEmpty
  let names := places.map fun i =>
    if isUnnamed i then "Unnamed: " ++ toString i else String.ofList (headings.getD i [])
  distinctAt names [] (places.filter (!isUnnamed ·) ++ places.filter isUnnamed)

/-! ## Frames -/

/-- The cell of a field: an empty one is null. A character of code zero ends the text of a field. -/
def cell (field : List Char) : Datum :=
  let s := field.takeWhile (· != '\x00')
  if s.isEmpty then .null else .text (String.ofList s)

/-- The frame of a text. If the first row has more fields than there are columns, the columns are those
of the last fields. -/
def read (text : List Char) : Except TableFault Frame := do
  match ← records text with
  | [] => throw .empty
  | header :: data =>
    let names := columnNames (header.map fun field => field.takeWhile (· != '\x00'))
    let leading := (data.head?.map (·.length)).getD 0 - header.length
    let columns := names.zipIdx.map fun (name, i) =>
      (name, data.map fun record => cell (record.getD (leading + i) []))
    return ⟨data.length, columns⟩

end StatementTagging.Csv
