import StatementTagging.Datum
import StatementTagging.Datum.Access
import StatementTagging.Text.Digit

set_option autoImplicit false

/-! # Fields of rows

Rows have no fixed shape. This module finds out which fields there are, which of them identifies a row
and in what order the others are shown, and makes names of fields readable.
-/

namespace StatementTagging

/-! ## Metadata -/

/-- Fields that are never shown. -/
def skippedFields : List String :=
  ["FMSId", "Hash", "IsDeadEnd", "TagSpecId", "Version", "Tag", "CertaintyLevel", "Attributes",
   "MultiTags", "ExtractionCompletness"]

/-- Fields that may identify a row, the preferred one first. -/
def identifierCandidates : List String := ["_id", "Identifier", "Name"]

/-- Fields that are shown before all others, in this order. -/
def priorityFields : List String :=
  ["BankSwiftCode", "IBAN", "EntryDate", "Side", "TransactionTypeCode", "Amount"]

/-- The field that identifies rows, and the fields that are shown. -/
structure FieldMeta where
  identifier : String
  dataFields : List String
deriving DecidableEq

/-- Every entry of every row. -/
def allEntries (rows : List Row) : List (String × Datum) := rows.flatten

/-- The names of the fields that some row has. -/
def fieldNames (rows : List Row) : List String := (allEntries rows).map (·.1)

/-- The names of the fields that are compound in some row. -/
def compoundNames (rows : List Row) : List String :=
  ((allEntries rows).filter fun e => e.2.isCompound).map (·.1)

/-- Texts in the order of their characters' codes, each once. -/
def sortedNames (names : List String) : List String :=
  (names.eraseDups).mergeSort fun a b => decide (a ≤ b)

/-- The metadata of rows. -/
def FieldMeta.ofRows (rows : List Row) : FieldMeta :=
  let names := fieldNames rows
  let identifier := (identifierCandidates.find? names.contains).getD "_id"
  let shown := sortedNames (names.filter fun n =>
    !skippedFields.contains n && !(compoundNames rows).contains n && n != identifier)
  { identifier := identifier
    dataFields := priorityFields.filter shown.contains
      ++ shown.filter fun n => !priorityFields.contains n }

/-! ## Readable names -/

/-- A basic letter in lower case. -/
def isLowerLetter (c : Char) : Bool := 'a' ≤ c && c ≤ 'z'

/-- A basic letter in upper case. -/
def isUpperLetter (c : Char) : Bool := 'A' ≤ c && c ≤ 'Z'

/-- A basic letter of either case. -/
def isNameLetter (c : Char) : Bool := isLowerLetter c || isUpperLetter c

/-- Puts a space between the two parts that `parts?` reads at the front of a text, wherever it reads
them. What was read is not looked at again: the first `done` characters belong to the parts written
last. -/
def spaceParts (parts? : List Char → Option (List Char × List Char)) (done : Nat) :
    List Char → List Char
  | [] => []
  | c :: r =>
    match done with
    | k + 1 => spaceParts parts? k r
    | 0 =>
      match parts? (c :: r) with
      | some (lead, next) => lead ++ ' ' :: next ++ spaceParts parts? (lead.length + next.length - 1) r
      | none => c :: spaceParts parts? 0 r

/-- A character of one kind, and one of another kind behind it. -/
def pair? (first second : Char → Bool) : List Char → Option (List Char × List Char)
  | c :: d :: _ => if first c && second d then some ([c], [d]) else none
  | _ => none

/-- As many capitals as possible, and a capital and a small letter behind them. -/
def capitals? : List Char → Option (List Char × List Char)
  | [] => none
  | c :: r =>
    if isUpperLetter c then
      match capitals? r with
      | some (lead, next) => some (c :: lead, next)
      | none => (pair? isUpperLetter isLowerLetter r).map fun (d, e) => ([c], d ++ e)
    else none

/-- The name with spaces between its words and numbers: first before capitals, then before the last of several
capitals, and at last before and behind numbers. -/
def humanizeName (name : List Char) : List Char :=
  let words := spaceParts (pair? isLowerLetter isUpperLetter) 0 name
  let words := spaceParts capitals? 0 words
  let words := spaceParts (pair? isNameLetter Text.isDigit) 0 words
  spaceParts (pair? Text.isDigit isNameLetter) 0 words

/-- The name with spaces, as a string. -/
def humanize (name : String) : String := String.ofList (humanizeName name.toList)

end StatementTagging
