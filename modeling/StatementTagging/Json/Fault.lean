set_option autoImplicit false

/-! # Faults in JSON texts

What can be wrong with a text that should be JSON, where, and how it is reported.
-/

namespace StatementTagging.Json

/-- What is wrong. -/
inductive FaultKind where
  | byteOrderMark
  | expectedValue
  | expectedName
  | expectedColon
  | expectedComma
  | openString
  | controlCharacter
  | badEscape
  | badCodeEscape
  | extraData
deriving DecidableEq

/-- The wording of each kind. -/
def FaultKind.text : FaultKind → String
  | byteOrderMark => "Unexpected UTF-8 BOM (decode using utf-8-sig)"
  | expectedValue => "Expecting value"
  | expectedName => "Expecting property name enclosed in double quotes"
  | expectedColon => "Expecting ':' delimiter"
  | expectedComma => "Expecting ',' delimiter"
  | openString => "Unterminated string starting at"
  | controlCharacter => "Invalid control character at"
  | badEscape => "Invalid \\escape"
  | badCodeEscape => "Invalid \\uXXXX escape"
  | extraData => "Extra data"

/-- A fault as the scanner meets it: the place is given by the number of characters left. -/
structure Halt where
  kind : FaultKind
  left : Nat

/-- A fault at a place of the text: characters count from zero, lines and columns from one. -/
structure Fault where
  kind : FaultKind
  line : Nat
  column : Nat
  offset : Nat
deriving DecidableEq

namespace Fault

/-- The fault found in a text with so many characters left. -/
def ofHalt (text : List Char) (h : Halt) : Fault :=
  let offset := text.length - h.left
  let before := text.take offset
  { kind := h.kind
    line := before.count '\n' + 1
    column := (before.reverse.takeWhile (· != '\n')).length + 1
    offset := offset }

/-- The report of a fault. -/
def message (f : Fault) : String :=
  s!"{f.kind.text}: line {f.line} column {f.column} (char {f.offset})"

end Fault

end StatementTagging.Json
