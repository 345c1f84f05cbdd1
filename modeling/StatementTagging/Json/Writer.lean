import StatementTagging.Datum
import StatementTagging.Number.Shortest
import StatementTagging.Text.Quoted

set_option autoImplicit false

/-! # Writing JSON

Documents are written with one item or entry on a line, two spaces for each level, and every character
that needs no escape as it is.
-/

namespace StatementTagging.Json

/-! ## Parts -/

/-- The written form of one character of a string. -/
def writeChar (c : Char) : List Char :=
  if c == '"' then ['\\', '"']
  else if c == '\\' then ['\\', '\\']
  else if c == '\n' then ['\\', 'n']
  else if c == '\r' then ['\\', 'r']
  else if c == '\t' then ['\\', 't']
  else if c == '\x08' then ['\\', 'b']
  else if c == '\x0c' then ['\\', 'f']
  else if c.toNat < 32 then '\\' :: 'u' :: Text.hex 4 c.toNat
  else [c]

/-- The written form of a string. -/
def writeString (s : String) : List Char := '"' :: (s.toList.flatMap writeChar ++ ['"'])

/-- The written form of a value that has no parts. -/
def writeScalar : Datum → List Char
  | .null => "null".toList
  | .bool b => if b then "true".toList else "false".toList
  | .int n => (toString n).toList
  | .float x => (NumberFormat.document.text x).toList
  | .text s => writeString s
  | .list _ => []
  | .record _ => []

/-! ## Layout -/

/-- A line break and the blanks of a level. -/
def newline (level : Nat) : List Char := '\n' :: List.replicate (2 * level) ' '

mutual

/-- The written form of a value at a level. -/
def writeAt (level : Nat) : Datum → List Char
  | .list [] => ['[', ']']
  | .list (d :: r) =>
    '[' :: newline (level + 1) ++ writeAt (level + 1) d ++ writeItems (level + 1) r
      ++ newline level ++ [']']
  | .record [] => ['\x7b', '\x7d']
  | .record ((key, d) :: r) =>
    '\x7b' :: newline (level + 1) ++ writeString key ++ [':', ' '] ++ writeAt (level + 1) d
      ++ writeEntries (level + 1) r ++ newline level ++ ['\x7d']
  | .null => writeScalar .null
  | .bool b => writeScalar (.bool b)
  | .int n => writeScalar (.int n)
  | .float x => writeScalar (.float x)
  | .text s => writeScalar (.text s)

/-- The items after the first one. -/
def writeItems (level : Nat) : List Datum → List Char
  | [] => []
  | d :: r => ',' :: newline level ++ writeAt level d ++ writeItems level r

/-- The entries after the first one. -/
def writeEntries (level : Nat) : List (String × Datum) → List Char
  | [] => []
  | (key, d) :: r =>
    ',' :: newline level ++ writeString key ++ [':', ' '] ++ writeAt level d
      ++ writeEntries level r

end

/-- The text of a document. -/
def write (d : Datum) : String := String.ofList (writeAt 0 d)

end StatementTagging.Json
