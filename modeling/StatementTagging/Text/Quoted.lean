import StatementTagging.Text.Printable

set_option autoImplicit false

/-! # Quoted texts

The form in which a text is quoted inside a message or inside the text of a list: between quotation
marks, with escapes for the mark, the backslash and whatever does not print.
-/

namespace StatementTagging.Text

/-- A number in hexadecimal, lower case, with at least `width` digits. -/
def hex (width n : Nat) : List Char :=
  let digits := Nat.toDigits 16 n
  List.replicate (width - digits.length) '0' ++ digits

/-- The quoted form of one character between marks `mark`. -/
def quoteChar (mark c : Char) : List Char :=
  if c == mark || c == '\\' then ['\\', c]
  else if c == '\n' then ['\\', 'n']
  else if c == '\r' then ['\\', 'r']
  else if c == '\t' then ['\\', 't']
  else if isPrintable c then [c]
  else if c.toNat < 0x100 then '\\' :: 'x' :: hex 2 c.toNat
  else if c.toNat < 0x10000 then '\\' :: 'u' :: hex 4 c.toNat
  else '\\' :: 'U' :: hex 8 c.toNat

/-- Apostrophes are the marks, unless the text holds one and no double quotation mark. -/
def quotationMark (s : List Char) : Char :=
  if s.contains '\'' && !s.contains '"' then '"' else '\''

/-- The quoted form of a text. -/
def quote (s : List Char) : List Char :=
  let mark := quotationMark s
  mark :: (s.flatMap (quoteChar mark) ++ [mark])

/-- The quoted form of a text, as a string. -/
def quoted (s : String) : String := String.ofList (quote s.toList)

/-- A list of texts in quoted form, between brackets. -/
def quotedList (items : List String) : String :=
  "[" ++ String.intercalate ", " (items.map quoted) ++ "]"

end StatementTagging.Text
