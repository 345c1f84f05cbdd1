import StatementTagging.Number.Binary
import StatementTagging.Text.Blank
import StatementTagging.Text.Digit

set_option autoImplicit false

/-! # Numbers at the front of a text

Comparisons look at the number that a text begins with, whatever follows it. `leadingNumber?` finds its
text, `floatOfText?` reads a text that is a number from end to end.
-/

namespace StatementTagging

open Text

/-- An optional sign, and the text after it. -/
def takeSign : List Char → List Char × List Char
  | '+' :: r => (['+'], r)
  | '-' :: r => (['-'], r)
  | cs => ([], cs)

/-- The digits at the front, and the text after them. -/
def takeDigits (cs : List Char) : List Char × List Char :=
  (cs.takeWhile isDigit, cs.dropWhile isDigit)

/-- Digits with an optional point among or after them, or a point followed by digits; nothing if there
is neither. -/
def takeMantissa (cs : List Char) : Option (List Char × List Char) :=
  let (whole, r) := takeDigits cs
  match r with
  | '.' :: r' =>
    let (fraction, rest) := takeDigits r'
    if whole.isEmpty && fraction.isEmpty then none else some (whole ++ '.' :: fraction, rest)
  | _ => if whole.isEmpty then none else some (whole, r)

/-- An exponent, and the text after it; an exponent without digits is none. -/
def takeExponent (cs : List Char) : List Char × List Char :=
  match cs with
  | e :: r =>
    if e = 'e' ∨ e = 'E' then
      let (sign, r) := takeSign r
      let (digits, rest) := takeDigits r
      if digits.isEmpty then ([], cs) else (e :: sign ++ digits, rest)
    else ([], cs)
  | [] => ([], cs)

/-- The text of the number at the front. -/
def leadingNumber? (cs : List Char) : Option (List Char) :=
  let (sign, r) := takeSign cs
  (takeMantissa r).map fun (mantissa, r) => sign ++ mantissa ++ (takeExponent r).1

/-- The value of digits of any script. -/
def digitsValue (digits : List Char) : Nat :=
  digits.foldl (fun n c => 10 * n + (digitValue? c).getD 0) 0

/-- The number that a whole text writes. -/
def floatOfText? (cs : List Char) : Option Float :=
  let (sign, r) := takeSign cs
  match takeMantissa r with
  | none => none
  | some (mantissa, r) =>
    let (exponent, rest) := takeExponent r
    if !rest.isEmpty then none
    else
      let (expSign, expDigits) := takeSign exponent.tail
      let power : Int := digitsValue expDigits
      let power := if expSign == ['-'] then -power else power
      let whole := mantissa.takeWhile (· != '.')
      let fraction := (mantissa.dropWhile (· != '.')).tail
      some (floatOfDecimal (sign == ['-']) (digitsValue (whole ++ fraction))
        (power - fraction.length))

/-- The number at the front of a text, after blanks. -/
def numberIn? (cs : List Char) : Option Float :=
  (leadingNumber? (cs.dropWhile isBlank)).bind floatOfText?

end StatementTagging
