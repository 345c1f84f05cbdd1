import StatementTagging.Datum
import StatementTagging.Json.Fault
import StatementTagging.Text.Digit

set_option autoImplicit false

/-! # Reading JSON

From a text to a datum. Integers have no bounds, a number with a fraction or an exponent is a
floating-point number, the names of the special numbers are accepted, and of two entries with one
key the place of the first and the value of the last are kept. The first fault decides.
-/

namespace StatementTagging.Json

open Text

/-- Blanks between the parts of a JSON text. -/
def isSpace (c : Char) : Bool := c == ' ' || c == '\t' || c == '\n' || c == '\r'

/-- The text without the blanks at its front. -/
def skipSpace (cs : List Char) : List Char := cs.dropWhile isSpace

/-! ## Strings -/

/-- The character of an escape with a single letter. -/
def escaped? (c : Char) : Option Char :=
  match c with
  | '"' => some '"'
  | '\\' => some '\\'
  | '/' => some '/'
  | 'b' => some '\x08'
  | 'f' => some '\x0c'
  | 'n' => some '\n'
  | 'r' => some '\r'
  | 't' => some '\t'
  | _ => none

/-- The code units of a string up to its closing quotation mark. `opening` is the text from the opening
mark on. An escape with a code needs four digits and something after them. -/
def readUnits (opening : List Char) : List Char → Except Halt (List Nat × List Char)
  | [] => .error ⟨.openString, opening.length⟩
  | '"' :: r => .ok ([], r)
  | ['\\'] => .error ⟨.openString, opening.length⟩
  | '\\' :: 'u' :: a :: b :: c :: d :: r =>
    if [a, b, c, d].all isHexDigit && !r.isEmpty then
      (readUnits opening r).map fun (units, rest) => (numeral 16 [a, b, c, d] :: units, rest)
    else .error ⟨.badCodeEscape, r.length + 5⟩
  | '\\' :: c :: r =>
    if c = 'u' then .error ⟨.badCodeEscape, r.length + 1⟩
    else
      match escaped? c with
      | some e => (readUnits opening r).map fun (units, rest) => (e.toNat :: units, rest)
      | none => .error ⟨.badEscape, r.length + 2⟩
  | c :: r =>
    if c.toNat < 32 then .error ⟨.controlCharacter, r.length + 1⟩
    else (readUnits opening r).map fun (units, rest) => (c.toNat :: units, rest)

/-- The first half of a character outside the basic plane. -/
def isHighHalf (n : Nat) : Bool := 0xd800 ≤ n && n ≤ 0xdbff

/-- The second half of a character outside the basic plane. -/
def isLowHalf (n : Nat) : Bool := 0xdc00 ≤ n && n ≤ 0xdfff

/-- The character with a code; a half without its other half is replaced. -/
def charOfCode (n : Nat) : Char := if n.isValidChar then Char.ofNat n else '\ufffd'

/-- Joins code units to characters. -/
def joinUnits : List Nat → List Char
  | [] => []
  | [n] => [charOfCode n]
  | m :: n :: r =>
    if isHighHalf m && isLowHalf n then
      charOfCode (0x10000 + (m - 0xd800) * 0x400 + (n - 0xdc00)) :: joinUnits r
    else charOfCode m :: joinUnits (n :: r)

/-- A string, given the text from its opening quotation mark on. -/
def readString (opening : List Char) : Except Halt (String × List Char) :=
  (readUnits opening opening.tail).map fun (units, rest) =>
    (String.ofList (joinUnits units), rest)

/-! ## Numbers -/

/-- The digits before the point: a zero or digits that do not start with one. -/
def readWhole : List Char → Option (List Char × List Char)
  | c :: r =>
    if c = '0' then some (['0'], r)
    else if isBasicDigit c then some (c :: r.takeWhile isBasicDigit, r.dropWhile isBasicDigit)
    else none
  | [] => none

/-- The digits after the point; none if no digit follows it. -/
def readFraction (cs : List Char) : List Char × List Char :=
  match cs with
  | '.' :: r =>
    let digits := r.takeWhile isBasicDigit
    if digits.isEmpty then ([], cs) else (digits, r.dropWhile isBasicDigit)
  | _ => ([], cs)

/-- The exponent; none if it has no digits. -/
def readExponent (cs : List Char) : Option Int × List Char :=
  match cs with
  | e :: r =>
    if e == 'e' || e == 'E' then
      let (negative, digits) := match r with
        | '-' :: r' => (true, r')
        | '+' :: r' => (false, r')
        | _ => (false, r)
      let ds := digits.takeWhile isBasicDigit
      if ds.isEmpty then (none, cs)
      else
        let n : Int := numeral 10 ds
        (some (if negative then -n else n), digits.dropWhile isBasicDigit)
    else (none, cs)
  | [] => (none, cs)

/-- A number after its sign. -/
def readUnsigned? (negative : Bool) (cs : List Char) : Option (Datum × List Char) :=
  (readWhole cs).map fun (whole, r) =>
    let (fraction, r) := readFraction r
    let (exponent, r) := readExponent r
    if fraction.isEmpty && exponent.isNone then
      let n : Int := numeral 10 whole
      (.int (if negative then -n else n), r)
    else
      let shift := exponent.getD 0 - fraction.length
      (.float (floatOfDecimal negative (numeral 10 (whole ++ fraction)) shift), r)

/-- A number. -/
def readNumber? (cs : List Char) : Option (Datum × List Char) :=
  match cs with
  | '-' :: r => readUnsigned? true r
  | _ => readUnsigned? false cs

/-! ## Values -/

/-- The values that are written as words. -/
def wordValues : List (List Char × Datum) :=
  [("null".toList, .null), ("true".toList, .bool true), ("false".toList, .bool false),
   ("NaN".toList, .float (0.0 / 0.0)), ("Infinity".toList, .float (1.0 / 0.0)),
   ("-Infinity".toList, .float (-1.0 / 0.0))]

/-- A value written as a word. -/
def readWord? (cs : List Char) : Option (Datum × List Char) :=
  (wordValues.find? fun w => w.1.isPrefixOf cs).map fun w => (w.2, cs.drop w.1.length)

mutual

/-- The value at the front of a text. `fuel` bounds the depth of the recursion. -/
def readValue : Nat → List Char → Except Halt (Datum × List Char)
  | 0, cs => .error ⟨.expectedValue, cs.length⟩
  | fuel + 1, cs =>
    match cs with
    | '"' :: _ => (readString cs).map fun (s, rest) => (.text s, rest)
    | '[' :: r =>
      match skipSpace r with
      | ']' :: rest => .ok (.list [], rest)
      | r => (readItems fuel r).map fun (items, rest) => (.list items, rest)
    | '\x7b' :: r =>
      match skipSpace r with
      | '\x7d' :: rest => .ok (.record [], rest)
      | r => (readEntries fuel [] r).map fun (entries, rest) => (.record entries, rest)
    | _ =>
      match readWord? cs with
      | some found => .ok found
      | none =>
        match readNumber? cs with
        | some found => .ok found
        | none => .error ⟨.expectedValue, cs.length⟩

/-- The items of a list up to its closing bracket; there is at least one. -/
def readItems : Nat → List Char → Except Halt (List Datum × List Char)
  | 0, cs => .error ⟨.expectedValue, cs.length⟩
  | fuel + 1, cs => do
    let (item, r) ← readValue fuel cs
    match skipSpace r with
    | ']' :: rest => return ([item], rest)
    | ',' :: r =>
      let (items, rest) ← readItems fuel (skipSpace r)
      return (item :: items, rest)
    | r => throw ⟨.expectedComma, r.length⟩

/-- The entries of a record up to its closing brace; there is at least one. `entries` are those read
so far. -/
def readEntries : Nat → List (String × Datum) → List Char →
    Except Halt (List (String × Datum) × List Char)
  | 0, _, cs => .error ⟨.expectedValue, cs.length⟩
  | fuel + 1, entries, cs =>
    match cs with
    | '"' :: _ => do
      let (key, r) ← readString cs
      match skipSpace r with
      | ':' :: r =>
        let (value, r) ← readValue fuel (skipSpace r)
        let entries := upsert (· == ·) key value entries
        match skipSpace r with
        | '\x7d' :: rest => return (entries, rest)
        | ',' :: r => readEntries fuel entries (skipSpace r)
        | r => throw ⟨.expectedComma, r.length⟩
      | r => throw ⟨.expectedColon, r.length⟩
    | _ => .error ⟨.expectedName, cs.length⟩

end

/-- The value that a whole text writes, or the place where it stops being one. -/
def scan (text : List Char) : Except Halt Datum := do
  if text.head? = some '\ufeff' then throw ⟨.byteOrderMark, text.length⟩
  let (value, rest) ← readValue (2 * text.length + 2) (skipSpace text)
  match skipSpace rest with
  | [] => return value
  | rest => throw ⟨.extraData, rest.length⟩

/-- The value that a text writes. -/
def read (text : String) : Except Fault Datum :=
  (scan text.toList).mapError (Fault.ofHalt text.toList)

end StatementTagging.Json
