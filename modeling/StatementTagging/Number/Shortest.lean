import StatementTagging.Number.Binary

set_option autoImplicit false

/-! # The shortest decimal text of a floating-point number

A number is printed with the fewest significant digits that read back as the same number; of several
such digit strings the nearest to the exact value is taken. `shortestDigits` finds the digits,
`NumberFormat` says where the point goes.
-/

namespace StatementTagging

/-! ## Digits -/

/-- The decimal `digits · 10 ^ exponent`. -/
structure Decimal where
  digits : Nat
  exponent : Int

namespace Decimal

/-- Drops the zeros at the end of the digits; `fuel` bounds their number. -/
def trim : Nat → Decimal → Decimal
  | 0, d => d
  | fuel + 1, d =>
    if d.digits ≠ 0 ∧ d.digits % 10 = 0 then trim fuel ⟨d.digits / 10, d.exponent + 1⟩ else d

end Decimal

/-- The least `j ≤ fuel` with `den ≤ num · 10 ^ j`, starting the count at `j`. -/
def leadingZeros (num den : Nat) : Nat → Nat → Nat
  | 0, j => j
  | fuel + 1, j => if den ≤ num then j else leadingZeros (num * 10) den fuel (j + 1)

/-- The decimal exponent of the leading digit of `num / den`. -/
def leadingExponent (num den : Nat) : Int :=
  if den ≤ num then (decimalLength (num / den) : Int) - 1
  else -(leadingZeros num den 400 0 : Int)

/-- A fraction `num / den · 10 ^ e` as a numerator and a denominator. -/
def scaled (num den : Nat) (e : Int) : Nat × Nat :=
  match e with
  | .ofNat n => (num * Nat.pow 10 n, den)
  | .negSucc n => (num, den * Nat.pow 10 (n + 1))

/-- The interval of real numbers that round to a given positive number `value / den`; `closed` says
whether its ends belong to it. -/
structure RoundingInterval where
  low : Nat
  value : Nat
  high : Nat
  den : Nat
  closed : Bool

namespace RoundingInterval

/-- The interval around a positive number. The gap below a power of two is half as wide. -/
def ofBinary (b : Binary) : RoundingInterval :=
  let narrow := b.mantissa == Nat.pow 2 52 && b.exponent > -1074
  let (num, den) := (Binary.mk false 1 (b.exponent - 2)).ratio
  { low := (4 * b.mantissa - (if narrow then 1 else 2)) * num
    value := 4 * b.mantissa * num
    high := (4 * b.mantissa + 2) * num
    den := den
    closed := b.mantissa % 2 == 0 }

/-- The decimal `c · 10 ^ k` lies in the interval. -/
def contains (i : RoundingInterval) (c : Nat) (k : Int) : Bool :=
  let (num, den) := scaled c 1 k
  let here := num * i.den
  if i.closed then i.low * den ≤ here && here ≤ i.high * den
  else i.low * den < here && here < i.high * den

/-- The two neighbours of the value among the multiples of `10 ^ k`, tested against the interval:
of two hits the nearer one, and of two equally near ones the even one. -/
def candidate? (i : RoundingInterval) (k : Int) : Option Decimal :=
  let (num, den) := scaled i.value i.den (-k)
  let below := num / den
  let hitBelow := i.contains below k && below != 0
  let hitAbove := i.contains (below + 1) k
  match hitBelow, hitAbove with
  | true, true =>
    let twice := 2 * (num % den)
    if twice < den || (twice == den && below % 2 == 0) then some ⟨below, k⟩
    else some ⟨below + 1, k⟩
  | true, false => some ⟨below, k⟩
  | false, true => some ⟨below + 1, k⟩
  | false, false => none

/-- Tries ever finer grids, starting at `10 ^ k`. -/
def firstCandidate (i : RoundingInterval) : Nat → Int → Decimal
  | 0, k => ⟨i.value / i.den, k⟩
  | fuel + 1, k =>
    match i.candidate? k with
    | some d => d
    | none => i.firstCandidate fuel (k - 1)

end RoundingInterval

/-- The shortest decimal that rounds to a positive number; seventeen digits always suffice. -/
def shortestDigits (b : Binary) : Decimal :=
  let i := RoundingInterval.ofBinary b
  (i.firstCandidate 18 (leadingExponent i.value i.den)).trim 20

/-! ## Layout -/

/-- Where numbers are written with a plain decimal point, and how the others are written. -/
structure NumberFormat where
  /-- The least exponent of the leading digit that is written positionally. -/
  leastPositional : Int
  /-- The first exponent that is no longer written positionally. -/
  firstScientific : Int
  /-- The least number of digits of a written exponent. -/
  exponentWidth : Nat
  nan : String
  infinity : String

/-- Numbers as they appear in messages and tables: positional from `1e-4` up to below `1e16`, with
`.0` kept, otherwise with an exponent of at least two digits. -/
def NumberFormat.plain : NumberFormat := ⟨-4, 16, 2, "nan", "inf"⟩

/-- Numbers as they appear in documents, where the special values have other names. -/
def NumberFormat.document : NumberFormat := ⟨-4, 16, 2, "NaN", "Infinity"⟩

namespace NumberFormat

/-- The digits of an exponent with its sign. -/
def exponentText (f : NumberFormat) (e : Int) : String :=
  let digits := toString e.natAbs
  (if e < 0 then "e-" else "e+")
    ++ String.ofList (List.replicate (f.exponentWidth - digits.length) '0') ++ digits

/-- The text of a positive decimal whose digits have no zeros at the end. -/
def decimalText (f : NumberFormat) (d : Decimal) : String :=
  let digits := Nat.toDigits 10 d.digits
  let lead := d.exponent + digits.length - 1
  if f.leastPositional ≤ lead ∧ lead < f.firstScientific then
    if lead < 0 then
      "0." ++ String.ofList (List.replicate (lead.natAbs - 1) '0' ++ digits)
    else
      let whole := lead.toNat + 1
      let fraction := digits.drop whole
      String.ofList (digits.take whole ++ List.replicate (whole - digits.length) '0')
        ++ "." ++ (if fraction.isEmpty then "0" else String.ofList fraction)
  else
    let tail := digits.drop 1
    String.ofList (digits.take 1) ++ (if tail.isEmpty then "" else "." ++ String.ofList tail)
      ++ f.exponentText lead

/-- The shortest text of a floating-point number. -/
def text (f : NumberFormat) (x : Float) : String :=
  match Binary.ofFloat? x with
  | some b =>
    let body := if b.mantissa == 0 then "0.0" else f.decimalText (shortestDigits b)
    if b.negative then "-" ++ body else body
  | none => if x.isNaN then f.nan else if x < 0 then "-" ++ f.infinity else f.infinity

end NumberFormat

end StatementTagging
