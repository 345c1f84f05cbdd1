set_option autoImplicit false

/-! # Floating-point numbers as exact values

A finite floating-point number is an integer times a power of two. Printing, rounding and comparing
with integers work on that exact value; conversion from decimals goes the other way.
-/

namespace StatementTagging

/-- The exact value `± mantissa · 2 ^ exponent`. -/
structure Binary where
  negative : Bool
  mantissa : Nat
  exponent : Int

namespace Binary

/-- The exact value of a finite number; infinities and NaN have none. -/
def ofFloat? (x : Float) : Option Binary :=
  let bits := x.toBits.toNat
  let negative := bits / Nat.pow 2 63 == 1
  let biased : Nat := bits / Nat.pow 2 52 % Nat.pow 2 11
  let fraction : Nat := bits % Nat.pow 2 52
  if biased == 2047 then none
  else if biased == 0 then some ⟨negative, fraction, -1074⟩
  else some ⟨negative, fraction + Nat.pow 2 52, (biased : Int) - 1075⟩

/-- Numerator and denominator of the absolute value. -/
def ratio (b : Binary) : Nat × Nat :=
  match b.exponent with
  | .ofNat e => (b.mantissa * Nat.pow 2 e, 1)
  | .negSucc e => (b.mantissa, Nat.pow 2 (e + 1))

/-- The value as an integer, if it is one. -/
def toInt? (b : Binary) : Option Int :=
  let (num, den) := b.ratio
  if num % den == 0 then
    let n : Int := num / den
    some (if b.negative then -n else n)
  else none

end Binary

/-- The integer a floating-point number stands for, if it is finite and integral. -/
def integral? (x : Float) : Option Int := (Binary.ofFloat? x).bind Binary.toInt?

/-- The number of decimal digits, one for zero. -/
def decimalLength (n : Nat) : Nat := (Nat.toDigits 10 n).length

/-- The floating-point number nearest to `± mantissa · 10 ^ exponent`. Exponents far outside the
range are settled first, so that no huge power is ever computed. -/
def floatOfDecimal (negative : Bool) (mantissa : Nat) (exponent : Int) : Float :=
  let magnitude : Float :=
    if mantissa == 0 then 0
    else
      let top := exponent + decimalLength mantissa
      if top > 400 then 1.0 / 0.0
      else if top < -400 then 0
      else Float.ofScientific mantissa (exponent < 0) exponent.natAbs
  if negative then -magnitude else magnitude

/-- The floating-point number nearest to an integer, if it is in range. -/
def floatOfInt? (n : Int) : Option Float :=
  let x := floatOfDecimal (n < 0) n.natAbs 0
  if x.isFinite then some x else none

end StatementTagging
