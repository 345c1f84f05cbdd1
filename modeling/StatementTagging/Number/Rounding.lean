import StatementTagging.Number.Binary

set_option autoImplicit false

/-! # Rounding to decimal places

Rounding of the exact value of a number to a given number of decimal places, a half going to the even
neighbour, and the two uses made of it: rounded numbers and texts with a fixed number of places.
-/

namespace StatementTagging

/-- The integer nearest to `num / den`; a half goes to the even neighbour. -/
def roundDiv (num den : Nat) : Nat :=
  let q := num / den
  let twice := 2 * (num % den)
  if twice < den then q
  else if den < twice then q + 1
  else if q % 2 = 0 then q else q + 1

/-- The exact value times `10 ^ places`, rounded. -/
def Binary.roundScaled (b : Binary) (places : Nat) : Nat :=
  let (num, den) := b.ratio
  roundDiv (num * Nat.pow 10 places) den

/-- The number rounded to `places` decimal places, by its exact value. -/
def roundPlaces (x : Float) (places : Nat) : Float :=
  match Binary.ofFloat? x with
  | some b => floatOfDecimal b.negative (b.roundScaled places) (-places)
  | none => x

/-- The integral number nearest to a finite one; a half goes to the even neighbour. -/
def roundIntegral (x : Float) : Float := roundPlaces x 0

/-- The number rounded to hundredths by scaling: it is multiplied by a hundred, made integral and
divided again, so that a rounding error of the product can decide. -/
def roundHundredths (x : Float) : Float := roundIntegral (x * 100) / 100

/-- The text of a number with exactly one decimal place. -/
def oneDecimal (x : Float) : String :=
  match Binary.ofFloat? x with
  | some b =>
    let n := b.roundScaled 1
    (if b.negative then "-" else "") ++ toString (n / 10) ++ "." ++ toString (n % 10)
  | none => if x.isNaN then "nan" else if x < 0 then "-inf" else "inf"

/-- A share as a percentage with one decimal place. -/
def percentText (share : Float) : String := oneDecimal (share * 100) ++ "%"

end StatementTagging
