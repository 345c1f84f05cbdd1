set_option autoImplicit false

/-! # Classes of characters as ranges

A property of characters is kept as the list of its ranges of code points, in increasing order.
-/

namespace StatementTagging.Text

/-- The code point lies in one of the ranges, which are in increasing order. -/
def inRanges : List (Nat × Nat) → Nat → Bool
  | [], _ => false
  | (lo, hi) :: r, n => if n < lo then false else if n ≤ hi then true else inRanges r n

end StatementTagging.Text
