set_option autoImplicit false

/-! # Runs of case counterparts

Letters and their counterparts in the other case lie at a constant distance over long runs, either one
after the other or at every second code point.
-/

namespace StatementTagging.Text

/-- The code points `first`, `first + step`, … up to `last`, whose counterparts lie `shift` away. -/
structure CaseRun where
  first : Nat
  last : Nat
  step : Nat
  shift : Int

namespace CaseRun

/-- The code point belongs to the run. -/
def contains (r : CaseRun) (n : Nat) : Bool :=
  r.first ≤ n && n ≤ r.last && (n - r.first) % r.step == 0

/-- The counterpart of the character by the first run it belongs to; itself if there is none. -/
def applyFirst (runs : List CaseRun) (c : Char) : Char :=
  match runs.find? (·.contains c.toNat) with
  | some r => Char.ofNat (c.toNat + r.shift).toNat
  | none => c

/-- The character of the run with the given counterpart. -/
def preimage? (r : CaseRun) (c : Char) : Option Char :=
  let n := ((c.toNat : Int) - r.shift).toNat
  if r.contains n then some (Char.ofNat n) else none

end CaseRun

end StatementTagging.Text
