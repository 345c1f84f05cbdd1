import Mathlib.Tactic.ByContra
import StatementTagging.Text.Blank
import StatementTagging.Text.Digit

set_option autoImplicit false

/-! # Classes of characters

Classes that are kept as ranges of code points are apart from each other if their ranges are. What a
proof needs of a member is a range that it lies in.
-/

namespace StatementTagging.Text

theorem exists_range_of_inRanges {ranges : List (Nat × Nat)} {n : Nat}
    (h : inRanges ranges n = true) : ∃ r ∈ ranges, r.1 ≤ n ∧ n ≤ r.2 := by
  induction ranges with
  | nil => cases h
  | cons r ranges ih =>
      rw [inRanges] at h
      split at h
      · cases h
      · next hlow =>
          split at h
          · next hhigh => exact ⟨r, List.mem_cons_self, Nat.le_of_not_lt hlow, hhigh⟩
          · obtain ⟨r', hr', hn⟩ := ih h
            exact ⟨r', List.mem_cons_of_mem r hr', hn⟩

theorem exists_zero_of_isDigit {c : Char} (h : isDigit c = true) :
    ∃ z ∈ digitZeros, z ≤ c.toNat ∧ c.toNat ≤ z + 9 := by
  rw [isDigit, digitValue?, Option.isSome_map, List.find?_isSome] at h
  obtain ⟨z, hz, hc⟩ := h
  rw [Bool.and_eq_true, decide_eq_true_eq, decide_eq_true_eq] at hc
  exact ⟨z, hz, hc⟩

/-- No blank is a digit. -/
theorem isDigit_of_isBlank {c : Char} (hc : isBlank c = true) : isDigit c = false := by
  have hapart : ∀ r ∈ blankRanges, ∀ z ∈ digitZeros, r.2 < z ∨ z + 9 < r.1 := by decide +kernel
  obtain ⟨r, hr, hlow, hhigh⟩ := exists_range_of_inRanges hc
  by_contra hd
  rw [Bool.not_eq_false] at hd
  obtain ⟨z, hz, hzlow, hzhigh⟩ := exists_zero_of_isDigit hd
  have := hapart r hr z hz
  omega

end StatementTagging.Text
