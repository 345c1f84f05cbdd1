import Mathlib.Data.List.Basic
import StatementTagging.Text.Upper

set_option autoImplicit false

/-! # Upper case is final

What is in upper case stays as it is (`upperChar_of_mem_upper`). The counterparts in the tables of upper
case are letters that the tables do not list themselves. There are some fourteen hundred of either, so
they are not compared one by one: a list of code points is kept as the number that has their bits, and
two such numbers have no bit in common.
-/

namespace StatementTagging.Text

/-! ## Lists of code points as numbers -/

/-- The number whose bits are the code points. -/
def bits : List Nat → Nat
  | [] => 0
  | n :: r => 1 <<< n ||| bits r

theorem testBit_bits (codes : List Nat) (n : Nat) : (bits codes).testBit n = true ↔ n ∈ codes := by
  induction codes with
  | nil =>
      rw [bits, Nat.zero_testBit]
      exact iff_of_false Bool.false_ne_true List.not_mem_nil
  | cons m r ih =>
      rw [bits, Nat.testBit_or, Bool.or_eq_true, ih, Nat.one_shiftLeft, Nat.testBit_two_pow,
        decide_eq_true_eq, List.mem_cons, eq_comm]

/-- Lists whose numbers have no bit in common have no member in common. -/
theorem disjoint_of_bits {codes codes' : List Nat} (h : bits codes &&& bits codes' = 0) {n : Nat}
    (hn : n ∈ codes) : n ∉ codes' := by
  intro hn'
  have hbit : (bits codes &&& bits codes').testBit n = true := by
    rw [Nat.testBit_and, (testBit_bits codes n).mpr hn, (testBit_bits codes' n).mpr hn']
    rfl
  rw [h, Nat.zero_testBit] at hbit
  exact absurd hbit (by decide)

/-! ## The tables -/

/-- The code points of a run. -/
def CaseRun.codes (r : CaseRun) : List Nat :=
  (List.range ((r.last - r.first) / r.step + 1)).map fun k => r.first + r.step * k

theorem CaseRun.mem_codes {r : CaseRun} {n : Nat} (h : r.contains n = true) : n ∈ r.codes := by
  rw [contains, Bool.and_eq_true, Bool.and_eq_true, decide_eq_true_eq, decide_eq_true_eq, beq_iff_eq] at h
  obtain ⟨⟨hfirst, hlast⟩, hstep⟩ := h
  have hn := Nat.div_add_mod (n - r.first) r.step
  refine List.mem_map.mpr ⟨(n - r.first) / r.step, ?_, by omega⟩
  rw [List.mem_range, Nat.lt_succ_iff]
  exact Nat.div_le_div_right (Nat.sub_le_sub_right hlast r.first)

/-- The code points that have an upper case other than themselves. -/
def casedCodes : List Nat := upperRuns.flatMap CaseRun.codes ++ upperTexts.map (·.1)

/-- The code points of upper cases, and that of the character that stands for none. -/
def upperCodes : List Nat :=
  0 :: (upperRuns.flatMap fun r => r.codes.map fun (n : Nat) => (n + r.shift).toNat)
    ++ upperTexts.flatMap (·.2)

/-- **No upper case has an upper case** other than itself. -/
theorem not_mem_casedCodes {n : Nat} (h : n ∈ upperCodes) : n ∉ casedCodes :=
  disjoint_of_bits (by decide +kernel) h

/-! ## Characters -/

theorem upperChar_of_not_mem {c : Char} (h : c.toNat ∉ casedCodes) : upperChar c = [c] := by
  rw [casedCodes, List.mem_append, not_or] at h
  have htext : upperTexts.lookup c.toNat = none := by
    refine List.lookup_eq_none_iff.mpr fun t ht => ?_
    rw [bne_iff_ne]
    intro heq
    exact h.2 (List.mem_map.mpr ⟨t, ht, heq.symm⟩)
  have hrun : upperRuns.find? (·.contains c.toNat) = none := by
    refine List.find?_eq_none.mpr fun r hr hcontains => ?_
    exact h.1 (List.mem_flatMap.mpr ⟨r, hr, CaseRun.mem_codes hcontains⟩)
  rw [upperChar, htext, CaseRun.applyFirst, hrun]

/-- The upper case of a character consists of code points of the tables, unless it is the character itself. -/
theorem mem_upperChar {c d : Char} (h : d ∈ upperChar c) :
    upperChar c = [d] ∧ d = c ∨ ∃ n ∈ upperCodes, d = Char.ofNat n := by
  rw [upperChar] at h ⊢
  cases htext : upperTexts.lookup c.toNat with
  | some codes =>
      rw [htext] at h
      obtain ⟨n, hn, rfl⟩ := List.mem_map.mp h
      obtain ⟨before, behind, heq, -⟩ := List.lookup_eq_some_iff.mp htext
      have hmem : (c.toNat, codes) ∈ upperTexts := by rw [heq]; simp
      exact Or.inr ⟨n, List.mem_append_right _ (List.mem_flatMap.mpr ⟨_, hmem, hn⟩), rfl⟩
  | none =>
      rw [htext] at h
      rw [List.mem_singleton.mp h]
      rw [CaseRun.applyFirst]
      cases hrun : upperRuns.find? (·.contains c.toNat) with
      | none => exact Or.inl ⟨rfl, rfl⟩
      | some r =>
          have hcontains := List.find?_some hrun
          have hcode := CaseRun.mem_codes hcontains
          have himage : (c.toNat + r.shift).toNat ∈ upperCodes := by
            refine List.mem_append_left _ (List.mem_cons_of_mem 0 ?_)
            exact List.mem_flatMap.mpr ⟨r, List.mem_of_find?_eq_some hrun, List.mem_map.mpr ⟨_, hcode, rfl⟩⟩
          exact Or.inr ⟨_, himage, rfl⟩

/-- A character of an upper case is its own upper case. -/
theorem upperChar_of_mem_upperChar {c d : Char} (h : d ∈ upperChar c) : upperChar d = [d] := by
  rcases mem_upperChar h with ⟨heq, rfl⟩ | ⟨n, hn, rfl⟩
  · exact heq
  · refine upperChar_of_not_mem (not_mem_casedCodes ?_)
    by_cases hvalid : n.isValidChar
    · rw [Char.ofNat, dif_pos hvalid]
      exact hn
    · rw [Char.ofNat, dif_neg hvalid]
      exact List.mem_cons_self

/-! ## Texts -/

theorem upper_eq_self {s : List Char} (h : ∀ c ∈ s, upperChar c = [c]) : upper s = s := by
  rw [upper, List.flatMap_congr h]
  exact List.flatMap_singleton' s

/-- What stands in a text in upper case is its own upper case. -/
theorem upperChar_of_mem_upper {s : List Char} {d : Char} (h : d ∈ upper s) : upperChar d = [d] := by
  obtain ⟨c, -, hd⟩ := List.mem_flatMap.mp h
  exact upperChar_of_mem_upperChar hd

end StatementTagging.Text
