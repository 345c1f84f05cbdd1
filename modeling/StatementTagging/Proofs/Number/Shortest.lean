import StatementTagging.Proofs.Number.Decimal

set_option autoImplicit false

/-! # The shortest digits of a number

The digits that are found for a number are a decimal that the number attracts. The test for the rounding
interval is that property (`RoundingInterval.contains_iff`), so whatever the search ends with has it,
and the search ends: on the grid with seventeen digits one of the two neighbours of the exact value is in
the interval, because a step of that grid is shorter than the interval.
-/

namespace StatementTagging

/-! ## Fractions -/

theorem Binary.ratio_den_pos (b : Binary) : 0 < b.ratio.2 := by
  rw [ratio]
  cases b.exponent with
  | ofNat e => exact one_pos
  | negSucc e => exact Nat.pow_pos two_pos

theorem Binary.ratio_eq (b : Binary) : (b.ratio.1 : ℚ) / b.ratio.2 = b.mantissa * 2 ^ b.exponent := by
  rw [ratio]
  cases b.exponent with
  | ofNat e =>
      show ((b.mantissa * 2 ^ e : ℕ) : ℚ) / ((1 : ℕ) : ℚ) = b.mantissa * 2 ^ ((e : ℕ) : ℤ)
      rw [Nat.cast_one, div_one, zpow_natCast]
      push_cast
      rfl
  | negSucc e =>
      show (b.mantissa : ℚ) / ((2 ^ (e + 1) : ℕ) : ℚ) = b.mantissa * 2 ^ Int.negSucc e
      rw [zpow_negSucc, div_eq_mul_inv]
      push_cast
      rfl

theorem scaled_den_pos (num : ℕ) {den : ℕ} (hden : 0 < den) (e : ℤ) : 0 < (scaled num den e).2 := by
  cases e with
  | ofNat n => exact hden
  | negSucc n => exact Nat.mul_pos hden (Nat.pow_pos (by norm_num))

theorem scaled_eq (num den : ℕ) (e : ℤ) :
    ((scaled num den e).1 : ℚ) / (scaled num den e).2 = num / den * 10 ^ e := by
  cases e with
  | ofNat n =>
      show ((num * 10 ^ n : ℕ) : ℚ) / den = num / den * 10 ^ ((n : ℕ) : ℤ)
      rw [zpow_natCast]
      push_cast
      ring
  | negSucc n =>
      show (num : ℚ) / ((den * 10 ^ (n + 1) : ℕ) : ℚ) = num / den * 10 ^ Int.negSucc n
      rw [zpow_negSucc, ← div_eq_mul_inv, div_div]
      push_cast
      rfl

/-! ## The leading digit -/

theorem leadingZeros_spec {num den fuel : ℕ} (h : den ≤ num * 10 ^ fuel) (j : ℕ) :
    ∃ i, leadingZeros num den fuel j = j + i ∧ den ≤ num * 10 ^ i := by
  induction fuel generalizing num j with
  | zero => exact ⟨0, rfl, h⟩
  | succ fuel ih =>
      rw [leadingZeros]
      by_cases hle : den ≤ num
      · exact ⟨0, if_pos hle, by rwa [pow_zero, mul_one]⟩
      · have hnext : den ≤ num * 10 * 10 ^ fuel := by rwa [mul_assoc, ← pow_succ']
        obtain ⟨i, hi, hden⟩ := ih hnext (j + 1)
        refine ⟨i + 1, ?_, by rwa [pow_succ', ← mul_assoc]⟩
        rw [if_neg hle, hi]
        omega

/-- The power of ten of the leading digit is at most the number. -/
theorem pow_leadingExponent_le {num den : ℕ} (hden : 0 < den) (h : den ≤ num * 10 ^ 400) :
    (10 : ℚ) ^ leadingExponent num den ≤ num / den := by
  have hpos : (0 : ℚ) < den := by exact_mod_cast hden
  rw [leadingExponent]
  by_cases hle : den ≤ num
  · have hquotient : 0 < num / den := Nat.div_pos hle hden
    have hlen := decimalLength_pos (num / den)
    have hexponent : (decimalLength (num / den) : ℤ) - 1 = ((decimalLength (num / den) - 1 : ℕ) : ℤ) := by
      omega
    rw [if_pos hle, hexponent, zpow_natCast]
    calc (10 : ℚ) ^ (decimalLength (num / den) - 1) ≤ ((num / den : ℕ) : ℚ) := by
          exact_mod_cast pow_le_of_decimalLength hquotient
      _ ≤ num / den := Nat.cast_div_le
  · obtain ⟨i, hi, hden'⟩ := leadingZeros_spec h 0
    rw [if_neg hle, hi, zero_add, zpow_neg, zpow_natCast, le_div_iff₀ hpos,
      inv_mul_le_iff₀ (by positivity), mul_comm]
    exact_mod_cast hden'

/-! ## The rounding interval -/

section Interval

variable {b : Binary}

/-- The ends of the interval and the number itself as exact values. -/
theorem ofBinary_eq (hb : b.InRange) :
    let i := RoundingInterval.ofBinary b
    0 < i.den ∧ (i.low : ℚ) / i.den = (b.mantissa - b.reach) * 2 ^ b.exponent
      ∧ (i.value : ℚ) / i.den = b.mantissa * 2 ^ b.exponent
      ∧ (i.high : ℚ) / i.den = (b.mantissa + 1 / 2) * 2 ^ b.exponent
      ∧ (i.closed = true ↔ b.mantissa % 2 = 0) := by
  -- everything is counted in quarters of the last bit
  generalize hunit : (Binary.mk false 1 (b.exponent - 2)).ratio = unit
  have hquarter : (unit.1 : ℚ) / unit.2 = 2 ^ b.exponent / 4 := by
    rw [← hunit, Binary.ratio_eq, Nat.cast_one, one_mul, zpow_sub₀ two_ne_zero]
    norm_num
  have hscale : ∀ n : ℕ, ((n * unit.1 : ℕ) : ℚ) / unit.2 = n / 4 * 2 ^ b.exponent := by
    intro n
    rw [Nat.cast_mul, mul_div_assoc, hquarter]
    ring
  have hnarrow : (if b.mantissa == Nat.pow 2 52 && b.exponent > -1074 then 1 else 2 : ℕ)
      = if b.mantissa = 2 ^ 52 ∧ -1074 < b.exponent then 1 else 2 := by
    simp only [Bool.and_eq_true, beq_iff_eq, decide_eq_true_eq]
    rfl
  have hreach : (((4 * b.mantissa
      - if b.mantissa = 2 ^ 52 ∧ -1074 < b.exponent then 1 else 2 : ℕ)) : ℚ)
      = 4 * (b.mantissa - b.reach) := by
    have hpos := hb.pos
    rw [Nat.cast_sub (by split <;> omega), Binary.reach]
    split <;> push_cast <;> ring
  simp only [RoundingInterval.ofBinary, hunit, hnarrow]
  refine ⟨hunit ▸ Binary.ratio_den_pos _, ?_, ?_, ?_, beq_iff_eq⟩
  · rw [hscale, hreach]
    ring
  · rw [hscale]
    push_cast
    ring
  · rw [hscale]
    push_cast
    ring

theorem contains_iff (hb : b.InRange) (c : ℕ) (k : ℤ) :
    (RoundingInterval.ofBinary b).contains c k = true ↔ b.Attracts (c * 10 ^ k) := by
  obtain ⟨hden, hlow, -, hhigh, hclosed⟩ := ofBinary_eq hb
  generalize RoundingInterval.ofBinary b = i at hden hlow hhigh hclosed
  have hkden := scaled_den_pos c one_pos k
  have hkval := scaled_eq c 1 k
  rw [Nat.cast_one, div_one] at hkval
  generalize hs : scaled c 1 k = s at hkden hkval
  have hi : (0 : ℚ) < i.den := by exact_mod_cast hden
  have hk : (0 : ℚ) < s.2 := by exact_mod_cast hkden
  have hle_low : i.low * s.2 ≤ s.1 * i.den ↔ (b.mantissa - b.reach) * 2 ^ b.exponent ≤ c * 10 ^ k := by
    rw [← hlow, ← hkval, div_le_div_iff₀ hi hk]
    exact_mod_cast Iff.rfl
  have hlt_low : i.low * s.2 < s.1 * i.den ↔ (b.mantissa - b.reach) * 2 ^ b.exponent < c * 10 ^ k := by
    rw [← hlow, ← hkval, div_lt_div_iff₀ hi hk]
    exact_mod_cast Iff.rfl
  have hle_high : s.1 * i.den ≤ i.high * s.2 ↔ (c : ℚ) * 10 ^ k ≤ (b.mantissa + 1 / 2) * 2 ^ b.exponent := by
    rw [← hhigh, ← hkval, div_le_div_iff₀ hk hi]
    exact_mod_cast Iff.rfl
  have hlt_high : s.1 * i.den < i.high * s.2 ↔ (c : ℚ) * 10 ^ k < (b.mantissa + 1 / 2) * 2 ^ b.exponent := by
    rw [← hhigh, ← hkval, div_lt_div_iff₀ hk hi]
    exact_mod_cast Iff.rfl
  simp only [RoundingInterval.contains, hs]
  by_cases heven : b.mantissa % 2 = 0
  · rw [if_pos (hclosed.mpr heven), Bool.and_eq_true, decide_eq_true_eq, decide_eq_true_eq, hle_low, hle_high]
    exact ⟨fun h => ⟨h.1, h.2, Or.inl heven⟩, fun h => ⟨h.low, h.high⟩⟩
  · rw [if_neg (fun h => heven (hclosed.mp h)), Bool.and_eq_true, decide_eq_true_eq, decide_eq_true_eq,
      hlt_low, hlt_high]
    exact ⟨fun h => ⟨h.1.le, h.2.le, Or.inr h⟩, fun h => h.tie.resolve_left heven⟩

/-! ## The search -/

/-- What the search finds on one grid is attracted by the number. -/
theorem attracts_of_candidate? (hb : b.InRange) {k : ℤ} {d : Decimal}
    (h : (RoundingInterval.ofBinary b).candidate? k = some d) :
    b.Attracts (d.digits * 10 ^ d.exponent) := by
  rw [RoundingInterval.candidate?] at h
  generalize (scaled (RoundingInterval.ofBinary b).value (RoundingInterval.ofBinary b).den (-k)) = s at h
  dsimp only at h
  split at h
  · next hbelow habove =>
      split at h
      · obtain rfl := Option.some.inj h
        exact (contains_iff hb _ _).mp (Bool.and_eq_true _ _ ▸ hbelow).1
      · obtain rfl := Option.some.inj h
        exact (contains_iff hb _ _).mp habove
  · next hbelow habove =>
      obtain rfl := Option.some.inj h
      exact (contains_iff hb _ _).mp (Bool.and_eq_true _ _ ▸ hbelow).1
  · next hbelow habove =>
      obtain rfl := Option.some.inj h
      exact (contains_iff hb _ _).mp habove
  · cases h

/-- One of the two neighbours of the number on a grid finer than the interval is in it. -/
theorem contains_neighbour (hb : b.InRange) {c : ℕ} {k : ℤ}
    (hfine : (10 : ℚ) ^ k < (b.reach + 1 / 2) * 2 ^ b.exponent)
    (hfloor : (c : ℚ) * 10 ^ k ≤ b.mantissa * 2 ^ b.exponent)
    (hceil : (b.mantissa * 2 ^ b.exponent : ℚ) < (c + 1) * 10 ^ k) :
    (RoundingInterval.ofBinary b).contains c k = true
      ∨ (RoundingInterval.ofBinary b).contains (c + 1) k = true := by
  have hunit := two_zpow_pos b.exponent
  rw [contains_iff hb, contains_iff hb]
  by_cases hnear : (b.mantissa - b.reach) * 2 ^ b.exponent < (c : ℚ) * 10 ^ k
  · exact Or.inl ⟨hnear.le, by linarith, Or.inr ⟨hnear, by linarith⟩⟩
  · -- the lower neighbour is out of reach, and the upper one is less than the interval away from it
    have hreach := mul_pos b.reach_pos hunit
    have hlow : (b.mantissa - b.reach) * 2 ^ b.exponent < ((c + 1 : ℕ) : ℚ) * 10 ^ k := by
      push_cast
      linarith
    have hhigh : ((c + 1 : ℕ) : ℚ) * 10 ^ k < (b.mantissa + 1 / 2) * 2 ^ b.exponent := by
      push_cast
      linarith
    exact Or.inr ⟨hlow.le, hhigh.le, Or.inr ⟨hlow, hhigh⟩⟩

/-- A grid finer than the interval, on which the number is not rounded down to zero, has a hit. -/
theorem exists_candidate? (hb : b.InRange) {k : ℤ} (hk : (10 : ℚ) ^ k ≤ b.mantissa * 2 ^ b.exponent)
    (hfine : (10 : ℚ) ^ k < (b.reach + 1 / 2) * 2 ^ b.exponent) :
    ∃ d, (RoundingInterval.ofBinary b).candidate? k = some d := by
  obtain ⟨hden, -, hvalue, -, -⟩ := ofBinary_eq hb
  have hsden := scaled_den_pos (RoundingInterval.ofBinary b).value hden (-k)
  have hsval := scaled_eq (RoundingInterval.ofBinary b).value (RoundingInterval.ofBinary b).den (-k)
  have hpos : (0 : ℚ) < 10 ^ k := zpow_pos (by norm_num) k
  rw [hvalue, zpow_neg, ← div_eq_mul_inv] at hsval
  rw [RoundingInterval.candidate?]
  generalize scaled (RoundingInterval.ofBinary b).value (RoundingInterval.ofBinary b).den (-k) = s
    at hsden hsval
  have hs : (0 : ℚ) < s.2 := by exact_mod_cast hsden
  have hfloor : ((s.1 / s.2 : ℕ) : ℚ) * 10 ^ k ≤ b.mantissa * 2 ^ b.exponent := by
    rw [← le_div_iff₀ hpos, ← hsval]
    exact Nat.cast_div_le
  have hceil : (b.mantissa * 2 ^ b.exponent : ℚ) < ((s.1 / s.2 : ℕ) + 1) * 10 ^ k := by
    rw [← div_lt_iff₀ hpos, ← hsval, div_lt_iff₀ hs]
    exact_mod_cast Nat.lt_mul_of_div_lt (Nat.lt_succ_self _) hsden
  have hbelow : s.1 / s.2 ≠ 0 := by
    have h : (1 : ℚ) ≤ s.1 / s.2 := by rwa [hsval, one_le_div hpos]
    rw [one_le_div hs] at h
    exact (Nat.div_pos (by exact_mod_cast h) hsden).ne'
  have hhit : ((RoundingInterval.ofBinary b).contains (s.1 / s.2) k && s.1 / s.2 != 0) = true
      ∨ (RoundingInterval.ofBinary b).contains (s.1 / s.2 + 1) k = true := by
    rw [Bool.and_eq_true, bne_iff_ne]
    exact (contains_neighbour hb hfine hfloor hceil).imp_left fun h => ⟨h, hbelow⟩
  dsimp only
  split
  · split
    · exact ⟨_, rfl⟩
    · exact ⟨_, rfl⟩
  · exact ⟨_, rfl⟩
  · exact ⟨_, rfl⟩
  · next hnotBelow hnotAbove =>
      rw [hnotBelow, hnotAbove] at hhit
      simp at hhit

/-- The search ends with a hit if one of the grids it tries has one. -/
theorem firstCandidate_attracts (hb : b.InRange) {k : ℤ} {j fuel : ℕ} (hj : j < fuel)
    (h : ∃ d, (RoundingInterval.ofBinary b).candidate? (k - j) = some d) :
    b.Attracts (((RoundingInterval.ofBinary b).firstCandidate fuel k).digits
      * 10 ^ ((RoundingInterval.ofBinary b).firstCandidate fuel k).exponent) := by
  induction fuel generalizing k j with
  | zero => omega
  | succ fuel ih =>
      rw [RoundingInterval.firstCandidate]
      cases hc : (RoundingInterval.ofBinary b).candidate? k with
      | some d => exact attracts_of_candidate? hb hc
      | none =>
          cases j with
          | zero =>
              obtain ⟨d, hd⟩ := h
              rw [Nat.cast_zero, sub_zero, hc] at hd
              cases hd
          | succ j =>
              refine ih (k := k - 1) (j := j) (by omega) ?_
              rwa [sub_sub, add_comm (1 : ℤ), ← Nat.cast_succ]

/-- Dropping zeros at the end of the digits does not change a decimal. -/
theorem trim_eq (fuel : ℕ) (d : Decimal) :
    ((d.trim fuel).digits : ℚ) * 10 ^ (d.trim fuel).exponent = d.digits * 10 ^ d.exponent := by
  induction fuel generalizing d with
  | zero => rfl
  | succ fuel ih =>
      rw [Decimal.trim]
      by_cases h : d.digits ≠ 0 ∧ d.digits % 10 = 0
      · have hdigits : (d.digits : ℚ) = ((d.digits / 10 : ℕ) : ℚ) * 10 := by
          have : d.digits = d.digits / 10 * 10 := by omega
          exact_mod_cast this
        rw [if_pos h, ih, hdigits, zpow_add₀ (by norm_num), zpow_one]
        ring
      · rw [if_neg h]

/-- **The digits found for a number are a decimal that it attracts.** -/
theorem shortestDigits_attracts (hb : b.InRange) :
    b.Attracts ((shortestDigits b).digits * 10 ^ (shortestDigits b).exponent) := by
  obtain ⟨hden, -, hvalue, -, -⟩ := ofBinary_eq hb
  have hlead : (10 : ℚ) ^ leadingExponent (RoundingInterval.ofBinary b).value
      (RoundingInterval.ofBinary b).den ≤ b.mantissa * 2 ^ b.exponent := by
    rw [← hvalue]
    refine pow_leadingExponent_le hden ?_
    have hi : (0 : ℚ) < (RoundingInterval.ofBinary b).den := by exact_mod_cast hden
    have h := b.attracts_self.gt_of_inRange hb
    rw [← hvalue, lt_div_iff₀ hi, zpow_neg, inv_mul_lt_iff₀ (by positivity), mul_comm] at h
    exact_mod_cast h.le
  rw [shortestDigits]
  generalize leadingExponent _ _ = k at hlead
  have hstep : (10 : ℚ) ^ (k - (16 : ℕ)) = 10 ^ k / 10 ^ 16 := by
    rw [zpow_sub₀ (by norm_num), zpow_natCast]
  have hpos : (0 : ℚ) < 10 ^ k := zpow_pos (by norm_num) k
  have hunit := two_zpow_pos b.exponent
  rw [trim_eq]
  refine firstCandidate_attracts hb (j := 16) (by decide) (exists_candidate? hb ?_ ?_)
  · rw [hstep]
    exact (div_le_self hpos.le (by norm_num)).trans hlead
  · -- seventeen digits are one more than a mantissa can tell apart
    have hfew : (b.mantissa : ℚ) < (b.reach + 1 / 2) * 10 ^ 16 := by
      rw [Binary.reach]
      split_ifs with hnarrow
      · rw [hnarrow.1]
        norm_num
      · have h : (b.mantissa : ℚ) < 2 ^ 53 := by exact_mod_cast hb.lt
        linarith
    rw [hstep, div_lt_iff₀ (by norm_num)]
    calc (10 : ℚ) ^ k ≤ b.mantissa * 2 ^ b.exponent := hlead
      _ < (b.reach + 1 / 2) * 10 ^ 16 * 2 ^ b.exponent := by gcongr
      _ = (b.reach + 1 / 2) * 2 ^ b.exponent * 10 ^ 16 := by ring

end Interval

end StatementTagging
