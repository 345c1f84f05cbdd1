import StatementTagging.Proofs.Number.Binary

set_option autoImplicit false

/-! # Reading decimals

A decimal is read by one multiplication or division, of small exact numbers where that is possible and
of long integers otherwise. Either way the one rounding at its end decides, so a decimal that a number
attracts is read as that number (`floatOfDecimal_eq`).
-/

namespace StatementTagging

open Float.Model Float.Model.UnpackedFloat

/-! ## Products and quotients -/

section Operations

variable {b : Binary} {m₁ m₂ : ℕ} {e₁ e₂ : ℤ}

/-- A product with enough bits is rounded once. -/
theorem mul_eq (hb : b.InRange) (h₁ : 0 < m₁) (h₂ : 0 < m₂) (hbig : 2 ^ 52 ≤ m₁ * m₂)
    (hq : b.Attracts ((m₁ * 2 ^ e₁) * (m₂ * 2 ^ e₂))) :
    UnpackedFloat.mul Format.binary64 (.finite .positive m₁ e₁ h₁) (.finite .positive m₂ e₂ h₂)
      = .finite .positive b.mantissa b.exponent hb.pos := by
  have hlog : 52 ≤ (m₁ * m₂).log2 := (Nat.le_log2 (Nat.mul_pos h₁ h₂).ne').mpr hbig
  refine roundWithAccuracy_eq hb hq .positive ?_ ?_
  · have hscaled : (m₁ * 2 ^ e₁ : ℚ) * (m₂ * 2 ^ e₂) / 2 ^ (e₁ + e₂) = ((m₁ * m₂ : ℕ) : ℚ) := by
      rw [div_eq_iff (two_zpow_pos _).ne', zpow_add₀ two_ne_zero]
      push_cast
      ring
    rw [hscaled]
    exact stands_exact _
  · rw [targetExponent_eq, totalExponent]
    omega

/-- The numerator is shifted until the quotient has 53 bits. -/
theorem le_log2_quotient {n : ℕ} (h₁ : 0 < m₁) (h₂ : 0 < m₂) (hn : m₂.log2 + 53 ≤ m₁.log2 + n) :
    52 ≤ (m₁ * 2 ^ n / m₂).log2 := by
  have hquotient : 2 ^ 52 ≤ m₁ * 2 ^ n / m₂ := by
    rw [Nat.le_div_iff_mul_le h₂]
    calc 2 ^ 52 * m₂ ≤ 2 ^ 52 * 2 ^ (m₂.log2 + 1) := Nat.mul_le_mul_left _ Nat.lt_log2_self.le
      _ = 2 ^ (m₂.log2 + 53) := by rw [← pow_add]; congr 1; omega
      _ ≤ 2 ^ (m₁.log2 + n) := Nat.pow_le_pow_right two_pos hn
      _ = 2 ^ m₁.log2 * 2 ^ n := pow_add _ _ _
      _ ≤ m₁ * 2 ^ n := Nat.mul_le_mul_right _ (Nat.log2_self_le h₁.ne')
  exact (Nat.le_log2 (lt_of_lt_of_le (by positivity) hquotient).ne').mpr hquotient

/-- A quotient is computed with enough bits to be rounded once. -/
theorem div_eq (hb : b.InRange) (h₁ : 0 < m₁) (h₂ : 0 < m₂)
    (hq : b.Attracts ((m₁ * 2 ^ e₁) / (m₂ * 2 ^ e₂))) :
    UnpackedFloat.div Format.binary64 (.finite .positive m₁ e₁ h₁) (.finite .positive m₂ e₂ h₂)
      = .finite .positive b.mantissa b.exponent hb.pos := by
  obtain ⟨t, ht⟩ : ∃ t, min (e₁ - e₂) (Format.binary64.targetExponent
      (totalExponent m₁ e₁ - totalExponent m₂ e₂)) = t := ⟨_, rfl⟩
  obtain ⟨n, hn⟩ : ∃ n : ℕ, e₁ - e₂ - t = n := ⟨(e₁ - e₂ - t).toNat, by omega⟩
  have hshift : (e₁ - e₂ - t).toNat = n := by omega
  have hcore : divCore Format.binary64 m₁ e₁ m₂ e₂
      = (m₁ * 2 ^ n / m₂, t, accuracyOfFraction (m₁ * 2 ^ n % m₂) m₂) := by
    simp only [divCore, ht, hshift, Nat.shiftLeft_eq]
  show roundWithAccuracy Format.binary64 .positive (divCore Format.binary64 m₁ e₁ m₂ e₂).1
    (divCore Format.binary64 m₁ e₁ m₂ e₂).2.1 (divCore Format.binary64 m₁ e₁ m₂ e₂).2.2 = _
  rw [hcore]
  refine roundWithAccuracy_eq hb hq .positive ?_ ?_
  · have hm₂ : (m₂ : ℚ) ≠ 0 := by exact_mod_cast h₂.ne'
    have hscaled : (m₁ * 2 ^ e₁ : ℚ) / (m₂ * 2 ^ e₂) / 2 ^ t = ((m₁ * 2 ^ n : ℕ) : ℚ) / m₂ := by
      have hpow : (2 : ℚ) ^ e₁ = 2 ^ (n : ℤ) * 2 ^ e₂ * 2 ^ t := by
        rw [← zpow_add₀ two_ne_zero, ← zpow_add₀ two_ne_zero]
        congr 1
        omega
      rw [hpow, zpow_natCast]
      have := (two_zpow_pos e₂).ne'
      have := (two_zpow_pos t).ne'
      push_cast
      field_simp
    rw [hscaled]
    exact stands_quotient _ h₂
  · -- the quotient has at least 53 bits, or the exponent is the least one
    dsimp only
    rw [targetExponent_eq, totalExponent]
    by_cases hmin : t ≤ -1074
    · exact le_max_of_le_right hmin
    · have hlog : 52 ≤ (m₁ * 2 ^ n / m₂).log2 := by
        refine le_log2_quotient h₁ h₂ ?_
        rw [targetExponent_eq, totalExponent, totalExponent] at ht
        omega
      omega

end Operations

/-! ## Small exact numbers -/

theorem log2_mul_two_pow {n : ℕ} (hpos : 0 < n) (k : ℕ) : (n * 2 ^ k).log2 = n.log2 + k := by
  rw [Nat.log2_eq_iff (by positivity)]
  constructor
  · calc 2 ^ (n.log2 + k) = 2 ^ n.log2 * 2 ^ k := pow_add _ _ _
      _ ≤ n * 2 ^ k := Nat.mul_le_mul_right _ (Nat.log2_self_le hpos.ne')
  · calc n * 2 ^ k < 2 ^ (n.log2 + 1) * 2 ^ k :=
          Nat.mul_lt_mul_of_pos_right Nat.lt_log2_self (by positivity)
      _ = 2 ^ (n.log2 + k + 1) := by rw [← pow_add, Nat.add_right_comm]

/-- A positive integer is rounded from a mantissa that is shifted to the exponent to round at. -/
theorem ofUInt64_eq {n k : ℕ} (hpos : 0 < n) (hsmall : n.toUInt64.toNat = n) (hk : n.log2 + k = 52) :
    UnpackedFloat.ofUInt64 Format.binary64 n.toUInt64
      = roundWithAccuracy Format.binary64 .positive (n * 2 ^ k) (-k) .exact := by
  have htarget : Format.binary64.targetExponent (totalExponent n 0) = -k := by
    rw [targetExponent_eq, totalExponent]
    omega
  have hdecrease : decreaseExponent n 0 (-k) = (n * 2 ^ k, (-k : ℤ)) := by
    rw [decreaseExponent, Nat.shiftLeft_eq]
    simp
  rw [UnpackedFloat.ofUInt64, hsmall, UnpackedFloat.ofNat, UnpackedFloat.ofInt, UnpackedFloat.normalize,
    Int.compare_eq_gt.mpr (by exact_mod_cast hpos)]
  show UnpackedFloat.round Format.binary64 .positive n 0 = _
  rw [UnpackedFloat.round, htarget, hdecrease]

/-- Integers of at most 53 bits are exact. -/
theorem unpack_toFloat {n : ℕ} (hpos : 0 < n) (hlt : n < 2 ^ 53) :
    ∃ b : Binary, ∃ hb : b.InRange, 2 ^ 52 ≤ b.mantissa ∧ (b.mantissa * 2 ^ b.exponent : ℚ) = n
      ∧ n.toUInt64.toFloat.toModel.unpack = .finite .positive b.mantissa b.exponent hb.pos := by
  have hlog : n.log2 < 53 := (Nat.log2_lt hpos.ne').mpr hlt
  obtain ⟨k, hk⟩ : ∃ k, n.log2 + k = 52 := ⟨52 - n.log2, by omega⟩
  have hlogk : (n * 2 ^ k).log2 = 52 := (log2_mul_two_pow hpos k).trans hk
  have hbounds := (Nat.log2_eq_iff (by positivity)).mp hlogk
  let b : Binary := ⟨false, n * 2 ^ k, -k⟩
  have hb : b.InRange := ⟨by positivity, hbounds.2, by show (-1074 : ℤ) ≤ -k; omega,
    by show (-k : ℤ) ≤ 971; omega, Or.inl hbounds.1⟩
  have hvalue : (b.mantissa * 2 ^ b.exponent : ℚ) = n := by
    show (((n * 2 ^ k : ℕ) : ℚ)) * 2 ^ (-k : ℤ) = n
    rw [zpow_neg, zpow_natCast]
    push_cast
    field_simp
  refine ⟨b, hb, hbounds.1, hvalue, ?_⟩
  have hsmall : n.toUInt64.toNat = n := by
    rw [UInt64.toNat_ofNat']
    omega
  have hround : UnpackedFloat.ofUInt64 Format.binary64 n.toUInt64
      = .finite .positive b.mantissa b.exponent hb.pos := by
    rw [ofUInt64_eq hpos hsmall hk]
    refine roundWithAccuracy_eq hb b.attracts_self .positive ?_ ?_
    · rw [mul_div_cancel_right₀ _ (two_zpow_pos _).ne']
      exact stands_exact _
    · rw [targetExponent_eq, totalExponent, hlogk]
      omega
  show (Float.Model.pack (UnpackedFloat.ofUInt64 Format.binary64 n.toUInt64)).unpack = _
  rw [hround]
  exact unpack_pack hb .positive

/-- The tabulated powers of ten are exact. -/
theorem powersOfTen_exact : ∀ i, ∀ _ : i < Float.exactlyRepresentablePowersOfTen.size,
    (Binary.ofFloat? Float.exactlyRepresentablePowersOfTen[i]).any fun b =>
      !b.negative && 2 ^ 52 ≤ b.mantissa && -52 ≤ b.exponent
        && b.mantissa * 2 ^ (b.exponent + 52).toNat == 10 ^ i * 2 ^ 52 := by
  decide +kernel

theorem unpack_powerOfTen {i : ℕ} (hi : i < Float.exactlyRepresentablePowersOfTen.size) :
    ∃ m : ℕ, ∃ e : ℤ, ∃ hm : 0 < m, 2 ^ 52 ≤ m ∧ (m * 2 ^ e : ℚ) = 10 ^ i
      ∧ (Float.exactlyRepresentablePowersOfTen[i]).toModel.unpack = .finite .positive m e hm := by
  obtain ⟨b, hb, hchecked⟩ := (Option.any_eq_true _ _).mp (powersOfTen_exact i hi)
  simp only [Bool.and_eq_true, decide_eq_true_eq, beq_iff_eq, Bool.not_eq_true'] at hchecked
  obtain ⟨⟨⟨hpositive, hfull⟩, hleast⟩, hvalue⟩ := hchecked
  have hpos : 0 < b.mantissa := lt_of_lt_of_le (by positivity) hfull
  obtain ⟨-, hunpack⟩ := unpack_of_ofFloat? hb hpos
  rw [hpositive] at hunpack
  refine ⟨b.mantissa, b.exponent, hpos, hfull, ?_, hunpack⟩
  obtain ⟨k, hk⟩ : ∃ k : ℕ, b.exponent + 52 = k := ⟨(b.exponent + 52).toNat, by omega⟩
  rw [hk, Int.toNat_natCast] at hvalue
  have hcast : (b.mantissa : ℚ) * 2 ^ k = 10 ^ i * 2 ^ 52 := by exact_mod_cast hvalue
  have hexponent : b.exponent = k - 52 := by omega
  rw [hexponent, zpow_sub₀ two_ne_zero, zpow_natCast, ← mul_div_assoc, hcast]
  exact mul_div_cancel_right₀ _ (by positivity)

/-! ## Decimals -/

/-- A short decimal is read by one operation on two exact numbers. -/
theorem ofScientific_of_short {b : Binary} (hb : b.InRange) {m : ℕ} {e : ℤ} (hm : 0 < m)
    (hshort : m < 2 ^ 53 ∧ e.natAbs ≤ 22) (hq : b.Attracts (m * 10 ^ e)) :
    Float.ofScientific m (e < 0) e.natAbs
      = Float.ofModel (Float.Model.pack (.finite .positive b.mantissa b.exponent hb.pos)) := by
  obtain ⟨c, hc, hfull, hvalue, hunpack⟩ := unpack_toFloat hm hshort.1
  obtain ⟨p, k, hp, hpfull, hpvalue, hpower⟩ := unpack_powerOfTen (i := e.natAbs)
    (by simp [Float.exactlyRepresentablePowersOfTen]; omega)
  rw [Float.ofScientific, dif_pos hshort]
  dsimp only
  by_cases hneg : e < 0
  · rw [if_pos (decide_eq_true hneg)]
    refine congrArg (fun u => Float.ofModel (Float.Model.pack u)) ?_
    rw [hunpack, hpower]
    refine div_eq hb hc.pos hp ?_
    have h10 : (10 : ℚ) ^ e = (10 ^ e.natAbs)⁻¹ := by
      rw [← zpow_natCast, ← zpow_neg]
      congr 1
      omega
    rwa [hvalue, hpvalue, div_eq_mul_inv, ← h10]
  · rw [if_neg (by simpa using hneg)]
    refine congrArg (fun u => Float.ofModel (Float.Model.pack u)) ?_
    rw [hunpack, hpower]
    have h10 : (10 : ℚ) ^ e = 10 ^ e.natAbs := by
      rw [← zpow_natCast]
      congr 1
      omega
    refine mul_eq hb hc.pos hp ?_ (by rwa [hvalue, hpvalue, ← h10])
    calc 2 ^ 52 ≤ c.mantissa := hfull
      _ ≤ c.mantissa * p := Nat.le_mul_of_pos_right _ hp

/-- A long decimal is read by one operation on two integers. -/
theorem unpacked_ofScientific_eq {b : Binary} (hb : b.InRange) {m : ℕ} {e : ℤ} (hm : 0 < m)
    (hlow : -(2 ^ 11 + (m.log2 : ℤ)) ≤ e) (hhigh : e ≤ 2 ^ 11) (hq : b.Attracts (m * 10 ^ e)) :
    UnpackedFloat.ofScientific Format.binary64 m e = .finite .positive b.mantissa b.exponent hb.pos := by
  have hlow' : ¬ e < -(2 ^ Format.binary64.exponentBits + (m.log2 : ℤ)) := not_lt.mpr hlow
  have hhigh' : ¬ e > 2 ^ Format.binary64.exponentBits := not_lt.mpr hhigh
  rw [UnpackedFloat.ofScientific, dif_neg hm.ne', if_neg hhigh', if_neg hlow']
  by_cases hneg : 0 ≤ e
  · rw [if_pos hneg]
    -- the mantissa is shifted so that the product has enough bits
    have hbits : 2 ^ 52 ≤ m <<< 53 * 10 ^ e.toNat := by
      rw [Nat.shiftLeft_eq]
      calc 2 ^ 52 ≤ 2 ^ 53 := by norm_num
        _ ≤ m * 2 ^ 53 := Nat.le_mul_of_pos_left _ hm
        _ ≤ m * 2 ^ 53 * 10 ^ e.toNat := Nat.le_mul_of_pos_right _ (by positivity)
    have hscaled : ((m <<< 53 : ℕ) : ℚ) * 2 ^ (-53 : ℤ) = m := by
      rw [Nat.shiftLeft_eq, zpow_neg]
      push_cast
      exact mul_inv_cancel_right₀ (by positivity) _
    have h10 : ((10 ^ e.toNat : ℕ) : ℚ) * 2 ^ (0 : ℤ) = 10 ^ e := by
      rw [zpow_zero, mul_one, Nat.cast_pow, ← zpow_natCast, Int.toNat_of_nonneg hneg]
      rfl
    rw [← hscaled, ← h10] at hq
    exact mul_eq hb _ _ hbits hq
  · rw [if_neg hneg]
    have h10 : (10 : ℚ) ^ e = ((10 ^ (-e).toNat : ℕ) : ℚ)⁻¹ := by
      rw [Nat.cast_pow, ← zpow_natCast, Int.toNat_of_nonneg (by omega), zpow_neg, inv_inv]
      rfl
    refine div_eq hb hm _ ?_
    rwa [zpow_zero, mul_one, mul_one, div_eq_mul_inv, ← h10]

/-- A decimal whose exponent is not out of all bounds is read as the number that attracts it. -/
theorem ofScientific_eq {b : Binary} (hb : b.InRange) {m : ℕ} {e : ℤ} (hm : 0 < m)
    (hlow : -(2 ^ 11 + (m.log2 : ℤ)) ≤ e) (hhigh : e ≤ 2 ^ 11) (hq : b.Attracts (m * 10 ^ e)) :
    Float.ofScientific m (e < 0) e.natAbs
      = Float.ofModel (Float.Model.pack (.finite .positive b.mantissa b.exponent hb.pos)) := by
  by_cases hshort : m < 2 ^ 53 ∧ e.natAbs ≤ 22
  · exact ofScientific_of_short hb hm hshort hq
  · have he : (if decide (e < 0) = true then Int.negOfNat e.natAbs else Int.ofNat e.natAbs) = e := by
      by_cases hneg : e < 0
      · rw [if_pos (decide_eq_true hneg), Int.negOfNat_eq]
        show -((e.natAbs : ℕ) : ℤ) = e
        omega
      · rw [if_neg (by simpa using hneg)]
        show ((e.natAbs : ℕ) : ℤ) = e
        omega
    rw [Float.ofScientific, dif_neg hshort]
    dsimp only
    rw [he]
    exact congrArg (fun u => Float.ofModel (Float.Model.pack u))
      (unpacked_ofScientific_eq hb hm hlow hhigh hq)

/-! ## The place of the leading digit -/

theorem decimalLength_pos (m : ℕ) : 0 < decimalLength m := Nat.length_toDigits_pos

theorem pow_le_of_decimalLength {m : ℕ} (hm : 0 < m) : 10 ^ (decimalLength m - 1) ≤ m := by
  by_contra hcon
  rcases Nat.eq_zero_or_pos (decimalLength m - 1) with h | h
  · rw [h] at hcon
    omega
  · have := (Nat.length_toDigits_le_iff (b := 10) (by norm_num) h).mpr (not_le.mp hcon)
    have : decimalLength m ≤ decimalLength m - 1 := this
    omega

theorem lt_pow_decimalLength (m : ℕ) : m < 10 ^ decimalLength m :=
  (Nat.length_toDigits_le_iff (by norm_num) (decimalLength_pos m)).mp (le_refl _)

theorem two_pow_lt : (2 : ℚ) ^ 1100 < 10 ^ 400 := by
  have h : 2 ^ 1100 < 10 ^ 400 := by decide +kernel
  exact_mod_cast h

theorem Binary.Attracts.lt_of_inRange {b : Binary} (hb : b.InRange) {q : ℚ} (hq : b.Attracts q) :
    q < 10 ^ (400 : ℤ) := by
  have hm : (b.mantissa : ℚ) + 1 ≤ 2 ^ 53 := by exact_mod_cast hb.lt
  calc q ≤ (b.mantissa + 1 / 2) * 2 ^ b.exponent := hq.high
    _ ≤ 2 ^ (53 : ℤ) * 2 ^ b.exponent := by
        gcongr
        rw [show (2 : ℚ) ^ (53 : ℤ) = 2 ^ 53 from rfl]
        linarith
    _ = 2 ^ (53 + b.exponent) := (zpow_add₀ two_ne_zero _ _).symm
    _ ≤ 2 ^ (1100 : ℤ) := zpow_le_zpow_right₀ one_le_two (by have := hb.greatest; omega)
    _ < 10 ^ (400 : ℤ) := two_pow_lt

theorem Binary.Attracts.gt_of_inRange {b : Binary} (hb : b.InRange) {q : ℚ} (hq : b.Attracts q) :
    10 ^ (-400 : ℤ) < q := by
  have h1 : (1 : ℚ) ≤ b.mantissa := by exact_mod_cast hb.pos
  have h2 := b.reach_le
  calc (10 : ℚ) ^ (-400 : ℤ) = (10 ^ 400)⁻¹ := by rw [zpow_neg]; rfl
    _ < (2 ^ 1100)⁻¹ := inv_strictAnti₀ (by positivity) two_pow_lt
    _ = 2 ^ (-1100 : ℤ) := by rw [zpow_neg]; rfl
    _ ≤ 2 ^ (-1 + b.exponent) := zpow_le_zpow_right₀ one_le_two (by have := hb.least; omega)
    _ = 2 ^ (-1 : ℤ) * 2 ^ b.exponent := zpow_add₀ two_ne_zero _ _
    _ ≤ (b.mantissa - b.reach) * 2 ^ b.exponent := by
        gcongr
        rw [show (2 : ℚ) ^ (-1 : ℤ) = 1 / 2 by norm_num]
        linarith
    _ ≤ q := hq.low

/-- The place of the leading digit of a decimal that a number attracts is not out of all bounds. -/
theorem Binary.Attracts.lead_bounds {b : Binary} (hb : b.InRange) {m : ℕ} {e : ℤ} (hm : 0 < m)
    (hq : b.Attracts (m * 10 ^ e)) :
    -400 < e + decimalLength m ∧ e + (decimalLength m : ℤ) ≤ 400 := by
  have hten : (1 : ℚ) < 10 := by norm_num
  have hlen := decimalLength_pos m
  constructor
  · have hhigh : (m : ℚ) * 10 ^ e < 10 ^ (e + decimalLength m) := by
      have h : (m : ℚ) < 10 ^ decimalLength m := by exact_mod_cast lt_pow_decimalLength m
      rw [zpow_add₀ (by norm_num), mul_comm, zpow_natCast]
      gcongr
    exact (zpow_lt_zpow_iff_right₀ hten).mp ((hq.gt_of_inRange hb).trans hhigh)
  · have hlow : (10 : ℚ) ^ (e + decimalLength m - 1) ≤ m * 10 ^ e := by
      have h : (10 : ℚ) ^ (decimalLength m - 1) ≤ m := by exact_mod_cast pow_le_of_decimalLength hm
      calc (10 : ℚ) ^ (e + decimalLength m - 1) = 10 ^ ((decimalLength m - 1 : ℕ) : ℤ) * 10 ^ e := by
            rw [← zpow_add₀ (by norm_num)]
            congr 1
            omega
        _ ≤ m * 10 ^ e := by
            gcongr
            exact_mod_cast h
    have := (zpow_lt_zpow_iff_right₀ hten).mp (hlow.trans_lt (hq.lt_of_inRange hb))
    omega

/-- **A decimal that a number attracts is read as that number.** -/
theorem floatOfDecimal_eq {x : Float} {b : Binary} (h : Binary.ofFloat? x = some b)
    (hb : 0 < b.mantissa) {m : ℕ} {e : ℤ} (hq : b.Attracts (m * 10 ^ e)) :
    floatOfDecimal b.negative m e = x := by
  obtain ⟨hrange, hunpack⟩ := unpack_of_ofFloat? h hb
  have hm : 0 < m := by
    rw [Nat.pos_iff_ne_zero]
    rintro rfl
    simpa using hq.pos hrange
  have hlog : decimalLength m ≤ m.log2 + 1 := by
    have hself : 2 ^ (decimalLength m - 1) ≤ m :=
      (Nat.pow_le_pow_left (by norm_num) _).trans (pow_le_of_decimalLength hm)
    have := (Nat.le_log2 hm.ne').mpr hself
    omega
  obtain ⟨hbottom, htop⟩ := hq.lead_bounds hrange hm
  have hread : Float.ofScientific m (e < 0) e.natAbs
      = Float.ofModel (Float.Model.pack (.finite .positive b.mantissa b.exponent hrange.pos)) :=
    ofScientific_eq hrange hm (by omega) (by omega) hq
  -- the exponents that are cut off are out of reach
  have hnotTop : ¬ e + (decimalLength m : ℤ) > 400 := by omega
  have hnotBottom : ¬ e + (decimalLength m : ℤ) < -400 := by omega
  have hx : x = Float.ofModel (Float.Model.pack (.finite (signOf b.negative) b.mantissa b.exponent hb)) := by
    rw [← hunpack, pack_unpack]
  simp only [floatOfDecimal, beq_iff_eq, if_neg hm.ne', if_neg hnotTop, if_neg hnotBottom, hread]
  cases hneg : b.negative with
  | false =>
      rw [hx, hneg]
      rfl
  | true =>
      rw [if_pos rfl, hx, hneg]
      refine congrArg (fun u => Float.ofModel (Float.Model.pack u)) ?_
      show UnpackedFloat.neg
        (Float.Model.pack (.finite .positive b.mantissa b.exponent hrange.pos)).unpack = _
      rw [unpack_pack hrange]
      rfl

end StatementTagging
