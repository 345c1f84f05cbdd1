import Mathlib
import StatementTagging.Number.Shortest

set_option autoImplicit false

/-! # Rounding to a floating-point number

A product, a quotient or a conversion first finds an integer mantissa and two bits about the rest, then
shifts and rounds. `Stands em y` says what the mantissa and the two bits know about the exact value `y`;
shifts keep it. A number attracts the values that are nearer to it than to its neighbours, and half of
the ties; the main result is that rounding a value gives the number that attracts it
(`roundWithAccuracy_eq`), also when rounding carries into the next power of two.
-/

namespace StatementTagging

open Float.Model Float.Model.UnpackedFloat

/-! ## A mantissa and two bits -/

/-- The mantissa is the integer part of `y`, the first bit says whether at least a half is left over, and
the second one whether what is left over is neither nothing nor exactly a half. -/
structure Stands (em : ExtendedMantissa) (y : ℚ) : Prop where
  low : (em.mantissa : ℚ) ≤ y
  high : y < em.mantissa + 1
  half : em.roundBit = true ↔ (em.mantissa : ℚ) + 1 / 2 ≤ y
  rest : em.stickyBit = true ↔ y ≠ em.mantissa ∧ y ≠ em.mantissa + 1 / 2

theorem Stands.shiftRightOne {em : ExtendedMantissa} {y : ℚ} (h : Stands em y) :
    Stands em.shiftRightOne (y / 2) := by
  obtain ⟨m, r, s⟩ := em
  obtain ⟨hlow, hhigh, hhalf, hrest⟩ := h
  dsimp only at hlow hhigh hhalf hrest
  have hm : (m : ℚ) = 2 * ((m / 2 : ℕ) : ℚ) + ((m % 2 : ℕ) : ℚ) := by
    exact_mod_cast (Nat.div_add_mod m 2).symm
  have hsticky : (r || s) = true ↔ y ≠ m := by
    rw [Bool.or_eq_true, hhalf, hrest]
    constructor
    · rintro (h | h)
      · exact ne_of_gt (by linarith)
      · exact h.1
    · intro h
      by_cases heq : y = m + 1 / 2
      · exact Or.inl heq.ge
      · exact Or.inr ⟨h, heq⟩
  -- the bit that falls out says in which half of the new unit the value lies
  rcases Nat.mod_two_eq_zero_or_one m with hmod | hmod
  · rw [hmod, Nat.cast_zero, add_zero] at hm
    constructor
    · show ((m / 2 : ℕ) : ℚ) ≤ y / 2
      linarith
    · show y / 2 < ((m / 2 : ℕ) : ℚ) + 1
      linarith
    · show (m % 2 != 0) = true ↔ ((m / 2 : ℕ) : ℚ) + 1 / 2 ≤ y / 2
      simp only [hmod]
      constructor
      · intro h
        cases h
      · intro h
        linarith
    · show (r || s) = true ↔ y / 2 ≠ ((m / 2 : ℕ) : ℚ) ∧ y / 2 ≠ ((m / 2 : ℕ) : ℚ) + 1 / 2
      rw [hsticky]
      constructor
      · intro h
        exact ⟨fun heq => h (by linarith), fun heq => by linarith⟩
      · intro h heq
        exact h.1 (by linarith)
  · rw [hmod, Nat.cast_one] at hm
    constructor
    · show ((m / 2 : ℕ) : ℚ) ≤ y / 2
      linarith
    · show y / 2 < ((m / 2 : ℕ) : ℚ) + 1
      linarith
    · show (m % 2 != 0) = true ↔ ((m / 2 : ℕ) : ℚ) + 1 / 2 ≤ y / 2
      simp only [hmod]
      exact ⟨fun _ => by linarith, fun _ => rfl⟩
    · show (r || s) = true ↔ y / 2 ≠ ((m / 2 : ℕ) : ℚ) ∧ y / 2 ≠ ((m / 2 : ℕ) : ℚ) + 1 / 2
      rw [hsticky]
      constructor
      · intro h
        exact ⟨fun heq => by linarith, fun heq => h (by linarith)⟩
      · intro h heq
        exact h.2 (by linarith)

theorem Stands.shiftRight {em : ExtendedMantissa} {y : ℚ} (h : Stands em y) (n : ℕ) :
    Stands (em >>> n) (y / 2 ^ n) := by
  show Stands (n.repeat ExtendedMantissa.shiftRightOne em) (y / 2 ^ n)
  induction n with
  | zero => simpa [Nat.repeat] using h
  | succ n ih =>
      rw [pow_succ, ← div_div]
      exact ih.shiftRightOne

theorem stands_exact (m : ℕ) : Stands (ExtendedMantissa.ofMantissaAndAccuracy m .exact) m := by
  constructor
  · exact le_refl _
  · exact lt_add_one _
  · show false = true ↔ (m : ℚ) + 1 / 2 ≤ m
    simp
  · show false = true ↔ (m : ℚ) ≠ m ∧ (m : ℚ) ≠ m + 1 / 2
    simp

theorem stands_inexact (m : ℕ) {f : ℚ} (hpos : 0 < f) (hlt : f < 1) :
    Stands (ExtendedMantissa.ofMantissaAndAccuracy m (.inexact (compare f (1 / 2)))) (m + f) := by
  have hlow : (m : ℚ) ≤ m + f := by linarith
  have hhigh : (m : ℚ) + f < m + 1 := by linarith
  have hne : (m : ℚ) + f ≠ m := by linarith
  rcases lt_trichotomy f (1 / 2) with h | h | h
  · rw [compare_lt_iff_lt.mpr h]
    refine ⟨hlow, hhigh, ⟨fun hfalse => absurd hfalse Bool.false_ne_true, fun hge => ?_⟩, ?_⟩
    · exact absurd hge (by show ¬ (m : ℚ) + 1 / 2 ≤ m + f; linarith)
    · exact ⟨fun _ => ⟨hne, by show (m : ℚ) + f ≠ m + 1 / 2; linarith⟩, fun _ => rfl⟩
  · rw [compare_eq_iff_eq.mpr h]
    refine ⟨hlow, hhigh, ⟨fun _ => ?_, fun _ => rfl⟩, ⟨fun hfalse => absurd hfalse Bool.false_ne_true, ?_⟩⟩
    · show (m : ℚ) + 1 / 2 ≤ m + f
      linarith
    · exact fun hrest => absurd (by rw [h]; rfl) hrest.2
  · rw [compare_gt_iff_gt.mpr h]
    refine ⟨hlow, hhigh, ⟨fun _ => ?_, fun _ => rfl⟩, ⟨fun _ => ⟨hne, ?_⟩, fun _ => rfl⟩⟩
    · show (m : ℚ) + 1 / 2 ≤ m + f
      linarith
    · show (m : ℚ) + f ≠ m + 1 / 2
      linarith

theorem stands_quotient (num : ℕ) {den : ℕ} (hden : 0 < den) :
    Stands (ExtendedMantissa.ofMantissaAndAccuracy (num / den) (accuracyOfFraction (num % den) den))
      (num / den : ℚ) := by
  have hpos : (0 : ℚ) < den := by exact_mod_cast hden
  have hsplit : (num : ℚ) / den = (num / den : ℕ) + ((num % den : ℕ) : ℚ) / den := by
    rw [div_eq_iff hpos.ne', add_mul, div_mul_cancel₀ _ hpos.ne']
    exact_mod_cast (Nat.div_add_mod' num den).symm
  rw [hsplit, accuracyOfFraction]
  by_cases hzero : num % den = 0
  · rw [if_pos hzero, hzero, Nat.cast_zero, zero_div, add_zero]
    exact stands_exact _
  · have hr : (0 : ℚ) < ((num % den : ℕ) : ℚ) := by exact_mod_cast Nat.pos_of_ne_zero hzero
    have hlt : ((num % den : ℕ) : ℚ) < den := by exact_mod_cast Nat.mod_lt num hden
    have hcompare : compare (2 * (num % den)) den = compare (((num % den : ℕ) : ℚ) / den) (1 / 2) := by
      have hlt' : 2 * (num % den) < den ↔ ((num % den : ℕ) : ℚ) / den < 1 / 2 := by
        rw [div_lt_div_iff₀ hpos two_pos, one_mul, mul_comm]
        exact_mod_cast Iff.rfl
      have heq' : 2 * (num % den) = den ↔ ((num % den : ℕ) : ℚ) / den = 1 / 2 := by
        rw [div_eq_div_iff hpos.ne' two_ne_zero, one_mul, mul_comm]
        exact_mod_cast Iff.rfl
      rcases lt_trichotomy (2 * (num % den)) den with h | h | h
      · rw [compare_lt_iff_lt.mpr h, compare_lt_iff_lt.mpr (hlt'.mp h)]
      · rw [compare_eq_iff_eq.mpr h, compare_eq_iff_eq.mpr (heq'.mp h)]
      · have hgt : (1 / 2 : ℚ) < ((num % den : ℕ) : ℚ) / den :=
          lt_of_le_of_ne (not_lt.mp fun h' => absurd (hlt'.mpr h') h.not_gt)
            fun h' => absurd (heq'.mpr h'.symm) h.ne'
        rw [compare_gt_iff_gt.mpr h, compare_gt_iff_gt.mpr hgt]
    rw [if_neg hzero, hcompare]
    exact stands_inexact _ (div_pos hr hpos) ((div_lt_one hpos).mpr hlt)

theorem Stands.roundedMantissa_eq {em : ExtendedMantissa} {y : ℚ} (h : Stands em y) {n : ℕ}
    (hlow : (n : ℚ) - 1 / 2 ≤ y) (hhigh : y ≤ n + 1 / 2)
    (htie : n % 2 = 0 ∨ (n : ℚ) - 1 / 2 < y ∧ y < n + 1 / 2) : em.roundedMantissa = n := by
  obtain ⟨m, r, s⟩ := em
  obtain ⟨hle, hlt, hhalf, hrest⟩ := h
  dsimp only at hle hlt hhalf hrest
  cases r with
  | false =>
      -- less than a half is left over, so the mantissa stays
      have hbelow : y < m + 1 / 2 := by
        by_contra hcon
        exact absurd (hhalf.mpr (not_lt.mp hcon)) (by decide)
      have hmn : m = n := by
        have h1 : (n : ℚ) < m + 1 := by linarith
        have h2 : (m : ℚ) < n + 1 := by linarith
        norm_cast at h1 h2
        omega
      cases s <;> exact hmn
  | true =>
      have habove : (m : ℚ) + 1 / 2 ≤ y := hhalf.mp rfl
      have h1 : (n : ℚ) < m + 2 := by linarith
      have h2 : (m : ℚ) < n + 1 := by linarith
      norm_cast at h1 h2
      cases s with
      | true =>
          -- more than a half is left over
          have hne := (hrest.mp rfl).2
          have hgt : (m : ℚ) + 1 / 2 < y := lt_of_le_of_ne habove hne.symm
          have h3 : (m : ℚ) < n := by linarith
          norm_cast at h3
          show m + 1 = n
          omega
      | false =>
          -- a tie goes to the even one of the two neighbours
          have heq : y = m + 1 / 2 := by
            by_contra hne
            have : y ≠ m := by intro h; linarith
            exact absurd (hrest.mpr ⟨this, hne⟩) (by decide)
          show m + m % 2 = n
          rcases htie with heven | ⟨h3, h4⟩
          · omega
          · rw [heq] at h3 h4
            have h5 : (m : ℚ) < n := by linarith
            have h6 : (n : ℚ) < m + 1 := by linarith
            norm_cast at h5 h6
            omega

/-! ## What a number attracts -/

/-- The mantissa has all its bits, except for the least exponent. -/
structure Binary.InRange (b : Binary) : Prop where
  pos : 0 < b.mantissa
  lt : b.mantissa < 2 ^ 53
  least : -1074 ≤ b.exponent
  greatest : b.exponent ≤ 971
  full : 2 ^ 52 ≤ b.mantissa ∨ b.exponent = -1074

/-- How far below a number, in units of its last bit, the values that round to it begin: the gap below a
power of two is half as wide. -/
def Binary.reach (b : Binary) : ℚ :=
  if b.mantissa = 2 ^ 52 ∧ -1074 < b.exponent then 1 / 4 else 1 / 2

/-- `q` is nearer to the number than to its neighbours, or in the middle and the mantissa is even. -/
structure Binary.Attracts (b : Binary) (q : ℚ) : Prop where
  low : (b.mantissa - b.reach) * 2 ^ b.exponent ≤ q
  high : q ≤ (b.mantissa + 1 / 2) * 2 ^ b.exponent
  tie : b.mantissa % 2 = 0
    ∨ (b.mantissa - b.reach) * 2 ^ b.exponent < q ∧ q < (b.mantissa + 1 / 2) * 2 ^ b.exponent

theorem two_zpow_pos (e : ℤ) : (0 : ℚ) < 2 ^ e := zpow_pos two_pos e

theorem pow_mul_two_zpow_le {n : ℕ} {s t : ℤ} (h : s + n ≤ t) : (2 : ℚ) ^ n * 2 ^ s ≤ 2 ^ t := by
  calc (2 : ℚ) ^ n * 2 ^ s = 2 ^ (s + n) := by rw [zpow_add₀ two_ne_zero, zpow_natCast, mul_comm]
    _ ≤ 2 ^ t := zpow_le_zpow_right₀ one_le_two h

namespace Binary

variable {b : Binary} {q : ℚ}

theorem reach_pos (b : Binary) : 0 < b.reach := by
  rw [reach]
  split <;> norm_num

theorem reach_le (b : Binary) : b.reach ≤ 1 / 2 := by
  rw [reach]
  split <;> norm_num

theorem Attracts.pos (hb : b.InRange) (hq : b.Attracts q) : 0 < q := by
  have h1 : (1 : ℚ) ≤ b.mantissa := by exact_mod_cast hb.pos
  have h2 := b.reach_le
  have h3 : (0 : ℚ) < (b.mantissa - b.reach) * 2 ^ b.exponent :=
    mul_pos (by linarith) (two_zpow_pos _)
  exact lt_of_lt_of_le h3 hq.low

/-- A value that the number attracts has the exponent of the number, or it is just below a power of two
and has one less. -/
theorem Attracts.exponent_cases (hb : b.InRange) (hq : b.Attracts q) {t : ℤ} (hmin : -1074 ≤ t)
    (hhigh : q < 2 ^ 53 * 2 ^ t) (hlow : 2 ^ 52 * 2 ^ t ≤ q ∨ t = -1074) :
    t = b.exponent ∨ (t + 1 = b.exponent ∧ b.mantissa = 2 ^ 52 ∧ (2 ^ 53 - 1 / 2) * 2 ^ t ≤ q) := by
  have hm : (b.mantissa : ℚ) ≤ 2 ^ 53 - 1 := by
    have h : b.mantissa + 1 ≤ 2 ^ 53 := hb.lt
    have h' : (b.mantissa : ℚ) + 1 ≤ 2 ^ 53 := by exact_mod_cast h
    linarith
  rcases lt_trichotomy t b.exponent with hlt | heq | hgt
  · -- a finer unit is possible only in the short gap below a power of two
    right
    have hfull : 2 ^ 52 ≤ b.mantissa := hb.full.resolve_right (by omega)
    have hge : (2 : ℚ) ^ 1 * 2 ^ t ≤ 2 ^ b.exponent := pow_mul_two_zpow_le (by omega)
    have hpos := two_zpow_pos t
    have hmantissa : b.mantissa = 2 ^ 52 := by
      by_contra hne
      have hreach : b.reach = 1 / 2 := if_neg fun h => hne h.1
      have hbig : (2 : ℚ) ^ 52 + 1 ≤ b.mantissa := by
        have h : 2 ^ 52 + 1 ≤ b.mantissa := by omega
        exact_mod_cast h
      have h := hq.low
      rw [hreach] at h
      nlinarith
    have hreach : b.reach = 1 / 4 := if_pos ⟨hmantissa, by omega⟩
    have hq' := hq.low
    rw [hmantissa, hreach] at hq'
    push_cast at hq'
    have hexponent : t + 1 = b.exponent := by
      by_contra hne
      have hge4 : (2 : ℚ) ^ 2 * 2 ^ t ≤ 2 ^ b.exponent := pow_mul_two_zpow_le (by omega)
      linarith
    refine ⟨hexponent, hmantissa, ?_⟩
    linarith
  · exact Or.inl heq
  · -- with a coarser unit the value would not fill its mantissa
    exfalso
    have hge : (2 : ℚ) ^ 1 * 2 ^ b.exponent ≤ 2 ^ t := pow_mul_two_zpow_le (by omega)
    have hlow' := hlow.resolve_right (by have := hb.least; omega)
    have hpos := two_zpow_pos b.exponent
    have := hq.high
    nlinarith

theorem attracts_self (b : Binary) : b.Attracts (b.mantissa * 2 ^ b.exponent) := by
  have hpos := two_zpow_pos b.exponent
  have hreach := b.reach_pos
  have hlow : ((b.mantissa : ℚ) - b.reach) * 2 ^ b.exponent < b.mantissa * 2 ^ b.exponent := by
    gcongr
    linarith
  have hhigh : (b.mantissa : ℚ) * 2 ^ b.exponent < (b.mantissa + 1 / 2) * 2 ^ b.exponent := by
    gcongr
    linarith
  exact ⟨hlow.le, hhigh.le, Or.inr ⟨hlow, hhigh⟩⟩

end Binary

/-! ## Rounding -/

theorem targetExponent_eq (t : ℤ) : Format.binary64.targetExponent t = max (t - 53) (-1074) := rfl

/-- The exponent that a value is rounded at leaves no more bits than a mantissa has, and no fewer unless it
is the least exponent. -/
theorem target_window {m : ℕ} {e : ℤ} {acc : Accuracy} {q : ℚ}
    (hstands : Stands (ExtendedMantissa.ofMantissaAndAccuracy m acc) (q / 2 ^ e))
    (hle : e ≤ Format.binary64.targetExponent (totalExponent m e)) :
    let t := Format.binary64.targetExponent (totalExponent m e)
    q < 2 ^ 53 * 2 ^ t ∧ (2 ^ 52 * 2 ^ t ≤ q ∨ t = -1074) := by
  intro t
  have hmantissa : (ExtendedMantissa.ofMantissaAndAccuracy m acc).mantissa = m := by
    cases acc with
    | exact => rfl
    | inexact o => cases o <;> rfl
  have hpos := two_zpow_pos e
  have hlow : (m : ℚ) * 2 ^ e ≤ q := by
    rw [← le_div_iff₀ hpos]
    exact hmantissa ▸ hstands.low
  have hhigh : q < (m + 1) * 2 ^ e := by
    rw [← div_lt_iff₀ hpos]
    exact hmantissa ▸ hstands.high
  have ht : t = max ((m.log2 : ℤ) + 1 + e - 53) (-1074) := rfl
  have hlog : (m : ℚ) + 1 ≤ 2 ^ ((m.log2 : ℤ) + 1) := by
    have h : m + 1 ≤ 2 ^ (m.log2 + 1) := Nat.lt_log2_self
    exact_mod_cast h
  constructor
  · calc q < (m + 1) * 2 ^ e := hhigh
      _ ≤ 2 ^ ((m.log2 : ℤ) + 1) * 2 ^ e := by gcongr
      _ = 2 ^ ((m.log2 : ℤ) + 1 + e) := (zpow_add₀ two_ne_zero _ _).symm
      _ ≤ 2 ^ (53 + t) := zpow_le_zpow_right₀ one_le_two (by omega)
      _ = 2 ^ 53 * 2 ^ t := by rw [zpow_add₀ two_ne_zero]; rfl
  · by_cases htop : t = -1074
    · exact Or.inr htop
    · left
      rcases Nat.eq_zero_or_pos m with rfl | hm
      · have : Nat.log2 0 = 0 := by decide
        omega
      · have hself : 2 ^ m.log2 ≤ m := Nat.log2_self_le hm.ne'
        calc (2 : ℚ) ^ 52 * 2 ^ t = 2 ^ (52 + t) := by rw [zpow_add₀ two_ne_zero]; rfl
          _ = 2 ^ (m.log2 : ℤ) * 2 ^ e := by rw [← zpow_add₀ two_ne_zero]; congr 1; omega
          _ ≤ m * 2 ^ e := by gcongr; exact_mod_cast hself
          _ ≤ q := hlow

theorem Binary.InRange.target_le {b : Binary} (hb : b.InRange) :
    Format.binary64.targetExponent (totalExponent b.mantissa b.exponent) ≤ b.exponent := by
  have hlog : b.mantissa.log2 < 53 := (Nat.log2_lt hb.pos.ne').mpr hb.lt
  have hleast := hb.least
  rw [targetExponent_eq, totalExponent]
  omega

theorem roundedMantissa_of_attracts {b : Binary} {q : ℚ} (hq : b.Attracts q) {em : ExtendedMantissa}
    (h : Stands em (q / 2 ^ b.exponent)) : em.roundedMantissa = b.mantissa := by
  have hpos := two_zpow_pos b.exponent
  have hreach := b.reach_le
  have hlow : (b.mantissa : ℚ) - b.reach ≤ q / 2 ^ b.exponent := (le_div_iff₀ hpos).mpr hq.low
  have hhigh : q / 2 ^ b.exponent ≤ b.mantissa + 1 / 2 := (div_le_iff₀ hpos).mpr hq.high
  refine h.roundedMantissa_eq (by linarith) hhigh ?_
  refine hq.tie.imp_right fun ⟨hlow', hhigh'⟩ => ⟨?_, (div_lt_iff₀ hpos).mpr hhigh'⟩
  have := (lt_div_iff₀ hpos).mpr hlow'
  linarith

/-- A mantissa that rounding has made one bit too long is shifted by that bit. -/
theorem shiftToTargetExponent_carry (t : ℤ) (hmin : -1074 ≤ t) :
    shiftToTargetExponent Format.binary64 (2 ^ 53) t .exact
      = (ExtendedMantissa.mk (2 ^ 52) false false, t + 1) := by
  have htarget : Format.binary64.targetExponent (totalExponent (2 ^ 53) t) = t + 1 := by
    rw [targetExponent_eq, totalExponent, Nat.log2_two_pow]
    omega
  rw [shiftToTargetExponent, shiftToExponent, htarget, add_sub_cancel_left]
  rfl

/-- **Rounding gives the number that attracts the value.** The mantissa must be known finely enough, that
is its exponent is at most the one that is rounded at. -/
theorem roundWithAccuracy_eq {b : Binary} (hb : b.InRange) {q : ℚ} (hq : b.Attracts q) {m : ℕ}
    {e : ℤ} {acc : Accuracy} (s : Sign)
    (hstands : Stands (ExtendedMantissa.ofMantissaAndAccuracy m acc) (q / 2 ^ e))
    (hle : e ≤ Format.binary64.targetExponent (totalExponent m e)) :
    roundWithAccuracy Format.binary64 s m e acc = .finite s b.mantissa b.exponent hb.pos := by
  obtain ⟨hhigh, hlow⟩ := target_window hstands hle
  generalize ht : Format.binary64.targetExponent (totalExponent m e) = t at hle hhigh hlow
  have hmin : -1074 ≤ t := by rw [← ht, targetExponent_eq]; exact le_max_right _ _
  have hscaled : q / 2 ^ e / 2 ^ (t - e).toNat = q / 2 ^ t := by
    rw [div_div, ← zpow_natCast, ← zpow_add₀ two_ne_zero]
    congr 2
    omega
  have hfirst := hstands.shiftRight (t - e).toNat
  rw [hscaled] at hfirst
  have hexponent : e + ((t - e).toNat : ℤ) = t := by omega
  have hshift : shiftToTargetExponent Format.binary64 m e acc
      = (ExtendedMantissa.ofMantissaAndAccuracy m acc >>> (t - e).toNat, t) := by
    rw [shiftToTargetExponent, shiftToExponent, ht, hexponent]
  generalize ExtendedMantissa.ofMantissaAndAccuracy m acc >>> (t - e).toNat = em at hfirst hshift
  rcases hq.exponent_cases hb hmin hhigh hlow with heq | ⟨hcarry, hmantissa, hedge⟩
  · -- the unit is that of `b`
    subst heq
    have hrounded := roundedMantissa_of_attracts hq hfirst
    have hsecond : shiftToTargetExponent Format.binary64 b.mantissa b.exponent .exact
        = (ExtendedMantissa.ofMantissaAndAccuracy b.mantissa .exact, b.exponent) := by
      rw [shiftToTargetExponent, shiftToExponent, Int.toNat_of_nonpos (by have := hb.target_le; omega)]
      exact congrArg (Prod.mk _) (add_zero _)
    simp only [roundWithAccuracy, hshift, hrounded, hsecond]
    exact dif_neg hb.pos.ne'
  · -- rounding carries into the next binade
    have hpos := two_zpow_pos t
    have hrounded : em.roundedMantissa = 2 ^ 53 := by
      have hlow' : ((2 ^ 53 : ℕ) : ℚ) - 1 / 2 ≤ q / 2 ^ t := by
        push_cast
        exact (le_div_iff₀ hpos).mpr hedge
      have hhigh' : q / 2 ^ t < ((2 ^ 53 : ℕ) : ℚ) := by
        push_cast
        exact (div_lt_iff₀ hpos).mpr hhigh
      exact hfirst.roundedMantissa_eq hlow' (by linarith) (Or.inl (by decide))
    simp only [roundWithAccuracy, hshift, hrounded, shiftToTargetExponent_carry t hmin, hcarry]
    simp only [hmantissa]
    rfl

end StatementTagging
