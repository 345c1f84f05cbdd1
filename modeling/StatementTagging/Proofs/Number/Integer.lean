import StatementTagging.Proofs.Number.Shortest

set_option autoImplicit false

/-! # Integers as floating-point numbers

An integer is turned into the nearest floating-point number. If that number has exactly the value of the
integer, nothing about the integer is lost: it is zero exactly if the integer is, and it is a number.
All integers with fewer than 54 bits are of this kind (`isExact_of_natAbs_lt`).
-/

namespace StatementTagging

open Float.Model Float.Model.UnpackedFloat

/-- Some floating-point number has exactly the value of the integer. -/
def IsExact (n : ℤ) : Prop := ∃ x, floatOfInt? n = some x ∧ integral? x = some n

/-! ## Numbers with the value of an integer -/

variable {x : Float} {n : ℤ}

theorem toInt?_eq_some_iff (b : Binary) (n : ℤ) :
    b.toInt? = some n ↔ b.ratio.2 ∣ b.ratio.1
      ∧ n = if b.negative then -((b.ratio.1 : ℤ) / b.ratio.2) else (b.ratio.1 : ℤ) / b.ratio.2 := by
  show (if b.ratio.1 % b.ratio.2 == 0 then some _ else none) = some n ↔ _
  rw [Nat.dvd_iff_mod_eq_zero]
  by_cases hdiv : b.ratio.1 % b.ratio.2 = 0
  · rw [if_pos (beq_iff_eq.mpr hdiv), Option.some.injEq]
    exact ⟨fun h => ⟨hdiv, h.symm⟩, fun h => h.2.symm⟩
  · rw [if_neg (by simpa using hdiv)]
    exact iff_of_false (by simp) fun h => hdiv h.1

theorem ratio_num_eq_zero_iff (b : Binary) : b.ratio.1 = 0 ↔ b.mantissa = 0 := by
  obtain ⟨negative, m, e⟩ := b
  cases e with
  | ofNat e => simp [Binary.ratio]
  | negSucc e => simp [Binary.ratio]

/-- A number with the value of an integer is one of the two zeros, or it has a positive mantissa. -/
theorem integral?_cases (h : integral? x = some n) :
    (n = 0 ∧ (x = -0 ∨ x = 0)) ∨ n ≠ 0 ∧ ∃ s m e hpos, x.toModel.unpack = .finite s m e hpos := by
  obtain ⟨b, hb, hn⟩ := Option.bind_eq_some_iff.mp h
  obtain ⟨⟨q, hq⟩, hn⟩ := (toInt?_eq_some_iff b n).mp hn
  have hden : 0 < b.ratio.2 := b.ratio_den_pos
  have hquotient : (b.ratio.1 : ℤ) / b.ratio.2 = q := by
    rw [hq, Nat.cast_mul]
    exact Int.mul_ediv_cancel_left _ (by omega)
  rw [hquotient] at hn
  have hzero := ratio_num_eq_zero_iff b
  by_cases hm : b.mantissa = 0
  · have hq0 : q = 0 := by
      rw [hzero.mpr hm] at hq
      exact (Nat.mul_eq_zero.mp hq.symm).resolve_left hden.ne'
    refine Or.inl ⟨by rw [hn, hq0]; simp, ?_⟩
    have hx := eq_zero_of_ofFloat? hb hm
    split at hx
    · exact Or.inl hx
    · exact Or.inr hx
  · have hq0 : q ≠ 0 := by
      rintro rfl
      exact hm (hzero.mp hq)
    refine Or.inr ⟨by rw [hn]; split <;> omega, _, _, _, _, (unpack_of_ofFloat? hb (Nat.pos_of_ne_zero hm)).2⟩

theorem beq_zero_of_integral? (h : integral? x = some n) : (x == 0) = (n == 0) := by
  rcases integral?_cases h with ⟨rfl, rfl | rfl⟩ | ⟨hn, s, m, e, hpos, hx⟩
  · decide
  · decide
  · rw [beq_eq_false_iff_ne.mpr hn]
    show x.toModel.unpack.beq (0 : Float).toModel.unpack = false
    rw [hx]
    cases s <;> rfl

theorem isNaN_of_integral? (h : integral? x = some n) : x.isNaN = false := by
  rcases integral?_cases h with ⟨-, rfl | rfl⟩ | ⟨-, s, m, e, hpos, hx⟩
  · decide
  · decide
  · show x.toModel.unpack.isNaN = false
    rw [hx]
    rfl

theorem isFinite_of_integral? (h : integral? x = some n) : x.isFinite = true := by
  rcases integral?_cases h with ⟨-, rfl | rfl⟩ | ⟨-, s, m, e, hpos, hx⟩
  · decide
  · decide
  · show x.toModel.unpack.isFinite = true
    rw [hx]
    rfl

/-! ## Integers with few bits -/

/-- The exact value of a number that is put together from it. -/
theorem ofFloat?_pack {b : Binary} (hb : b.InRange) :
    Binary.ofFloat? (Float.ofModel (Float.Model.pack
      (.finite (signOf b.negative) b.mantissa b.exponent hb.pos))) = some b := by
  have hunpack := unpack_pack hb (signOf b.negative)
  generalize hx : Float.ofModel (Float.Model.pack
    (.finite (signOf b.negative) b.mantissa b.exponent hb.pos)) = x
  have hxunpack : x.toModel.unpack = .finite (signOf b.negative) b.mantissa b.exponent hb.pos := by
    rw [← hx]
    exact hunpack
  cases hfound : Binary.ofFloat? x with
  | none =>
      rcases eq_of_ofFloat?_eq_none hfound with rfl | rfl | rfl <;> cases hxunpack
  | some b' =>
      by_cases hzero : b'.mantissa = 0
      · have heq := eq_zero_of_ofFloat? hfound hzero
        rw [heq] at hxunpack
        cases hneg : b'.negative <;> rw [hneg] at hxunpack <;> cases hxunpack
      · obtain ⟨-, hfinite⟩ := unpack_of_ofFloat? hfound (Nat.pos_of_ne_zero hzero)
        rw [hxunpack, UnpackedFloat.finite.injEq] at hfinite
        obtain ⟨hs, hm, he⟩ := hfinite
        obtain ⟨negative, m, e⟩ := b
        obtain ⟨negative', m', e'⟩ := b'
        dsimp only at hs hm he
        subst hm he
        cases negative <;> cases negative' <;> first | rfl | cases hs

/-- The integer with a mantissa that is shifted by `k` bits. -/
def shifted (n : ℤ) (k : ℕ) : Binary := ⟨n < 0, n.natAbs * 2 ^ k, -k⟩

/-- A mantissa that is shifted until it has 53 bits is that of a floating-point number. -/
theorem inRange_shifted {k : ℕ} (hn : n ≠ 0) (hk : 52 = n.natAbs.log2 + k) : (shifted n k).InRange := by
  have hpos : 0 < n.natAbs := Int.natAbs_pos.mpr hn
  have hlog : (n.natAbs * 2 ^ k).log2 = 52 := by
    rw [log2_mul_two_pow hpos, ← hk]
  have hmantissa : n.natAbs * 2 ^ k ≠ 0 := by positivity
  obtain ⟨hlow, hhigh⟩ := (Nat.log2_eq_iff hmantissa).mp hlog
  exact ⟨Nat.pos_of_ne_zero hmantissa, hhigh, by show -1074 ≤ -(k : ℤ); omega,
    by show -(k : ℤ) ≤ 971; omega, Or.inl hlow⟩

theorem attracts_shifted (n : ℤ) (k : ℕ) : (shifted n k).Attracts (n.natAbs * 10 ^ (0 : ℤ)) := by
  have hself := Binary.attracts_self (shifted n k)
  have hvalue : ((n.natAbs * 2 ^ k : ℕ) : ℚ) * 2 ^ (-(k : ℤ)) = n.natAbs * 10 ^ (0 : ℤ) := by
    rw [Nat.cast_mul, Nat.cast_pow, Nat.cast_ofNat, mul_assoc, ← zpow_natCast, ← zpow_add₀ two_ne_zero]
    simp
  exact hvalue ▸ hself

theorem toInt?_shifted (n : ℤ) (k : ℕ) : (shifted n k).toInt? = some n := by
  have hratio : (shifted n k).ratio = (n.natAbs * 2 ^ k, 2 ^ k) := by
    cases k with
    | zero => simp [shifted, Binary.ratio]
    | succ j => rfl
  have hquotient : ((n.natAbs * 2 ^ k : ℕ) : ℤ) / (2 ^ k : ℕ) = n.natAbs := by
    rw [Nat.cast_mul]
    exact Int.mul_ediv_cancel _ (by positivity)
  rw [toInt?_eq_some_iff, hratio]
  refine ⟨Dvd.intro_left _ rfl, ?_⟩
  rw [hquotient]
  show n = if decide (n < 0) = true then -(n.natAbs : ℤ) else n.natAbs
  split
  · next hneg =>
      have hneg := of_decide_eq_true hneg
      omega
  · next hnot =>
      have hnot : ¬ n < 0 := fun hneg => hnot (decide_eq_true hneg)
      omega

theorem isExact_zero : IsExact 0 := ⟨0, rfl, by decide +kernel⟩

/-- **Integers with fewer than 54 bits are exact.** -/
theorem isExact_of_natAbs_lt (h : n.natAbs < 2 ^ 53) : IsExact n := by
  by_cases hn : n = 0
  · exact hn ▸ isExact_zero
  have hpos : 0 < n.natAbs := Int.natAbs_pos.mpr hn
  obtain ⟨k, hk⟩ := Nat.exists_eq_add_of_le (Nat.lt_succ_iff.mp ((Nat.log2_lt hpos.ne').mpr h))
  have hrange := inRange_shifted hn hk
  have hfloat := ofFloat?_pack hrange
  generalize Float.ofModel (Float.Model.pack
    (.finite (signOf (shifted n k).negative) (shifted n k).mantissa (shifted n k).exponent hrange.pos)) = x
    at hfloat
  have hread : floatOfDecimal (n < 0) n.natAbs 0 = x :=
    floatOfDecimal_eq hfloat hrange.pos (attracts_shifted n k)
  have hint : integral? x = some n := by
    rw [integral?, hfloat, Option.bind_some, toInt?_shifted]
  refine ⟨x, ?_, hint⟩
  show (if (floatOfDecimal (n < 0) n.natAbs 0).isFinite then some _ else none) = _
  rw [hread, if_pos (isFinite_of_integral? hint)]

end StatementTagging
