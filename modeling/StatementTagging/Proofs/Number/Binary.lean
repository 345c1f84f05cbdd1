import StatementTagging.Proofs.Number.Rounding

set_option autoImplicit false

/-! # The exact value of a floating-point number

`Binary.ofFloat?` computes the exact value of a number from its bits. The same bits are taken apart by
the arithmetic of floating-point numbers, and both agree (`unpack_of_ofFloat?`). A number is determined
by its exact value: zeros and the special numbers are the ones without a positive mantissa
(`eq_zero_of_ofFloat?`, `eq_of_ofFloat?_eq_none`).
-/

namespace StatementTagging

open Float.Model Float.Model.UnpackedFloat

/-! ## Packing -/

theorem sign_ofBitVec_toBitVec (s : Sign) : Sign.ofBitVec s.toBitVec = s := by cases s <;> rfl

theorem toNat_append_one (m : BitVec 52) : (1#1 ++ m).toNat = 2 ^ 52 + m.toNat := by
  rw [BitVec.toNat_append, ← Nat.shiftLeft_add_eq_or_of_lt m.isLt]
  rfl

theorem toNat_ofNat_of_lt {w n : ℕ} (h : n < 2 ^ w) : (BitVec.ofNat w n).toNat = n := by
  rw [BitVec.toNat_ofNat, Nat.mod_eq_of_lt h]

theorem ofNat_eq_iff {w n k : ℕ} (hn : n < 2 ^ w) (hk : k < 2 ^ w) :
    BitVec.ofNat w n = BitVec.ofNat w k ↔ n = k := by
  constructor
  · intro h
    have := congrArg BitVec.toNat h
    rwa [toNat_ofNat_of_lt hn, toNat_ofNat_of_lt hk] at this
  · rintro rfl
    rfl

/-- A number is taken apart into the fields that it was put together from. The exponent field of a number
that is neither infinite nor NaN is not the greatest one. -/
theorem unpack_packComponents (s : Sign) {k m : ℕ} (hk : k < 2047) (hm : m < 2 ^ 52) :
    UnpackedFloat.unpack Format.binary64
        (packComponents Format.binary64 s (BitVec.ofNat 11 k) (BitVec.ofNat 52 m))
      = if k = 0 then
          if h : m = 0 then .zero s else .finite s m (-1074) (Nat.pos_of_ne_zero h)
        else .finite s (2 ^ 52 + m) (k - 1075) (by positivity) := by
  have hmantissa : (BitVec.ofNat 52 m).toNat = m := toNat_ofNat_of_lt hm
  have hexponent : (BitVec.ofNat 11 k).toNat = k := toNat_ofNat_of_lt (by omega)
  have htop : BitVec.ofNat 11 k ≠ -1#11 := fun h => by
    have : k = 2047 := (ofNat_eq_iff (by omega) (by norm_num)).mp (h.trans (by decide))
    omega
  rw [UnpackedFloat.unpack]
  simp only [unpackMantissa_packComponents, unpackExponent_packComponents,
    unpackSign_packComponents, sign_ofBitVec_toBitVec]
  rw [if_neg htop]
  by_cases hk0 : k = 0
  · subst hk0
    rw [if_pos rfl, if_pos rfl]
    by_cases hm0 : m = 0
    · subst hm0
      rfl
    · have hzero : ¬ BitVec.ofNat 52 m = 0#52 := fun h => hm0 ((ofNat_eq_iff hm (by norm_num)).mp h)
      rw [dif_neg hm0]
      refine (dif_neg hzero).trans ?_
      rw [UnpackedFloat.finite.injEq, hmantissa]
      exact ⟨rfl, rfl, rfl⟩
  · have hzero : ¬ BitVec.ofNat 11 k = 0#11 :=
      fun h => hk0 ((ofNat_eq_iff (by omega) (by norm_num)).mp h)
    rw [if_neg hzero, if_neg hk0, UnpackedFloat.finite.injEq]
    refine ⟨rfl, ?_, ?_⟩
    · exact (toNat_append_one _).trans (congrArg (2 ^ 52 + ·) hmantissa)
    · show ((BitVec.ofNat 11 k).toNat : ℤ) - 1075 = k - 1075
      rw [hexponent]

/-- A number that is in range is packed with its exponent in the exponent field, which is zero for a
mantissa without its first bit. -/
theorem pack_eq {b : Binary} (hb : b.InRange) (s : Sign) :
    UnpackedFloat.pack Format.binary64 (.finite s b.mantissa b.exponent hb.pos)
      = packComponents Format.binary64 s
          (BitVec.ofNat 11 (if 2 ^ 52 ≤ b.mantissa then (b.exponent + 1075).toNat else 0))
          (BitVec.ofNat 52 b.mantissa) := by
  obtain ⟨negative, m, e⟩ := b
  obtain ⟨hpos, hlt, hleast, hgreatest, hfull⟩ := hb
  dsimp only at hpos hlt hleast hgreatest hfull
  have hbias : (e + Format.binary64.exponentBias + Format.binary64.mantissaBitsWithoutImplicit).toNat
      = (e + 1075).toNat := by
    show (e + 1023 + 52).toNat = (e + 1075).toNat
    omega
  have hroom : ¬ 2 ^ Format.binary64.exponentBits ≤ (e + 1075).toNat + 1 := by
    show ¬ 2048 ≤ (e + 1075).toNat + 1
    omega
  simp only [UnpackedFloat.pack, hbias, if_neg hroom]
  by_cases hnormal : 2 ^ 52 ≤ m
  · have hlog : m.log2 = 52 := (Nat.log2_eq_iff hpos.ne').mpr ⟨hnormal, hlt⟩
    rw [if_pos (by rw [hlog]; rfl), if_pos hnormal]
  · have hlog : m.log2 < 52 := (Nat.log2_lt hpos.ne').mpr (not_le.mp hnormal)
    rw [if_neg (by show ¬ m.log2 + 1 = 53; omega), if_neg hnormal]

/-- Packing a number that is in range loses nothing. -/
theorem unpack_pack {b : Binary} (hb : b.InRange) (s : Sign) :
    (Float.Model.pack (.finite s b.mantissa b.exponent hb.pos)).unpack
      = .finite s b.mantissa b.exponent hb.pos := by
  have hlt := hb.lt
  have hleast := hb.least
  have hgreatest := hb.greatest
  show UnpackedFloat.unpack Format.binary64 (UnpackedFloat.pack Format.binary64 _) = _
  rw [pack_eq hb]
  by_cases hnormal : 2 ^ 52 ≤ b.mantissa
  · -- the first bit of the mantissa is not stored
    have hstored : BitVec.ofNat 52 b.mantissa = BitVec.ofNat 52 (b.mantissa - 2 ^ 52) := by
      refine BitVec.eq_of_toNat_eq ?_
      rw [BitVec.toNat_ofNat, BitVec.toNat_ofNat]
      omega
    rw [if_pos hnormal, hstored, unpack_packComponents s (by omega) (by omega), if_neg (by omega),
      UnpackedFloat.finite.injEq]
    exact ⟨rfl, by omega, by omega⟩
  · have hpos := hb.pos
    rw [if_neg hnormal, unpack_packComponents s (by norm_num) (not_le.mp hnormal), if_pos rfl,
      dif_neg hpos.ne', UnpackedFloat.finite.injEq]
    exact ⟨rfl, rfl, (hb.full.resolve_left hnormal).symm⟩

theorem pack_unpack (x : Float) : Float.ofModel (Float.Model.pack x.toModel.unpack) = x := by
  rw [← Float.toBits_inj]
  exact congrArg UInt64.ofBitVec (pack_unpack_of_valid x.toModel.valid)

/-! ## The parts of a number -/

theorem eq_of_toBits_eq {x y : Float} (h : x.toBits.toBitVec = y.toBits.toBitVec) : x = y := by
  rw [← Float.toBits_inj]
  exact UInt64.eq_of_toBitVec_eq h

/-- The sign of a number. -/
def signOf (negative : Bool) : Sign := if negative then .negative else .positive

/-- The exact value of the number with an exponent field and a fraction field. -/
def Binary.ofParts (negative : Bool) (exponent fraction : ℕ) : Option Binary :=
  if exponent = 2047 then none
  else if exponent = 0 then some ⟨negative, fraction, -1074⟩
  else some ⟨negative, fraction + 2 ^ 52, exponent - 1075⟩

theorem toNat_unpackExponent (x : Float) :
    (@unpackExponent Format.binary64 x.toBits.toBitVec).toNat
      = x.toBits.toNat / 2 ^ 52 % 2 ^ 11 := by
  rw [unpackExponent_def, BitVec.extractLsb'_toNat, Nat.shiftRight_eq_div_pow]
  rfl

theorem toNat_unpackMantissa (x : Float) :
    (@unpackMantissa Format.binary64 x.toBits.toBitVec).toNat = x.toBits.toNat % 2 ^ 52 := by
  rw [unpackMantissa_def, BitVec.extractLsb'_toNat, Nat.shiftRight_eq_div_pow, pow_zero, Nat.div_one]
  rfl

theorem unpackSign_eq (x : Float) :
    Sign.ofBitVec (@unpackSign Format.binary64 x.toBits.toBitVec)
      = if x.toBits.toNat / 2 ^ 63 = 1 then .negative else .positive := by
  have hlt : x.toBits.toNat < 2 ^ 64 := x.toBits.toNat_lt
  have hsign : (@unpackSign Format.binary64 x.toBits.toBitVec).toNat
      = x.toBits.toNat / 2 ^ 63 := by
    rw [unpackSign_def, BitVec.extractLsb'_toNat, Nat.shiftRight_eq_div_pow]
    show x.toBits.toNat / 2 ^ 63 % 2 ^ 1 = _
    omega
  rw [Sign.ofBitVec]
  by_cases hone : x.toBits.toNat / 2 ^ 63 = 1
  · rw [if_pos hone, if_neg fun h => ?_]
    rw [h, hone] at hsign
    exact absurd hsign (by decide)
  · rw [if_neg hone, if_pos]
    refine BitVec.eq_of_toNat_eq ?_
    rw [hsign]
    show x.toBits.toNat / 2 ^ 63 = 0
    omega

/-- Every number is put together from three fields, which determine its exact value. -/
theorem exists_parts (x : Float) : ∃ negative exponent fraction,
    exponent < 2 ^ 11 ∧ fraction < 2 ^ 52
    ∧ x.toBits.toBitVec = packComponents Format.binary64 (signOf negative)
        (BitVec.ofNat 11 exponent) (BitVec.ofNat 52 fraction)
    ∧ Binary.ofFloat? x = Binary.ofParts negative exponent fraction := by
  refine ⟨x.toBits.toNat / 2 ^ 63 == 1, x.toBits.toNat / 2 ^ 52 % 2 ^ 11, x.toBits.toNat % 2 ^ 52,
    Nat.mod_lt _ (by positivity), Nat.mod_lt _ (by positivity), ?_, ?_⟩
  · conv_lhs =>
      rw [← @packComponents_unpackSign_unpackExponent_unpackMantissa Format.binary64
        x.toBits.toBitVec]
    rw [unpackSign_eq]
    congr 1
    · simp only [signOf, beq_iff_eq]
    · refine BitVec.eq_of_toNat_eq ?_
      rw [toNat_unpackExponent, BitVec.toNat_ofNat]
      exact (Nat.mod_mod _ _).symm
    · refine BitVec.eq_of_toNat_eq ?_
      rw [toNat_unpackMantissa, BitVec.toNat_ofNat]
      exact (Nat.mod_mod _ _).symm
  · simp only [Binary.ofFloat?, Binary.ofParts, beq_iff_eq]
    rfl

/-! ## Numbers by their exact values -/

variable {x : Float} {b : Binary}

/-- A number with a positive mantissa is taken apart into its exact value. -/
theorem unpack_of_ofFloat? (h : Binary.ofFloat? x = some b) (hpos : 0 < b.mantissa) :
    b.InRange ∧ x.toModel.unpack = .finite (signOf b.negative) b.mantissa b.exponent hpos := by
  obtain ⟨negative, k, m, hk, hm, hbits, hparts⟩ := exists_parts x
  have hunpack : x.toModel.unpack = UnpackedFloat.unpack Format.binary64 x.toBits.toBitVec := rfl
  rw [hparts, Binary.ofParts] at h
  by_cases htop : k = 2047
  · rw [if_pos htop] at h
    cases h
  rw [if_neg htop] at h
  rw [hunpack, hbits, unpack_packComponents _ (by omega) hm]
  by_cases hzero : k = 0
  · -- the fraction is the whole mantissa
    rw [if_pos hzero] at h
    obtain rfl := Option.some.inj h
    dsimp only at hpos ⊢
    rw [if_pos hzero, dif_neg hpos.ne']
    exact ⟨⟨hpos, by dsimp only; omega, le_refl _, by dsimp only; norm_num, Or.inr rfl⟩, rfl⟩
  · -- the mantissa has a first bit that is not stored
    rw [if_neg hzero] at h
    obtain rfl := Option.some.inj h
    dsimp only at hpos ⊢
    rw [if_neg hzero, UnpackedFloat.finite.injEq]
    refine ⟨⟨hpos, ?_, ?_, ?_, Or.inl ?_⟩, rfl, Nat.add_comm _ _, rfl⟩
    · dsimp only
      omega
    · dsimp only
      omega
    · dsimp only
      omega
    · dsimp only
      omega

/-- A number with no mantissa is one of the two zeros. -/
theorem eq_zero_of_ofFloat? (h : Binary.ofFloat? x = some b) (hzero : b.mantissa = 0) :
    x = if b.negative then -0 else 0 := by
  obtain ⟨negative, k, m, hk, hm, hbits, hparts⟩ := exists_parts x
  rw [hparts, Binary.ofParts] at h
  split_ifs at h with htop hk0
  · obtain rfl := Option.some.inj h
    dsimp only at hzero ⊢
    subst hzero hk0
    cases negative
    · exact eq_of_toBits_eq (hbits.trans (by decide))
    · exact eq_of_toBits_eq (hbits.trans (by decide))
  · obtain rfl := Option.some.inj h
    exact absurd hzero (by dsimp only; omega)

/-- A number without an exact value is one of the three special ones. -/
theorem eq_of_ofFloat?_eq_none (h : Binary.ofFloat? x = none) :
    x = 0.0 / 0.0 ∨ x = 1.0 / 0.0 ∨ x = -1.0 / 0.0 := by
  obtain ⟨negative, k, m, hk, hm, hbits, hparts⟩ := exists_parts x
  rw [hparts, Binary.ofParts] at h
  split_ifs at h with htop
  subst htop
  by_cases hm0 : m = 0
  · right
    subst hm0
    cases negative
    · exact Or.inl (eq_of_toBits_eq (hbits.trans (by decide)))
    · exact Or.inr (eq_of_toBits_eq (hbits.trans (by decide)))
  · left
    have hnan : x.toBits.toBitVec = packedNaN Format.binary64 := by
      refine x.toModel.valid.eq_packedNaN ?_ ?_
      · show @unpackExponent Format.binary64 x.toBits.toBitVec = _
        rw [hbits, unpackExponent_packComponents]
        decide
      · show @unpackMantissa Format.binary64 x.toBits.toBitVec ≠ _
        rw [hbits, unpackMantissa_packComponents]
        exact fun heq => hm0 ((ofNat_eq_iff hm (by norm_num)).mp heq)
    exact eq_of_toBits_eq (hnan.trans (by decide))

end StatementTagging
