import StatementTagging.Json.Reader
import StatementTagging.Json.Writer
import StatementTagging.Proofs.Number.Shortest

set_option autoImplicit false

/-! # Numbers in JSON texts

A number is written as digits before the point, digits after it and an exponent, where the last two may
be missing. A `Numeral` holds these parts; reading its characters gives the value of the parts
(`Numeral.read_chars`). An integer is written without the last two parts, and a finite floating-point
number with one of them, so that reading gives the same number of the same kind.
-/

namespace StatementTagging.Json

open Text

/-! ## Digits -/

/-- All characters are digits. -/
def Digits (ds : List Char) : Prop := ∀ c ∈ ds, isBasicDigit c = true

/-- The text does not begin with a digit. -/
def NoDigit (cs : List Char) : Prop := ∀ c ∈ cs.head?, isBasicDigit c = false

theorem Digits.append {ds es : List Char} (hds : Digits ds) (hes : Digits es) : Digits (ds ++ es) :=
  List.forall_mem_append.mpr ⟨hds, hes⟩

theorem Digits.zeros (n : ℕ) : Digits (List.replicate n '0') := by
  intro c hc
  rw [List.eq_of_mem_replicate hc]
  rfl

theorem Digits.toDigits (n : ℕ) : Digits (Nat.toDigits 10 n) := fun _ hc =>
  Nat.isDigit_of_mem_toDigits (by norm_num) (by norm_num) hc

theorem takeWhile_digits {ds cs : List Char} (hds : Digits ds) (hcs : NoDigit cs) :
    (ds ++ cs).takeWhile isBasicDigit = ds := by
  rw [List.takeWhile_append_of_pos hds]
  cases cs with
  | nil => rw [List.takeWhile_nil, List.append_nil]
  | cons c r =>
      rw [List.takeWhile_cons_of_neg (by rw [hcs c rfl]; decide), List.append_nil]

theorem dropWhile_digits {ds cs : List Char} (hds : Digits ds) (hcs : NoDigit cs) :
    (ds ++ cs).dropWhile isBasicDigit = cs := by
  rw [List.dropWhile_append_of_pos hds]
  cases cs with
  | nil => rfl
  | cons c r => exact List.dropWhile_cons_of_neg (by rw [hcs c rfl]; decide)

theorem numeral_append (ds es : List Char) :
    numeral 10 (ds ++ es) = numeral 10 ds * 10 ^ es.length + numeral 10 es := by
  have hfrom : ∀ n, es.foldl (fun n c => 10 * n + hexValue c) n
      = n * 10 ^ es.length + es.foldl (fun n c => 10 * n + hexValue c) 0 := by
    induction es with
    | nil => simp
    | cons c r ih =>
        intro n
        rw [List.foldl_cons, List.foldl_cons, ih (10 * n + hexValue c), ih (10 * 0 + hexValue c),
          List.length_cons]
        ring
  rw [numeral, numeral, numeral, List.foldl_append]
  exact hfrom _

theorem numeral_zeros (n : ℕ) : numeral 10 (List.replicate n '0') = 0 := by
  induction n with
  | zero => rfl
  | succ n ih =>
      rw [List.replicate_succ, ← List.singleton_append, numeral_append, ih]
      rw [show numeral 10 ['0'] = 0 from rfl, zero_mul]

theorem numeral_toDigits (n : ℕ) : numeral 10 (Nat.toDigits 10 n) = n := by
  have hvalue : ∀ (ds : List Char) (m : ℕ), Digits ds →
      ds.foldl (fun n c => 10 * n + hexValue c) m = Nat.ofDigitChars 10 ds m := by
    intro ds
    induction ds with
    | nil => exact fun _ _ => rfl
    | cons c r ih =>
        intro m hds
        obtain ⟨hc, hr⟩ := List.forall_mem_cons.mp hds
        rw [List.foldl_cons, Nat.ofDigitChars_cons, hexValue, if_pos hc]
        exact ih _ hr
  rw [numeral, hvalue _ _ (Digits.toDigits n)]
  exact Nat.ofDigitChars_toDigits (by norm_num) (by norm_num)

/-- The digits of a positive number do not begin with a zero. -/
theorem exists_toDigits_eq_cons {n : ℕ} (hn : 0 < n) : ∃ c r, Nat.toDigits 10 n = c :: r ∧ c ≠ '0' := by
  induction n using Nat.strong_induction_on with
  | _ n ih =>
      rw [Nat.toDigits_eq_if (by norm_num)]
      split_ifs with hlt
      · refine ⟨_, _, rfl, ?_⟩
        interval_cases n <;> decide
      · obtain ⟨c, r, hcr, hc⟩ := ih (n / 10) (by omega) (by omega)
        exact ⟨c, r ++ [(n % 10).digitChar], by rw [hcr]; rfl, hc⟩

/-! ## The parts of a written number -/

/-- The digits before the point are a single zero, or do not begin with one. -/
def IsWhole (ds : List Char) : Prop := ds = ['0'] ∨ ∃ c r, ds = c :: r ∧ c ≠ '0' ∧ Digits (c :: r)

theorem IsWhole.toDigits (n : ℕ) : IsWhole (Nat.toDigits 10 n) := by
  rcases Nat.eq_zero_or_pos n with rfl | hn
  · exact Or.inl rfl
  · obtain ⟨c, r, hcr, hc⟩ := exists_toDigits_eq_cons hn
    exact Or.inr ⟨c, r, hcr, hc, hcr ▸ Digits.toDigits n⟩

theorem IsWhole.exists_cons {ds : List Char} (h : IsWhole ds) :
    ∃ c r, ds = c :: r ∧ isBasicDigit c = true := by
  rcases h with rfl | ⟨c, r, rfl, -, hds⟩
  · exact ⟨_, _, rfl, rfl⟩
  · exact ⟨c, r, rfl, hds c List.mem_cons_self⟩

theorem readWhole_append {ds cs : List Char} (h : IsWhole ds) (hcs : NoDigit cs) :
    readWhole (ds ++ cs) = some (ds, cs) := by
  rcases h with rfl | ⟨c, r, rfl, hc, hds⟩
  · rfl
  · obtain ⟨hdigit, hr⟩ := List.forall_mem_cons.mp hds
    rw [List.cons_append, readWhole, if_neg hc, if_pos hdigit, takeWhile_digits hr hcs,
      dropWhile_digits hr hcs]

/-- A value at the front of a text has ended: nothing, a comma or a line break follows. -/
def Ended (cs : List Char) : Prop := ∀ c ∈ cs.head?, c = ',' ∨ c = '\n'

theorem Ended.noDigit {cs : List Char} (h : Ended cs) : NoDigit cs := by
  intro c hc
  rcases h c hc with rfl | rfl <;> rfl

/-- The written digits after the point; without digits there is no point. -/
def pointed (fraction : List Char) : List Char :=
  if fraction.isEmpty then [] else '.' :: fraction

theorem pointed_of_ne_nil {fraction : List Char} (h : fraction ≠ []) :
    pointed fraction = '.' :: fraction :=
  if_neg fun hempty => h (List.isEmpty_iff.mp hempty)

theorem readFraction_append {fraction cs : List Char} (hds : Digits fraction)
    (hcs : ∀ c ∈ cs.head?, isBasicDigit c = false ∧ c ≠ '.') :
    readFraction (pointed fraction ++ cs) = (fraction, cs) := by
  have hnoDigit : NoDigit cs := fun c hc => (hcs c hc).1
  cases fraction with
  | nil =>
      cases cs with
      | nil => rfl
      | cons c r =>
          show readFraction (c :: r) = ([], c :: r)
          rw [readFraction]
          exact fun r' heq => (hcs c rfl).2 (List.cons.inj heq).1
  | cons d ds =>
      show readFraction ('.' :: ((d :: ds) ++ cs)) = (d :: ds, cs)
      rw [readFraction, takeWhile_digits hds hnoDigit, dropWhile_digits hds hnoDigit]
      rfl

/-- The written exponent. -/
def exponentChars : Option ℤ → List Char
  | none => []
  | some e => (NumberFormat.document.exponentText e).toList

/-- The characters of an exponent: its mark, its sign and its digits, filled up with zeros. -/
theorem exponentChars_some (e : ℤ) : ∃ zeros : ℕ, exponentChars (some e)
    = 'e' :: (if e < 0 then '-' else '+') :: (List.replicate zeros '0' ++ Nat.toDigits 10 e.natAbs) := by
  refine ⟨2 - (toString e.natAbs).length, ?_⟩
  rw [exponentChars, NumberFormat.exponentText, Nat.toString_eq_ofList_toDigits]
  simp only [String.toList_append, String.toList_ofList]
  split <;> rfl

theorem readExponent_append {cs : List Char} (e : Option ℤ) (hcs : Ended cs) :
    readExponent (exponentChars e ++ cs) = (e, cs) := by
  cases e with
  | none =>
      cases cs with
      | nil => rfl
      | cons c r => rcases hcs c rfl with rfl | rfl <;> rfl
  | some e =>
      obtain ⟨zeros, hchars⟩ := exponentChars_some e
      have hds : Digits (List.replicate zeros '0' ++ Nat.toDigits 10 e.natAbs) :=
        (Digits.zeros zeros).append (Digits.toDigits _)
      have hvalue : numeral 10 (List.replicate zeros '0' ++ Nat.toDigits 10 e.natAbs) = e.natAbs := by
        rw [numeral_append, numeral_zeros, zero_mul, zero_add, numeral_toDigits]
      have hsome : (List.replicate zeros '0' ++ Nat.toDigits 10 e.natAbs).isEmpty = false := by
        rw [List.isEmpty_eq_false_iff]
        exact List.append_ne_nil_of_right_ne_nil _ Nat.toDigits_ne_nil
      generalize List.replicate zeros '0' ++ Nat.toDigits 10 e.natAbs = ds at hchars hds hvalue hsome
      rw [hchars]
      by_cases hneg : e < 0
      · rw [if_pos hneg]
        show readExponent ('e' :: '-' :: (ds ++ cs)) = (some e, cs)
        simp only [readExponent, takeWhile_digits hds hcs.noDigit, dropWhile_digits hds hcs.noDigit,
          hsome, hvalue]
        show (some (-(e.natAbs : ℤ)), cs) = (some e, cs)
        rw [show -(e.natAbs : ℤ) = e by omega]
      · rw [if_neg hneg]
        show readExponent ('e' :: '+' :: (ds ++ cs)) = (some e, cs)
        simp only [readExponent, takeWhile_digits hds hcs.noDigit, dropWhile_digits hds hcs.noDigit,
          hsome, hvalue]
        show (some (e.natAbs : ℤ), cs) = (some e, cs)
        rw [show (e.natAbs : ℤ) = e by omega]

/-- The parts of a written number. -/
structure Numeral where
  negative : Bool
  whole : List Char
  fraction : List Char
  exponent : Option ℤ

namespace Numeral

/-- The written number. -/
def chars (n : Numeral) : List Char :=
  (if n.negative then ['-'] else []) ++ (n.whole ++ (pointed n.fraction ++ exponentChars n.exponent))

/-- The value of the parts. -/
def datum (n : Numeral) : Datum :=
  if n.fraction.isEmpty && n.exponent.isNone then
    .int (if n.negative then -(numeral 10 n.whole : ℤ) else numeral 10 n.whole)
  else
    .float (floatOfDecimal n.negative (numeral 10 (n.whole ++ n.fraction))
      (n.exponent.getD 0 - n.fraction.length))

/-- **Reading a written number** gives the value of its parts. -/
theorem read_chars {n : Numeral} (hwhole : IsWhole n.whole) (hfraction : Digits n.fraction)
    {cs : List Char} (hcs : Ended cs) : readNumber? (n.chars ++ cs) = some (n.datum, cs) := by
  obtain ⟨negative, whole, fraction, exponent⟩ := n
  -- the exponent, or what follows the number, does not go on with a digit or a point
  have hexponent : ∀ c ∈ (exponentChars exponent ++ cs).head?, isBasicDigit c = false ∧ c ≠ '.' := by
    cases exponent with
    | none =>
        intro c hc
        rcases hcs c hc with rfl | rfl <;> exact ⟨rfl, by decide⟩
    | some e =>
        obtain ⟨zeros, hchars⟩ := exponentChars_some e
        rw [hchars]
        rintro c ⟨⟩
        exact ⟨rfl, by decide⟩
  have hpoint : NoDigit (pointed fraction ++ (exponentChars exponent ++ cs)) := by
    cases fraction with
    | nil => exact fun c hc => (hexponent c hc).1
    | cons d ds =>
        rintro c ⟨⟩
        rfl
  have hrest : readWhole (whole ++ (pointed fraction ++ (exponentChars exponent ++ cs)))
      = some (whole, pointed fraction ++ (exponentChars exponent ++ cs)) :=
    readWhole_append hwhole hpoint
  have hread : readUnsigned? negative (whole ++ (pointed fraction ++ (exponentChars exponent ++ cs)))
      = some ((⟨negative, whole, fraction, exponent⟩ : Numeral).datum, cs) := by
    rw [readUnsigned?, hrest, Option.map_some]
    simp only [readFraction_append hfraction hexponent, readExponent_append exponent hcs, datum]
    split <;> rfl
  simp only [chars, List.append_assoc]
  cases negative with
  | true => exact hread
  | false =>
      obtain ⟨c, r, rfl, hc⟩ := hwhole.exists_cons
      have hnotSign : c ≠ '-' := by
        rintro rfl
        exact absurd hc (by decide)
      rw [← hread]
      show readNumber? (c :: (r ++ _)) = readUnsigned? false (c :: (r ++ _))
      rw [readNumber?]
      exact fun r' heq => hnotSign (List.cons.inj heq).1

end Numeral

/-! ## Integers -/

/-- The parts that an integer is written with. -/
def Numeral.ofInt (n : ℤ) : Numeral := ⟨n < 0, Nat.toDigits 10 n.natAbs, [], none⟩

theorem Numeral.chars_ofInt (n : ℤ) : (ofInt n).chars = (toString n).toList := by
  show (if decide (n < 0) = true then ['-'] else []) ++ (Nat.toDigits 10 n.natAbs ++ ([] ++ []))
    = n.repr.toList
  rw [Int.repr_eq_if, List.append_nil, List.append_nil]
  by_cases hneg : n < 0
  · rw [if_pos (decide_eq_true hneg), if_neg (not_le.mpr hneg), Nat.repr_eq_ofList_toDigits,
      show (-n).toNat = n.natAbs by omega]
    simp only [String.toList_append, String.toList_ofList]
    rfl
  · rw [if_neg (by simpa using hneg), if_pos (not_lt.mp hneg), Nat.repr_eq_ofList_toDigits,
      String.toList_ofList, show n.toNat = n.natAbs by omega, List.nil_append]

theorem Numeral.datum_ofInt (n : ℤ) : (ofInt n).datum = .int n := by
  have hvalue : (if decide (n < 0) = true then -(numeral 10 (Nat.toDigits 10 n.natAbs) : ℤ)
      else numeral 10 (Nat.toDigits 10 n.natAbs)) = n := by
    rw [numeral_toDigits]
    by_cases hneg : n < 0
    · rw [if_pos (decide_eq_true hneg)]
      omega
    · rw [if_neg (by simpa using hneg)]
      omega
  exact congrArg Datum.int hvalue

/-! ## Floating-point numbers -/

/-- The parts write a decimal with a point or an exponent. -/
structure Numeral.Writes (n : Numeral) (q : ℚ) : Prop where
  whole : IsWhole n.whole
  fraction : Digits n.fraction
  marked : n.fraction ≠ [] ∨ n.exponent ≠ none
  value : (numeral 10 (n.whole ++ n.fraction) : ℚ)
    * 10 ^ (n.exponent.getD 0 - n.fraction.length) = q

theorem toList_pointed (ds : List Char) :
    (if ds.isEmpty then "" else "." ++ String.ofList ds).toList = pointed ds := by
  rw [pointed]
  split_ifs
  · rfl
  · simp only [String.toList_append, String.toList_ofList]
    rfl

/-! ### Layouts

The digits of a decimal stand before and after the point in one of three ways. Each is stated for the
digits `c :: r`, whose first one is not a zero: what comes before the point must not begin with a zero
either, unless it is nothing else.
-/

section Layouts

variable {c : Char} {r : List Char} {e : ℤ}

/-- All digits come after the point, behind `k` zeros. -/
theorem writes_belowOne (hds : Digits (c :: r)) (k : ℕ)
    (hplaces : e + ((c :: r).length : ℤ) + k = 0) :
    (⟨false, ['0'], List.replicate k '0' ++ c :: r, none⟩ : Numeral).Writes
      (numeral 10 (c :: r) * 10 ^ e) := by
  have hexponent : (0 : ℤ) - ((List.replicate k '0' ++ c :: r).length : ℤ) = e := by
    rw [List.length_append, List.length_replicate]
    omega
  have hzeros : numeral 10 (['0'] ++ (List.replicate k '0' ++ c :: r)) = numeral 10 (c :: r) := by
    rw [← List.append_assoc, numeral_append, ← List.replicate_one, ← List.replicate_add, numeral_zeros,
      zero_mul, zero_add]
  refine ⟨Or.inl rfl, (Digits.zeros k).append hds, Or.inl ?_, ?_⟩
  · exact List.append_ne_nil_of_right_ne_nil _ (List.cons_ne_nil c r)
  · simp only [Option.getD_none, hexponent, hzeros]

/-- All digits come before the point, in front of `k` zeros. -/
theorem writes_whole (hc : c ≠ '0') (hds : Digits (c :: r)) (k : ℕ) (hplaces : e = k) :
    (⟨false, c :: (r ++ List.replicate k '0'), ['0'], none⟩ : Numeral).Writes
      (numeral 10 (c :: r) * 10 ^ e) := by
  have hvalue : numeral 10 ((c :: (r ++ List.replicate k '0')) ++ ['0'])
      = numeral 10 (c :: r) * 10 ^ k * 10 := by
    rw [← List.cons_append, numeral_append, numeral_append, numeral_zeros, List.length_replicate]
    rfl
  refine ⟨Or.inr ⟨c, _, rfl, hc, hds.append (Digits.zeros k)⟩, Digits.zeros 1,
    Or.inl (List.cons_ne_nil _ _), ?_⟩
  simp only [Option.getD_none, hvalue, hplaces, List.length_singleton]
  push_cast
  rw [zpow_natCast, zpow_neg_one, mul_inv_cancel_right₀ (by norm_num)]

/-- The first digits come before the point, the others after it. -/
theorem writes_split (hc : c ≠ '0') (hds : Digits (c :: r)) (w : ℕ) (exponent : Option ℤ)
    (hmarked : r.drop w ≠ [] ∨ exponent ≠ none)
    (hplaces : exponent.getD 0 - ((r.drop w).length : ℤ) = e) :
    (⟨false, c :: r.take w, r.drop w, exponent⟩ : Numeral).Writes (numeral 10 (c :: r) * 10 ^ e) := by
  obtain ⟨hdigit, hr⟩ := List.forall_mem_cons.mp hds
  have htake : Digits (c :: r.take w) :=
    List.forall_mem_cons.mpr ⟨hdigit, fun a ha => hr a (List.mem_of_mem_take ha)⟩
  have hall : (c :: r.take w) ++ r.drop w = c :: r := congrArg (c :: ·) (List.take_append_drop w r)
  refine ⟨Or.inr ⟨c, _, rfl, hc, htake⟩, fun a ha => hr a (List.mem_of_mem_drop ha), hmarked, ?_⟩
  simp only [hplaces, hall]

end Layouts

/-- The parts that a positive decimal is written with. -/
theorem exists_numeral {d : Decimal} (hd : 0 < d.digits) :
    ∃ n : Numeral, n.negative = false ∧ n.chars = (NumberFormat.document.decimalText d).toList
      ∧ n.Writes (d.digits * 10 ^ d.exponent) := by
  obtain ⟨c, r, hcr, hc⟩ := exists_toDigits_eq_cons hd
  have hds := Digits.toDigits d.digits
  have hnumeral := numeral_toDigits d.digits
  rw [NumberFormat.decimalText]
  rw [hcr] at hds hnumeral ⊢
  rw [← hnumeral]
  have hlength : ((c :: r).length : ℤ) = r.length + 1 := by
    rw [List.length_cons]
    omega
  generalize hlead : d.exponent + ((c :: r).length : ℤ) - 1 = lead
  dsimp only
  -- the exponent of the leading digit decides which layout is used
  by_cases hplain : NumberFormat.document.leastPositional ≤ lead
      ∧ lead < NumberFormat.document.firstScientific
  · rw [if_pos hplain]
    by_cases hsmall : lead < 0
    · refine ⟨_, rfl, ?_, writes_belowOne hds (lead.natAbs - 1) (by omega)⟩
      rw [if_pos hsmall, Numeral.chars,
        pointed_of_ne_nil (List.append_ne_nil_of_right_ne_nil _ (List.cons_ne_nil c r))]
      simp only [String.toList_append, String.toList_ofList]
      exact congrArg (fun cs => '0' :: '.' :: cs) (List.append_nil _)
    · rw [if_neg hsmall, List.take_succ_cons, List.drop_succ_cons, List.length_cons,
        Nat.add_sub_add_right]
      by_cases hmore : r.length ≤ lead.toNat
      · refine ⟨_, rfl, ?_, writes_whole hc hds (lead.toNat - r.length) (by omega)⟩
        rw [List.drop_of_length_le hmore, List.take_of_length_le hmore, if_pos List.isEmpty_nil]
        simp only [String.toList_append, String.toList_ofList, Numeral.chars]
        rw [List.append_assoc]
        rfl
      · have hne : r.drop lead.toNat ≠ [] :=
          List.ne_nil_of_length_pos (by rw [List.length_drop]; omega)
        have hzeros : lead.toNat - r.length = 0 := by omega
        refine ⟨_, rfl, ?_, writes_split hc hds lead.toNat none (Or.inl hne) ?_⟩
        · rw [if_neg fun h => hne (List.isEmpty_iff.mp h), hzeros, List.replicate_zero, List.append_nil]
          simp only [String.toList_append, String.toList_ofList, Numeral.chars, pointed_of_ne_nil hne]
          rw [List.append_assoc]
          exact congrArg _ (congrArg _ (List.append_nil _))
        · rw [Option.getD_none, List.length_drop]
          omega
  · rw [if_neg hplain]
    refine ⟨_, rfl, ?_, writes_split hc hds 0 (some lead) (Or.inr (Option.some_ne_none _)) ?_⟩
    · rw [String.toList_append, String.toList_append, String.toList_ofList, toList_pointed,
        List.append_assoc]
      rfl
    · rw [Option.getD_some, List.drop_zero]
      omega

theorem Numeral.datum_of_marked {n : Numeral} (h : n.fraction ≠ [] ∨ n.exponent ≠ none) :
    n.datum = .float (floatOfDecimal n.negative (numeral 10 (n.whole ++ n.fraction))
      (n.exponent.getD 0 - n.fraction.length)) := by
  rw [datum, if_neg]
  rw [Bool.and_eq_true, List.isEmpty_iff, Option.isNone_iff_eq_none]
  exact fun hnone => h.elim (· hnone.1) (· hnone.2)

/-- A finite number is written as parts whose value it is. -/
theorem exists_numeral_text {x : Float} {b : Binary} (h : Binary.ofFloat? x = some b) :
    ∃ n : Numeral, n.chars = (NumberFormat.document.text x).toList ∧ IsWhole n.whole
      ∧ Digits n.fraction ∧ n.datum = .float x := by
  have hsign : ∀ body : String, (if b.negative then "-" ++ body else body).toList
      = (if b.negative then ['-'] else []) ++ body.toList := by
    intro body
    split
    · rw [String.toList_append]
      rfl
    · rfl
  rw [NumberFormat.text, h]
  dsimp only
  rw [hsign]
  rcases Nat.eq_zero_or_pos b.mantissa with hzero | hpos
  · refine ⟨⟨b.negative, ['0'], ['0'], none⟩, ?_, Or.inl rfl, Digits.zeros 1, ?_⟩
    · rw [if_pos (beq_iff_eq.mpr hzero)]
      rfl
    · rw [Numeral.datum_of_marked (Or.inl (List.cons_ne_nil _ _)), eq_zero_of_ofFloat? h hzero]
      rfl
  · obtain ⟨hrange, -⟩ := unpack_of_ofFloat? h hpos
    have hattracts := shortestDigits_attracts hrange
    have hdigits : 0 < (shortestDigits b).digits := by
      rw [Nat.pos_iff_ne_zero]
      intro hzero
      have := hattracts.pos hrange
      rw [hzero, Nat.cast_zero, zero_mul] at this
      exact lt_irrefl _ this
    obtain ⟨n, hpositive, hchars, hwhole, hfraction, hmarked, hvalue⟩ := exists_numeral hdigits
    refine ⟨{ n with negative := b.negative }, ?_, hwhole, hfraction, ?_⟩
    · rw [beq_eq_false_iff_ne.mpr hpos.ne', if_neg Bool.false_ne_true, ← hchars]
      simp only [Numeral.chars, hpositive]
      rfl
    · rw [Numeral.datum_of_marked (n := { n with negative := b.negative }) hmarked]
      refine congrArg Datum.float (floatOfDecimal_eq h hpos ?_)
      rw [hvalue]
      exact hattracts

end StatementTagging.Json
