import Mathlib.Data.List.TakeWhile
import StatementTagging.Number.Leading

set_option autoImplicit false

/-! # The longest number at the front of a text

The texts of numbers are put together from a sign, digits with a point and a power of ten. A
`DecimalNumeral` holds these parts with the proofs that they are what they should be, so that its text
is a number by construction and has a value (`floatOfText?_text`).

Scanning from the left takes the longest such text (`leadingNumber?_eq_some_iff`). It takes one
(`exists_text_of_leadingNumber?`), and goes at least as far as any other (`text_prefix_leadingNumber?`):
a part can only go on where the next one would begin with one of its characters, and no part does.
-/

namespace StatementTagging

open Text

/-! ## The grammar -/

/-- An optional sign. -/
def IsSign (s : List Char) : Prop := s = [] ∨ s = ['+'] ∨ s = ['-']

/-- Digits of any script. -/
def AreDigits (ds : List Char) : Prop := ∀ c ∈ ds, isDigit c = true

/-- Digits, and after a point further digits. There is a digit on one side of the point. -/
structure Mantissa where
  whole : List Char
  /-- What stands after the point, if there is one. -/
  fraction : Option (List Char)
  whole_digits : AreDigits whole
  fraction_digits : ∀ f ∈ fraction, AreDigits f
  someDigit : whole ≠ [] ∨ ∃ f ∈ fraction, f ≠ []

/-- A power of ten. -/
structure Scale where
  letter : Char
  sign : List Char
  digits : List Char
  letter_eq : letter = 'e' ∨ letter = 'E'
  isSign : IsSign sign
  areDigits : AreDigits digits
  someDigit : digits ≠ []

/-- The parts of a number in decimal digits. -/
structure DecimalNumeral where
  sign : List Char
  mantissa : Mantissa
  scale : Option Scale
  isSign : IsSign sign

/-- The text of a point and what stands after it. -/
def pointText : Option (List Char) → List Char
  | some f => '.' :: f
  | none => []

def Mantissa.text (m : Mantissa) : List Char := m.whole ++ pointText m.fraction

def Scale.text (e : Scale) : List Char := e.letter :: (e.sign ++ e.digits)

/-- The text of an optional power of ten. -/
def scaleText : Option Scale → List Char
  | some e => e.text
  | none => []

/-- The text of a number. -/
def DecimalNumeral.text (n : DecimalNumeral) : List Char :=
  n.sign ++ n.mantissa.text ++ scaleText n.scale

/-- The exponent of a power of ten. -/
def Scale.power (e : Scale) : Int :=
  if e.sign = ['-'] then -digitsValue e.digits else digitsValue e.digits

/-- The floating-point number nearest to the value of a number. -/
def DecimalNumeral.value (n : DecimalNumeral) : Float :=
  let fraction := n.mantissa.fraction.getD []
  let power := (n.scale.map Scale.power).getD 0
  floatOfDecimal (n.sign == ['-']) (digitsValue (n.mantissa.whole ++ fraction))
    (power - fraction.length)

/-- The text is a number. -/
def IsDecimal (w : List Char) : Prop := ∃ n : DecimalNumeral, n.text = w

/-- Of the numbers that a text begins with, this is the longest. -/
structure LongestDecimal (u w : List Char) : Prop where
  isPrefix : w <+: u
  isDecimal : IsDecimal w
  longest : ∀ v, v <+: u → IsDecimal v → v.length ≤ w.length

/-! ## Where parts end -/

/-- The text does not go on with a digit. -/
def NoDigitNext (cs : List Char) : Prop := ∀ c ∈ cs.head?, isDigit c = false

/-- The text does not go on with a sign. -/
def NoSignNext (cs : List Char) : Prop := ∀ c ∈ cs.head?, c ≠ '+' ∧ c ≠ '-'

theorem ne_of_isDigit {c d : Char} (hc : isDigit c = true) (hd : isDigit d = false) : c ≠ d := by
  rintro rfl
  rw [hc] at hd
  cases hd

theorem noSignNext_of_isDigit {c : Char} (hc : isDigit c = true) (r : List Char) :
    NoSignNext (c :: r) := by
  rintro d ⟨⟩
  exact ⟨ne_of_isDigit hc (by decide), ne_of_isDigit hc (by decide)⟩

theorem AreDigits.noSignNext {ds : List Char} (hds : AreDigits ds) (hne : ds ≠ []) (r : List Char) :
    NoSignNext (ds ++ r) := by
  cases ds with
  | nil => exact absurd rfl hne
  | cons c ds => exact noSignNext_of_isDigit (hds c List.mem_cons_self) (ds ++ r)

theorem Mantissa.noSignNext (m : Mantissa) (r : List Char) : NoSignNext (m.text ++ r) := by
  rw [Mantissa.text, List.append_assoc]
  by_cases hw : m.whole = []
  · obtain ⟨f, hf, -⟩ := m.someDigit.resolve_left (fun h => h hw)
    rw [hw, Option.mem_def.mp hf]
    rintro d ⟨⟩
    decide
  · exact m.whole_digits.noSignNext hw _

theorem Scale.noDigitNext (e : Scale) (r : List Char) : NoDigitNext (e.text ++ r) := by
  rintro d ⟨⟩
  rcases e.letter_eq with h | h <;> rw [h] <;> decide

theorem Scale.head?_ne_point (e : Scale) (r : List Char) : (e.text ++ r).head? ≠ some '.' := by
  show some e.letter ≠ some '.'
  rcases e.letter_eq with h | h <;> rw [h] <;> decide

theorem noDigitNext_dropWhile (cs : List Char) : NoDigitNext (cs.dropWhile isDigit) := by
  intro c hc
  have h := List.head?_dropWhile_not isDigit cs
  rw [Option.mem_def.mp hc] at h
  simpa using h

theorem areDigits_takeWhile (cs : List Char) : AreDigits (cs.takeWhile isDigit) := fun _ hc =>
  List.all_eq_true.mp List.all_takeWhile _ hc

theorem NoDigitNext.takeWhile_eq_nil {cs : List Char} (h : NoDigitNext cs) :
    cs.takeWhile isDigit = [] := by
  cases cs with
  | nil => rfl
  | cons c r => exact List.takeWhile_cons_of_neg (by rw [h c rfl]; exact Bool.false_ne_true)

theorem NoDigitNext.dropWhile_eq {cs : List Char} (h : NoDigitNext cs) :
    cs.dropWhile isDigit = cs := by
  cases cs with
  | nil => rfl
  | cons c r => exact List.dropWhile_cons_of_neg (by rw [h c rfl]; exact Bool.false_ne_true)

theorem takeWhile_digits {ds r : List Char} (hds : AreDigits ds) (hr : NoDigitNext r) :
    (ds ++ r).takeWhile isDigit = ds := by
  rw [List.takeWhile_append_of_pos hds, hr.takeWhile_eq_nil, List.append_nil]

theorem noDigitNext_point (r : List Char) : NoDigitNext ('.' :: r) := by
  rintro c ⟨⟩
  decide

/-! ## Signs and digits -/

theorem takeSign_append {s r : List Char} (hs : IsSign s) (hr : NoSignNext r) :
    takeSign (s ++ r) = (s, r) := by
  rcases hs with rfl | rfl | rfl
  · cases r with
    | nil => rfl
    | cons c r =>
        obtain ⟨hplus, hminus⟩ := hr c rfl
        rw [List.nil_append, takeSign]
        · rintro _ ⟨⟩
          exact hplus rfl
        · rintro _ ⟨⟩
          exact hminus rfl
  · rfl
  · rfl

theorem takeSign_spec (cs : List Char) :
    IsSign (takeSign cs).1 ∧ (takeSign cs).1 ++ (takeSign cs).2 = cs := by
  rw [takeSign.eq_def]
  split
  · exact ⟨Or.inr (Or.inl rfl), rfl⟩
  · exact ⟨Or.inr (Or.inr rfl), rfl⟩
  · exact ⟨Or.inl rfl, rfl⟩

theorem takeDigits_append {ds : List Char} (hds : AreDigits ds) (r : List Char) :
    takeDigits (ds ++ r) = (ds ++ r.takeWhile isDigit, r.dropWhile isDigit) := by
  rw [takeDigits, List.takeWhile_append_of_pos hds, List.dropWhile_append_of_pos hds]

/-! ## Digits around a point -/

/-- With a point behind the digits. -/
theorem takeMantissa_point {w : List Char} (hw : AreDigits w) (r : List Char) :
    takeMantissa (w ++ '.' :: r)
      = if w = [] ∧ r.takeWhile isDigit = [] then none
        else some (w ++ '.' :: r.takeWhile isDigit, r.dropWhile isDigit) := by
  have hpoint : NoDigitNext ('.' :: r) := noDigitNext_point r
  rw [takeMantissa, takeDigits_append hw, hpoint.takeWhile_eq_nil, hpoint.dropWhile_eq,
    List.append_nil]
  simp [takeDigits]

/-- With neither a point nor a further digit behind the digits. -/
theorem takeMantissa_plain {w r : List Char} (hw : AreDigits w) (hdigit : NoDigitNext r)
    (hpoint : r.head? ≠ some '.') :
    takeMantissa (w ++ r) = if w = [] then none else some (w, r) := by
  rw [takeMantissa, takeDigits_append hw, hdigit.takeWhile_eq_nil, hdigit.dropWhile_eq,
    List.append_nil]
  dsimp only
  split
  · exact absurd rfl hpoint
  · simp

theorem takeMantissa_cons_of_refused {c : Char} (hdigit : isDigit c = false) (hpoint : c ≠ '.')
    (r : List Char) : takeMantissa (c :: r) = none := by
  have hnext : NoDigitNext (c :: r) := by
    rintro d ⟨⟩
    exact hdigit
  have hnone : AreDigits [] := fun _ h => absurd h List.not_mem_nil
  have hhead : (c :: r).head? ≠ some '.' := fun h => hpoint (Option.some.inj h)
  exact (takeMantissa_plain hnone hnext hhead).trans (if_pos rfl)

/-- Behind the digits at the front stands a point, or neither a point nor a digit. -/
theorem behind_digits (cs : List Char) :
    ∃ w, AreDigits w ∧ ((∃ r, cs = w ++ '.' :: r)
      ∨ ∃ r, cs = w ++ r ∧ NoDigitNext r ∧ r.head? ≠ some '.') := by
  have hsplit : cs = cs.takeWhile isDigit ++ cs.dropWhile isDigit :=
    List.takeWhile_append_dropWhile.symm
  refine ⟨cs.takeWhile isDigit, areDigits_takeWhile cs, ?_⟩
  by_cases hpoint : (cs.dropWhile isDigit).head? = some '.'
  · obtain ⟨r, hr⟩ := List.head?_eq_some_iff.mp hpoint
    exact Or.inl ⟨r, by rw [← hr]; exact hsplit⟩
  · exact Or.inr ⟨_, hsplit, noDigitNext_dropWhile cs, hpoint⟩

theorem exists_mantissa {cs t r : List Char} (h : takeMantissa cs = some (t, r)) :
    ∃ m : Mantissa, m.text = t ∧ t ++ r = cs := by
  obtain ⟨w, hw, ⟨r', rfl⟩ | ⟨r', rfl, hdigit, hpoint⟩⟩ := behind_digits cs
  · rw [takeMantissa_point hw] at h
    split at h
    · cases h
    · next hne =>
        obtain ⟨rfl, rfl⟩ := Prod.mk.inj (Option.some.inj h)
        have hdigit : w ≠ [] ∨ ∃ f ∈ some (r'.takeWhile isDigit), f ≠ [] := by
          by_contra hnone
          rw [not_or, not_not] at hnone
          exact hne ⟨hnone.1, by_contra fun hf => hnone.2 ⟨_, rfl, hf⟩⟩
        refine ⟨⟨w, some (r'.takeWhile isDigit), hw, ?_, hdigit⟩, rfl, ?_⟩
        · rintro f ⟨⟩
          exact areDigits_takeWhile r'
        · rw [List.append_assoc, List.cons_append, List.takeWhile_append_dropWhile]
  · rw [takeMantissa_plain hw hdigit hpoint] at h
    split at h
    · cases h
    · next hne =>
        obtain ⟨rfl, rfl⟩ := Prod.mk.inj (Option.some.inj h)
        refine ⟨⟨w, none, hw, ?_, Or.inl hne⟩, List.append_nil _, rfl⟩
        rintro f ⟨⟩

/-- Digits with a point end before anything else. -/
theorem takeMantissa_text (m : Mantissa) {r : List Char} (hdigit : NoDigitNext r)
    (hpoint : r.head? ≠ some '.') : takeMantissa (m.text ++ r) = some (m.text, r) := by
  obtain ⟨w, fraction, hw, hf, hsome⟩ := m
  cases fraction with
  | none =>
      have hne : w ≠ [] := hsome.resolve_right (by simp)
      show takeMantissa (w ++ [] ++ r) = some (w ++ [], r)
      rw [List.append_nil, takeMantissa_plain hw hdigit hpoint, if_neg hne]
  | some f =>
      have htake : (f ++ r).takeWhile isDigit = f := takeWhile_digits (hf f rfl) hdigit
      have hdrop : (f ++ r).dropWhile isDigit = r := by
        rw [List.dropWhile_append_of_pos (hf f rfl), hdigit.dropWhile_eq]
      show takeMantissa ((w ++ '.' :: f) ++ r) = some (w ++ '.' :: f, r)
      rw [List.append_assoc, List.cons_append, takeMantissa_point hw, htake, hdrop, if_neg]
      rintro ⟨rfl, rfl⟩
      simp at hsome

/-- Whatever follows, at least the digits with their point are taken. -/
theorem text_prefix_takeMantissa (m : Mantissa) (r : List Char) :
    ∃ t r', takeMantissa (m.text ++ r) = some (t, r') ∧ m.text <+: t := by
  obtain ⟨w, fraction, hw, hf, hsome⟩ := m
  cases fraction with
  | none =>
      have hne : w ≠ [] := hsome.resolve_right (by simp)
      have hlong : ∀ s, w ++ s ≠ [] := fun s h => hne (List.append_eq_nil_iff.mp h).1
      show ∃ t r', takeMantissa (w ++ [] ++ r) = some (t, r') ∧ w ++ [] <+: t
      rw [List.append_nil]
      -- the digits go on as far as those behind them do
      obtain ⟨v, hv, hbehind⟩ := behind_digits r
      have hdigits : AreDigits (w ++ v) := List.forall_mem_append.mpr ⟨hw, hv⟩
      rcases hbehind with ⟨r', rfl⟩ | ⟨r', rfl, hdigit, hpoint⟩
      · rw [← List.append_assoc, takeMantissa_point hdigits, if_neg fun h => hlong v h.1,
          List.append_assoc]
        exact ⟨_, _, rfl, List.prefix_append w _⟩
      · rw [← List.append_assoc, takeMantissa_plain hdigits hdigit hpoint, if_neg (hlong v)]
        exact ⟨_, _, rfl, List.prefix_append w v⟩
  | some f =>
      have htake : (f ++ r).takeWhile isDigit = f ++ r.takeWhile isDigit :=
        List.takeWhile_append_of_pos (hf f rfl)
      show ∃ t r', takeMantissa ((w ++ '.' :: f) ++ r) = some (t, r') ∧ w ++ '.' :: f <+: t
      rw [List.append_assoc, List.cons_append, takeMantissa_point hw, htake, if_neg]
      · refine ⟨_, _, rfl, ⟨r.takeWhile isDigit, by simp⟩⟩
      · rintro ⟨rfl, hnone⟩
        obtain ⟨rfl, -⟩ := List.append_eq_nil_iff.mp hnone
        simp at hsome

/-! ## Powers of ten -/

/-- A power of ten goes on as far as its digits do. -/
theorem takeExponent_text (e : Scale) (r : List Char) :
    takeExponent (e.text ++ r)
      = (e.letter :: (e.sign ++ (e.digits ++ r.takeWhile isDigit)), r.dropWhile isDigit) := by
  have hsign : takeSign (e.sign ++ (e.digits ++ r)) = (e.sign, e.digits ++ r) :=
    takeSign_append e.isSign (e.areDigits.noSignNext e.someDigit r)
  show takeExponent (e.letter :: ((e.sign ++ e.digits) ++ r)) = _
  rw [List.append_assoc, takeExponent, if_pos e.letter_eq, hsign]
  dsimp only
  rw [takeDigits_append e.areDigits]
  have hne : (e.digits ++ r.takeWhile isDigit).isEmpty = false := by
    rw [List.isEmpty_eq_false_iff]
    exact fun h => e.someDigit (List.append_eq_nil_iff.mp h).1
  simp [hne]

/-- What is taken is nothing, or a power of ten. -/
theorem takeExponent_spec (cs : List Char) :
    (∃ e, (takeExponent cs).1 = scaleText e) ∧ (takeExponent cs).1 ++ (takeExponent cs).2 = cs := by
  cases cs with
  | nil => exact ⟨⟨none, rfl⟩, rfl⟩
  | cons c r =>
      rw [takeExponent]
      split
      · next hletter =>
          obtain ⟨hsign, hsplit⟩ := takeSign_spec r
          dsimp only [takeDigits]
          split
          · exact ⟨⟨none, rfl⟩, rfl⟩
          · next hdigits =>
              rw [List.isEmpty_iff] at hdigits
              refine ⟨⟨some ⟨c, (takeSign r).1, _, hletter, hsign, areDigits_takeWhile _, hdigits⟩,
                rfl⟩, ?_⟩
              show c :: (((takeSign r).1 ++ (takeSign r).2.takeWhile isDigit)
                ++ (takeSign r).2.dropWhile isDigit) = _
              rw [List.append_assoc, List.takeWhile_append_dropWhile, hsplit]
      · exact ⟨⟨none, rfl⟩, rfl⟩

theorem noDigitNext_scaleText (e : Option Scale) : NoDigitNext (scaleText e) := by
  cases e with
  | none => rintro c ⟨⟩
  | some e =>
      have h := e.noDigitNext []
      rwa [List.append_nil] at h

theorem head?_scaleText_ne_point (e : Option Scale) : (scaleText e).head? ≠ some '.' := by
  cases e with
  | none => rintro ⟨⟩
  | some e =>
      have h := e.head?_ne_point []
      rwa [List.append_nil] at h

/-! ## The longest number -/

theorem leadingNumber?_eq (cs : List Char) :
    leadingNumber? cs = (takeMantissa (takeSign cs).2).map fun taken =>
      (takeSign cs).1 ++ taken.1 ++ (takeExponent taken.2).1 := rfl

/-- What is taken is a number. -/
theorem isDecimal_of_leadingNumber? {u w : List Char} (h : leadingNumber? u = some w) :
    w <+: u ∧ IsDecimal w := by
  obtain ⟨hsign, hu⟩ := takeSign_spec u
  rw [leadingNumber?_eq] at h
  obtain ⟨⟨t, r⟩, hmantissa, rfl⟩ := Option.map_eq_some_iff.mp h
  obtain ⟨m, rfl, hr⟩ := exists_mantissa hmantissa
  obtain ⟨⟨e, he⟩, hrest⟩ := takeExponent_spec r
  constructor
  · refine ⟨(takeExponent r).2, ?_⟩
    calc (takeSign u).1 ++ m.text ++ (takeExponent r).1 ++ (takeExponent r).2
        = (takeSign u).1 ++ (m.text ++ ((takeExponent r).1 ++ (takeExponent r).2)) := by
          simp only [List.append_assoc]
      _ = (takeSign u).1 ++ (takeSign u).2 := by rw [hrest, hr]
      _ = u := hu
  · refine ⟨⟨(takeSign u).1, m, e, hsign⟩, ?_⟩
    rw [DecimalNumeral.text, he]

/-- **No number at the front is longer** than what is taken. -/
theorem text_prefix_leadingNumber? (n : DecimalNumeral) (r : List Char) :
    ∃ w, leadingNumber? (n.text ++ r) = some w ∧ n.text <+: w := by
  obtain ⟨s, m, scale, hs⟩ := n
  have hsign : ∀ r', takeSign (s ++ (m.text ++ r')) = (s, m.text ++ r') := fun r' =>
    takeSign_append hs (m.noSignNext r')
  have hassoc : s ++ m.text ++ scaleText scale ++ r = s ++ (m.text ++ (scaleText scale ++ r)) := by
    simp only [List.append_assoc]
  show ∃ w, leadingNumber? (s ++ m.text ++ scaleText scale ++ r) = some w
    ∧ s ++ m.text ++ scaleText scale <+: w
  rw [hassoc, leadingNumber?_eq, hsign]
  cases scale with
  | none =>
      obtain ⟨t, r', ht, hpre⟩ := text_prefix_takeMantissa m r
      refine ⟨s ++ t ++ (takeExponent r').1, ?_, ?_⟩
      · dsimp only [scaleText]
        rw [List.nil_append, ht]
        rfl
      · rw [scaleText, List.append_nil, List.append_assoc]
        exact (List.prefix_append_right_inj s).mpr (hpre.trans (List.prefix_append t _))
  | some e =>
      -- the letter ends the digits, so they are taken exactly
      refine ⟨s ++ m.text ++ (takeExponent (e.text ++ r)).1, ?_, ?_⟩
      · dsimp only [scaleText]
        rw [takeMantissa_text m (e.noDigitNext r) (e.head?_ne_point r)]
        rfl
      · rw [takeExponent_text, scaleText]
        refine (List.prefix_append_right_inj _).mpr ⟨r.takeWhile isDigit, ?_⟩
        rw [Scale.text, List.cons_append, List.append_assoc]

/-- **The number at the front is the longest one.** -/
theorem leadingNumber?_eq_some_iff (u w : List Char) :
    leadingNumber? u = some w ↔ LongestDecimal u w := by
  have hreach : ∀ v, v <+: u → IsDecimal v → ∃ w, leadingNumber? u = some w ∧ v <+: w := by
    rintro v ⟨r, rfl⟩ ⟨n, rfl⟩
    exact text_prefix_leadingNumber? n r
  constructor
  · intro h
    obtain ⟨hpre, hdecimal⟩ := isDecimal_of_leadingNumber? h
    refine ⟨hpre, hdecimal, fun v hv hvd => ?_⟩
    obtain ⟨w', hw', hle⟩ := hreach v hv hvd
    rw [h] at hw'
    obtain rfl := Option.some.inj hw'
    exact hle.length_le
  · -- what is taken is a number too, so it is no longer than the longest one
    rintro ⟨hpre, hdecimal, hlongest⟩
    obtain ⟨w', hw', hle⟩ := hreach w hpre hdecimal
    obtain ⟨hpre', hdecimal'⟩ := isDecimal_of_leadingNumber? hw'
    rw [hw', hle.eq_of_length_le (hlongest w' hpre' hdecimal')]

/-- A second point ends a number, and so does a power of ten without digits. -/
example : leadingNumber? "1..5".toList = some "1.".toList ∧ leadingNumber? "-.5e+".toList = some "-.5".toList := by
  decide +kernel

/-- Nothing is taken exactly if the text begins with no number. -/
theorem leadingNumber?_eq_none_iff (u : List Char) :
    leadingNumber? u = none ↔ ∀ w, w <+: u → ¬ IsDecimal w := by
  constructor
  · rintro h w ⟨r, rfl⟩ ⟨n, rfl⟩
    obtain ⟨w, hw, -⟩ := text_prefix_leadingNumber? n r
    rw [h] at hw
    cases hw
  · intro h
    by_contra hne
    obtain ⟨w, hw⟩ := Option.ne_none_iff_exists'.mp hne
    obtain ⟨hpre, hdecimal⟩ := isDecimal_of_leadingNumber? hw
    exact h w hpre hdecimal

/-! ## The value -/

/-- The first point divides the digits. -/
theorem Mantissa.split_text (m : Mantissa) :
    m.text.takeWhile (· != '.') = m.whole
      ∧ (m.text.dropWhile (· != '.')).tail = m.fraction.getD [] := by
  have hne : ∀ c ∈ m.whole, (c != '.') = true := by
    intro c hc
    exact bne_iff_ne.mpr (ne_of_isDigit (m.whole_digits c hc) (by decide))
  rw [Mantissa.text, List.takeWhile_append_of_pos hne, List.dropWhile_append_of_pos hne]
  cases m.fraction with
  | none => exact ⟨List.append_nil _, rfl⟩
  | some f => exact ⟨List.append_nil _, rfl⟩

theorem takeExponent_scaleText (e : Option Scale) :
    takeExponent (scaleText e) = (scaleText e, []) := by
  cases e with
  | none => rfl
  | some e =>
      have h := takeExponent_text e []
      simpa [scaleText, Scale.text] using h

/-- The sign and the digits of a power of ten behind its letter. -/
theorem takeSign_tail_scaleText (e : Scale) :
    takeSign (scaleText (some e)).tail = (e.sign, e.digits) := by
  have h := e.areDigits.noSignNext e.someDigit []
  rw [List.append_nil] at h
  exact takeSign_append e.isSign h

theorem power_scaleText (e : Option Scale) :
    (if (takeSign (scaleText e).tail).1 == ['-'] then -(digitsValue (takeSign (scaleText e).tail).2 : Int)
      else digitsValue (takeSign (scaleText e).tail).2) = (e.map Scale.power).getD 0 := by
  cases e with
  | none => rfl
  | some e =>
      rw [takeSign_tail_scaleText]
      simp only [Option.map_some, Option.getD_some, Scale.power, beq_iff_eq]

/-- **The text of a number is read** to its value. -/
theorem floatOfText?_text (n : DecimalNumeral) : floatOfText? n.text = some n.value := by
  obtain ⟨s, m, scale, hs⟩ := n
  have hsign : takeSign (s ++ (m.text ++ scaleText scale)) = (s, m.text ++ scaleText scale) :=
    takeSign_append hs (m.noSignNext _)
  have hmantissa : takeMantissa (m.text ++ scaleText scale) = some (m.text, scaleText scale) :=
    takeMantissa_text m (noDigitNext_scaleText scale) (head?_scaleText_ne_point scale)
  obtain ⟨hwhole, hfraction⟩ := m.split_text
  rw [DecimalNumeral.text, List.append_assoc]
  simp only [floatOfText?, hsign, hmantissa, takeExponent_scaleText, power_scaleText, hwhole,
    hfraction, List.isEmpty_nil, Bool.not_true, Bool.false_eq_true, if_false]
  rfl

end StatementTagging
