import StatementTagging.Criterion
import StatementTagging.Proofs.Number.Leading
import StatementTagging.Proofs.Pattern.Capturing
import StatementTagging.Proofs.Pattern.Scanning
import StatementTagging.Proofs.Text.Classes

set_option autoImplicit false

/-! # The number at the front of a text, as a pattern

The number that a value begins with is the first group of a pattern, tried at the front of the text
only. Its parts scan (`Scans`): none of them accepts a character that the one before it would have to
give back. So the pattern, with all its alternatives and optional parts, takes what the scanner of
numbers takes (`scans_number`), and that is the longest number (`text_number_is_longest`).
-/

namespace StatementTagging

open Text Pattern

/-! ## The pattern -/

/-- The pattern of a number after blanks. -/
def leadingNumberPattern : String := "\\s*([+-]?(?:\\d+\\.?\\d*|\\.\\d+)(?:[eE][+-]?\\d+)?)"

namespace NumberNode

def digit : Node := .oneOf false [.kind .digit false false] .exact

def blank : Node := .oneOf false [.kind .space false false] .exact

def sign : Node := .oneOf false [.single '+'.toNat, .single '-'.toNat] .exact

def letter : Node := .oneOf false [.single 'e'.toNat, .single 'E'.toNat] .exact

def point : Node := .char '.' .exact

/-- Digits, and after a point further digits. -/
def mantissa : Node :=
  .alt
    (.sequence
      [.rounds 1 none .greedy digit, .rounds 0 (some 1) .greedy point, .rounds 0 none .greedy digit])
    (.sequence [point, .rounds 1 none .greedy digit])

/-- A power of ten. -/
def scale : Node :=
  .sequence [letter, .rounds 0 (some 1) .greedy sign, .rounds 1 none .greedy digit]

/-- A number. -/
def number : Node :=
  .sequence [.rounds 0 (some 1) .greedy sign, mantissa, .rounds 0 (some 1) .greedy scale]

/-- The whole pattern. -/
def root : Node := .sequence [.rounds 0 none .greedy blank, .capture 1 number]

end NumberNode

deriving instance DecidableEq for CharKind, ClassItem, CaseRule, Anchor, Greed, Width, Node

deriving instance DecidableEq for StatementTagging.Pattern

theorem read_leadingNumberPattern : Pattern.read leadingNumberPattern.toList = .ok ⟨NumberNode.root, 1⟩ := by
  -- faults cannot be compared, so the reading is compared without them
  have h : (Pattern.read leadingNumberPattern.toList).toOption = some ⟨NumberNode.root, 1⟩ := by
    decide +kernel
  cases hread : Pattern.read leadingNumberPattern.toList with
  | error e => rw [hread] at h; cases h
  | ok p =>
      rw [hread] at h
      rw [Option.some.inj h]

/-! ## Classes of characters -/

/-- A sign. -/
def isSignChar (c : Char) : Bool := c == '+' || c == '-'

/-- The letter of a power of ten. -/
def isScaleLetter (c : Char) : Bool := c == 'e' || c == 'E'

theorem contains_single (x c : Char) : (ClassItem.single x.toNat).contains c = (c == x) := by
  rw [Bool.eq_iff_iff, beq_iff_eq]
  show (decide (x.toNat ≤ c.toNat) && decide (c.toNat ≤ x.toNat)) = true ↔ _
  rw [Bool.and_eq_true, decide_eq_true_eq, decide_eq_true_eq]
  constructor
  · rintro ⟨hle, hge⟩
    exact Char.toNat_inj.mp (Nat.le_antisymm hge hle)
  · rintro rfl
    exact ⟨Nat.le_refl _, Nat.le_refl _⟩

/-- A class as it stands accepts what one of its members does. -/
theorem takes_class {items : List ClassItem} {accepts : Char → Bool}
    (h : ∀ c, items.any (·.contains c) = accepts c) :
    Takes (.oneOf false items .exact) (oneChar accepts) := by
  have hcase : items.any CaseRule.exact.hasCase = false := by
    rw [List.any_eq_false]
    intro item _
    cases item with
    | range low high => exact Bool.false_ne_true
    | kind k ascii negated => exact Bool.false_ne_true
  have hclass : (fun c => CaseRule.exact.classAccepts items c != false) = accepts := by
    funext c
    rw [CaseRule.classAccepts, hcase, if_neg Bool.false_ne_true, h]
    exact Bool.xor_false _
  rw [← hclass]
  exact Takes.oneOf items .exact

namespace NumberNode

theorem takes_digit : Takes digit (oneChar isDigit) :=
  takes_class fun c => by simp [ClassItem.contains, CharKind.holds]

theorem takes_blank : Takes blank (oneChar isBlank) :=
  takes_class fun c => by simp [ClassItem.contains, CharKind.holds]

theorem takes_sign : Takes sign (oneChar isSignChar) :=
  takes_class fun c => by simp only [List.any_cons, List.any_nil, contains_single, Bool.or_false]; rfl

theorem takes_letter : Takes letter (oneChar isScaleLetter) :=
  takes_class fun c => by simp only [List.any_cons, List.any_nil, contains_single, Bool.or_false]; rfl

theorem takes_point : Takes point (oneChar ('.' == ·)) := Takes.char '.'

end NumberNode

/-! ## Scanning a number -/

theorem oneChar_sign (cs : List Char) : (oneChar isSignChar cs).getD [] = (takeSign cs).1 := by
  rw [takeSign.eq_def]
  split
  · rfl
  · rfl
  · next hplus hminus =>
      cases cs with
      | nil => rfl
      | cons c r =>
          have hc : isSignChar c = false := by
            rw [isSignChar, Bool.or_eq_false_iff, beq_eq_false_iff_ne, beq_eq_false_iff_ne]
            exact ⟨fun h => hplus r (by rw [h]), fun h => hminus r (by rw [h])⟩
          rw [oneChar, hc]
          rfl

/-- The text after an optional sign. -/
theorem drop_takeSign (cs : List Char) : cs.drop (takeSign cs).1.length = (takeSign cs).2 := by
  obtain ⟨-, hsplit⟩ := takeSign_spec cs
  calc cs.drop (takeSign cs).1.length
      = ((takeSign cs).1 ++ (takeSign cs).2).drop (takeSign cs).1.length := by rw [hsplit]
    _ = (takeSign cs).2 := List.drop_left

/-- A text that goes on with a sign has neither digits nor a point at its front. -/
theorem refused_of_sign {cs : List Char} (h : (oneChar isSignChar cs).isSome) :
    someChars isDigit cs = none ∧ takeMantissa cs = none := by
  cases cs with
  | nil => cases h
  | cons c r =>
      have hc : isSignChar c = true := by
        by_contra hc
        rw [oneChar, if_neg hc] at h
        cases h
      rw [isSignChar, Bool.or_eq_true, beq_iff_eq, beq_iff_eq] at hc
      have hdigit : isDigit c = false := by rcases hc with rfl | rfl <;> decide
      have hpoint : c ≠ '.' := by rcases hc with rfl | rfl <;> decide
      refine ⟨?_, takeMantissa_cons_of_refused hdigit hpoint r⟩
      rw [someChars, List.takeWhile_cons_of_neg (by rw [hdigit]; exact Bool.false_ne_true), if_pos rfl]

namespace NumberNode

theorem scans_digits : Scans (.seq (.rounds 1 none .greedy digit) .empty) (someChars isDigit) :=
  (Scans.plus takes_digit).last

/-- The power of ten is taken if it is complete, and otherwise not at all. -/
theorem scans_scale : Scans (.rounds 0 (some 1) .greedy scale) fun cs => some (takeExponent cs).1 := by
  have hsigned := takes_sign.optional_seq scans_digits fun cs h => (refused_of_sign h).1
  have hscale := (takes_letter.seq hsigned).optional
  refine hscale.congr fun cs => ?_
  simp only [oneChar_sign, drop_takeSign]
  cases cs with
  | nil => rfl
  | cons c r =>
      rw [takeExponent]
      by_cases hc : c = 'e' ∨ c = 'E'
      · have hletter : isScaleLetter c = true := by
          rw [isScaleLetter, Bool.or_eq_true, beq_iff_eq, beq_iff_eq]
          exact hc
        rw [if_pos hc, oneChar, if_pos hletter]
        dsimp only [takeDigits, Option.bind_some, List.length_singleton, List.drop_succ_cons, List.drop_zero]
        rw [someChars]
        by_cases hd : (takeSign r).2.takeWhile isDigit = []
        · simp [hd]
        · simp [hd]
      · have hletter : ¬ isScaleLetter c = true := by
          rw [isScaleLetter, Bool.or_eq_true, beq_iff_eq, beq_iff_eq]
          exact hc
        rw [if_neg hc, oneChar, if_neg hletter]
        rfl

/-- Of the two alternatives, the first takes digits that a point may follow. -/
theorem scans_whole : Scans (.sequence
    [.rounds 1 none .greedy digit, .rounds 0 (some 1) .greedy point, .rounds 0 none .greedy digit])
    fun cs => (someChars isDigit cs).map fun w =>
      w ++ ((oneChar ('.' == ·) (cs.drop w.length)).getD []
        ++ ((cs.drop w.length).drop ((oneChar ('.' == ·) (cs.drop w.length)).getD []).length).takeWhile
            isDigit) := by
  have hfraction := takes_point.scans.optional.seq (Scans.star takes_digit).last
  exact (Scans.plus takes_digit).seq hfraction

/-- The second takes a point that digits follow. -/
theorem scans_pointed : Scans (.sequence [point, .rounds 1 none .greedy digit])
    fun cs => (oneChar ('.' == ·) cs).bind fun a => (someChars isDigit (cs.drop a.length)).map (a ++ ·) :=
  takes_point.seq scans_digits

theorem scans_mantissa : Scans mantissa fun cs => (takeMantissa cs).map (·.1) := by
  refine (scans_whole.alt scans_pointed).congr fun cs => ?_
  obtain ⟨w, hw, ⟨r, rfl⟩ | ⟨r, rfl, hdigit, hpoint⟩⟩ := behind_digits cs
  · -- only without digits in front of the point is the second alternative reached
    have htake : (w ++ '.' :: r).takeWhile isDigit = w := takeWhile_digits hw (noDigitNext_point r)
    rw [takeMantissa_point hw, someChars, htake]
    by_cases hne : w = []
    · subst hne
      rw [if_pos rfl, Option.map_none, Option.none_or]
      show (someChars isDigit r).map (['.'] ++ ·) = _
      by_cases hd : r.takeWhile isDigit = []
      · rw [someChars, if_pos hd, if_pos ⟨rfl, hd⟩]
        rfl
      · rw [someChars, if_neg hd, if_neg fun h => hd h.2]
        rfl
    · simp [oneChar, hne]
  · have htake : (w ++ r).takeWhile isDigit = w := takeWhile_digits hw hdigit
    have hnone : oneChar ('.' == ·) r = none := by
      cases r with
      | nil => rfl
      | cons c r =>
          have hc : ('.' == c) = false := by
            rw [beq_eq_false_iff_ne]
            rintro rfl
            exact hpoint rfl
          rw [oneChar, hc, if_neg Bool.false_ne_true]
    rw [takeMantissa_plain hw hdigit hpoint, someChars, htake]
    by_cases hne : w = []
    · subst hne
      simp [hnone]
    · simp [hne, hnone, hdigit.takeWhile_eq_nil]

/-- **The pattern of a number takes the number at the front.** -/
theorem scans_number : Scans number leadingNumber? := by
  have hrest := scans_mantissa.seq scans_scale.last
  have hnumber := takes_sign.optional_seq hrest fun cs h => by
    rw [(refused_of_sign h).2]
    rfl
  refine hnumber.congr fun cs => ?_
  simp only [oneChar_sign, drop_takeSign]
  rw [leadingNumber?_eq]
  cases hm : takeMantissa (takeSign cs).2 with
  | none => rfl
  | some taken =>
      obtain ⟨m, hm', hsplit⟩ := exists_mantissa (t := taken.1) (r := taken.2) hm
      simp only [Option.map_some, List.append_assoc]
      rw [← hsplit, List.drop_left]

end NumberNode

/-! ## The capture at the front -/

/-- What the first group of a pattern captures in a match at the front of a text. -/
def Pattern.frontGroup? (p : StatementTagging.Pattern) (text : List Char) : Option (List Char) :=
  (p.root.run some (placeBetween p.groups [] text)).bind (·.captured? 1)

/-- No number begins with a blank. -/
theorem leadingNumber?_of_isBlank {c : Char} (hc : isBlank c = true) (r : List Char) :
    leadingNumber? (c :: r) = none := by
  have hne : ∀ d, isBlank d = false → c ≠ d := by
    rintro d hd rfl
    rw [hc] at hd
    cases hd
  have hsign : takeSign (c :: r) = ([], c :: r) := by
    refine takeSign_append (Or.inl rfl) ?_
    rintro d ⟨⟩
    exact ⟨hne '+' (by decide), hne '-' (by decide)⟩
  rw [leadingNumber?_eq, hsign,
    takeMantissa_cons_of_refused (isDigit_of_isBlank hc) (hne '.' (by decide)) r]
  rfl

/-- **The pattern captures the number behind the blanks.** -/
theorem frontGroup?_number (s : List Char) :
    Pattern.frontGroup? ⟨NumberNode.root, 1⟩ s = leadingNumber? (s.dropWhile isBlank) := by
  have hafter : ∀ q : Pattern.Place, (Node.sequence [.capture 1 NumberNode.number]).run some q
      = (leadingNumber? q.rest).bind fun w => some (((q.enter 1).past w).leave 1) := fun q =>
    NumberNode.scans_number (fun q' => some (q'.leave 1)) (q.enter 1) fun _ => rfl
  have hrun : NumberNode.root.run some (placeBetween 1 [] s)
      = (Node.sequence [.capture 1 NumberNode.number]).run some
          ((placeBetween 1 [] s).past (s.takeWhile isBlank)) := by
    refine run_star_of_refused NumberNode.takes_blank ?_
    -- a number would have to begin with a blank that the star has given back
    intro a c r hsplit hc
    show (Node.sequence [.capture 1 NumberNode.number]).run some _ = none
    rw [hafter, rest_past, hsplit, List.drop_left, leadingNumber?_of_isBlank hc]
    rfl
  have hplace : (placeBetween 1 [] s).past (s.takeWhile isBlank)
      = placeWith (freshMarks 1) (s.takeWhile isBlank) (s.dropWhile isBlank) := by
    have h := past_placeWith (freshMarks 1) [] (s.takeWhile isBlank) (s.dropWhile isBlank)
    rw [List.takeWhile_append_dropWhile] at h
    exact h
  have hrest : (placeWith (freshMarks 1) (s.takeWhile isBlank) (s.dropWhile isBlank)).rest
      = s.dropWhile isBlank := rfl
  show (NumberNode.root.run some (placeBetween 1 [] s)).bind (·.captured? 1) = _
  rw [hrun, hplace, hafter, hrest]
  cases hnumber : leadingNumber? (s.dropWhile isBlank) with
  | none => rfl
  | some w =>
      obtain ⟨⟨b, hb⟩, -⟩ := isDecimal_of_leadingNumber? hnumber
      rw [← hb, Option.bind_some, Option.bind_some]
      show (((placeWith [⟨some (s.takeWhile isBlank).length, none⟩] (s.takeWhile isBlank) (w ++ b)).past
        w).leave 1).captured? 1 = some w
      rw [past_placeWith]
      exact captured?_placeWith (s.takeWhile isBlank) w b _ _ rfl

/-! ## Values -/

/-- **The number of a text** is the longest one at its front, after blanks. If the text begins with no
number there, it has none. Otherwise it has the value of the longest one; this text can be read as a
number, and it is what the pattern captures. -/
theorem text_number_is_longest (s : String) :
    ((Datum.text s).number? = .ok none ↔
      ∀ w, w <+: s.toList.dropWhile isBlank → ¬ IsDecimal w)
    ∧ ((Datum.text s).number? = .ok none
      ∨ ∃ n : DecimalNumeral, LongestDecimal (s.toList.dropWhile isBlank) n.text
          ∧ floatOfText? n.text = some n.value ∧ (Datum.text s).number? = .ok (some n.value))
    ∧ ∃ p, Pattern.read leadingNumberPattern.toList = .ok p
      ∧ ∀ w, Pattern.frontGroup? p s.toList = some w
          ↔ LongestDecimal (s.toList.dropWhile isBlank) w := by
  have hnumber : (Datum.text s).number?
      = .ok ((leadingNumber? (s.toList.dropWhile isBlank)).bind floatOfText?) := rfl
  refine ⟨?_, ?_, _, read_leadingNumberPattern, fun w => ?_⟩
  · rw [hnumber, ← leadingNumber?_eq_none_iff]
    cases hlead : leadingNumber? (s.toList.dropWhile isBlank) with
    | none => exact iff_of_true rfl rfl
    | some w =>
        obtain ⟨-, n, rfl⟩ := isDecimal_of_leadingNumber? hlead
        rw [Option.bind_some, floatOfText?_text]
        exact iff_of_false (by rintro ⟨⟩) (by rintro ⟨⟩)
  · rw [hnumber]
    cases hlead : leadingNumber? (s.toList.dropWhile isBlank) with
    | none => exact Or.inl rfl
    | some w =>
        obtain ⟨-, n, rfl⟩ := isDecimal_of_leadingNumber? hlead
        refine Or.inr ⟨n, (leadingNumber?_eq_some_iff _ _).mp hlead, floatOfText?_text n, ?_⟩
        rw [Option.bind_some, floatOfText?_text]
  · rw [frontGroup?_number, leadingNumber?_eq_some_iff]

end StatementTagging
