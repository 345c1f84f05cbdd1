import Mathlib.Data.List.Induction
import StatementTagging.Field
import StatementTagging.Proofs.Text.Classes

set_option autoImplicit false

/-! # Readable names in one pass

A name is made readable by four passes over it, each of which looks for two parts and goes on behind
both. One pass that looks at all neighbours does the same (`humanize_spaces`). This takes two steps. No
pass misses a place: what it goes past holds no other place to put a space (`Places`). And no pass makes
or destroys a place for a later one: a space is not next to a place, and a later pass that looks ahead
looks for a small letter behind a capital, where no space is put (`Undisturbed`). The second step also
shows that a readable name stays as it is.
-/

namespace StatementTagging

/-! ## Marked places -/

/-- Two neighbours with a space to go between them, told by the two and the character behind them. -/
abbrev Mark := Char → Char → Option Char → Bool

/-- Places of one kind or the other. -/
def Mark.or (mark mark' : Mark) : Mark := fun c d e => mark c d e || mark' c d e

/-- Puts a space at every marked place. -/
def spaceMarked (mark : Mark) : List Char → List Char
  | [] => []
  | [c] => [c]
  | c :: d :: r =>
    if mark c d r.head? then c :: ' ' :: spaceMarked mark (d :: r) else c :: spaceMarked mark (d :: r)

theorem spaceMarked_cons_cons (mark : Mark) (c d : Char) (r : List Char) :
    spaceMarked mark (c :: d :: r) = if mark c d r.head? then c :: ' ' :: spaceMarked mark (d :: r)
      else c :: spaceMarked mark (d :: r) := rfl

/-- A character that is on no marked place is passed over. -/
theorem spaceMarked_cons {mark : Mark} {c : Char} (h : ∀ d e, mark c d e = false) (r : List Char) :
    spaceMarked mark (c :: r) = c :: spaceMarked mark r := by
  cases r with
  | nil => rfl
  | cons d r => rw [spaceMarked_cons_cons, h, if_neg Bool.false_ne_true]

/-- The first character stays, and behind it there is the next one or a space. -/
theorem exists_spaceMarked_cons (mark : Mark) (c : Char) (r : List Char) :
    ∃ u, spaceMarked mark (c :: r) = c :: u ∧ (u.head? = r.head?
      ∨ ∃ d s, r = d :: s ∧ mark c d s.head? = true ∧ u.head? = some ' ') := by
  induction r generalizing c with
  | nil => exact ⟨[], rfl, Or.inl rfl⟩
  | cons d r ih =>
      obtain ⟨u, hu, -⟩ := ih d
      by_cases hmark : mark c d r.head? = true
      · refine ⟨' ' :: spaceMarked mark (d :: r), ?_, Or.inr ⟨d, r, rfl, hmark, rfl⟩⟩
        rw [spaceMarked_cons_cons, if_pos hmark]
      · refine ⟨spaceMarked mark (d :: r), ?_, Or.inl ?_⟩
        · rw [spaceMarked_cons_cons, if_neg hmark]
        · rw [hu, List.head?_cons, List.head?_cons]

/-! ## No place is missed -/

/-- A reader of two parts finds the marked places: where it reads, the space between the two parts is
the only one to put up to the rest of the text, and where it does not, none is to be put. -/
structure Places (parts? : List Char → Option (List Char × List Char)) (mark : Mark) : Prop where
  found : ∀ {s lead next}, parts? s = some (lead, next) → lead ≠ [] ∧
    ∃ r, s = lead ++ next ++ r ∧ spaceMarked mark s = lead ++ ' ' :: next ++ spaceMarked mark r
  missed : ∀ {c d r}, parts? (c :: d :: r) = none → mark c d r.head? = false

/-- **A pass finds all the places** that its reader finds one by one. -/
theorem spaceParts_eq {parts? : List Char → Option (List Char × List Char)} {mark : Mark}
    (h : Places parts? mark) (done : Nat) (s : List Char) :
    spaceParts parts? done s = spaceMarked mark (s.drop done) := by
  fun_induction spaceParts parts? done s with
  | case1 => rw [List.drop_nil]; rfl
  | case2 c r k ih => rw [ih, List.drop_succ_cons]
  | case3 c r lead next hfound ih =>
      obtain ⟨hlead, rest, hsplit, hspaced⟩ := h.found hfound
      obtain ⟨first, lead, rfl⟩ := List.exists_cons_of_ne_nil hlead
      rw [List.cons_append, List.cons_append] at hsplit
      obtain ⟨-, hr⟩ := List.cons.inj hsplit
      have hrest : r.drop ((first :: lead).length + next.length - 1) = rest := by
        rw [hr]
        refine List.drop_left' ?_
        rw [List.length_append, List.length_cons]
        omega
      rw [ih, hrest, List.drop_zero, hspaced]
  | case4 c r hnone ih =>
      rw [ih, List.drop_zero, List.drop_zero]
      cases r with
      | nil => rfl
      | cons d r => rw [spaceMarked_cons_cons, h.missed hnone, if_neg Bool.false_ne_true]

/-! ## The four kinds of places -/

/-- A word in capitals begins behind a small letter. -/
def capitalStarts : Mark := fun c d _ => isLowerLetter c && isUpperLetter d

/-- The last of several capitals begins a word. -/
def lastCapitalStarts : Mark := fun c d e => isUpperLetter c && isUpperLetter d && e.any isLowerLetter

/-- A number begins behind a letter. -/
def numberStarts : Mark := fun c d _ => isNameLetter c && Text.isDigit d

/-- A letter follows a number. -/
def numberEnds : Mark := fun c d _ => Text.isDigit c && isNameLetter d

theorem isLowerLetter_iff (c : Char) : isLowerLetter c = true ↔ 97 ≤ c.toNat ∧ c.toNat ≤ 122 := by
  rw [isLowerLetter, Bool.and_eq_true, decide_eq_true_eq, decide_eq_true_eq]
  exact Iff.rfl

theorem isUpperLetter_iff (c : Char) : isUpperLetter c = true ↔ 65 ≤ c.toNat ∧ c.toNat ≤ 90 := by
  rw [isUpperLetter, Bool.and_eq_true, decide_eq_true_eq, decide_eq_true_eq]
  exact Iff.rfl

theorem isUpperLetter_of_isLowerLetter {c : Char} (h : isLowerLetter c = true) : isUpperLetter c = false := by
  rw [isLowerLetter_iff] at h
  rw [← Bool.not_eq_true, isUpperLetter_iff]
  omega

theorem isLowerLetter_of_isUpperLetter {c : Char} (h : isUpperLetter c = true) : isLowerLetter c = false := by
  rw [isUpperLetter_iff] at h
  rw [← Bool.not_eq_true, isLowerLetter_iff]
  omega

/-- No digit of any script is a basic letter. -/
theorem isNameLetter_of_isDigit {c : Char} (h : Text.isDigit c = true) : isNameLetter c = false := by
  have hapart : ∀ z ∈ Text.digitZeros, z + 9 < 65 ∨ 122 < z := by decide
  obtain ⟨z, hz, hlow, hhigh⟩ := Text.exists_zero_of_isDigit h
  have := hapart z hz
  rw [← Bool.not_eq_true, isNameLetter, Bool.or_eq_true, isLowerLetter_iff, isUpperLetter_iff]
  omega

theorem isDigit_of_isNameLetter {c : Char} (h : isNameLetter c = true) : Text.isDigit c = false := by
  by_contra hdigit
  rw [Bool.not_eq_false] at hdigit
  rw [isNameLetter_of_isDigit hdigit] at h
  exact absurd h (by decide)

theorem pair?_eq_some_iff {first second : Char → Bool} {s lead next : List Char} :
    pair? first second s = some (lead, next) ↔ ∃ c d r, s = c :: d :: r ∧ first c = true ∧ second d = true
      ∧ lead = [c] ∧ next = [d] := by
  constructor
  · intro h
    match s with
    | c :: d :: r =>
        rw [pair?] at h
        split at h
        · next hpair =>
            obtain ⟨rfl, rfl⟩ := Prod.mk.inj (Option.some.inj h)
            obtain ⟨hc, hd⟩ := Bool.and_eq_true_iff.mp hpair
            exact ⟨c, d, r, rfl, hc, hd, rfl, rfl⟩
        · cases h
  · rintro ⟨c, d, r, rfl, hc, hd, rfl, rfl⟩
    rw [pair?, hc, hd]
    rfl

/-- A pair ends with what no other pair begins with, so pairs do not overlap. -/
theorem places_pair {first second : Char → Bool} (h : ∀ c, second c = true → first c = false) :
    Places (pair? first second) fun c d _ => first c && second d where
  found := by
    intro s lead next hfound
    obtain ⟨c, d, r, rfl, hc, hd, rfl, rfl⟩ := pair?_eq_some_iff.mp hfound
    refine ⟨List.cons_ne_nil c [], r, rfl, ?_⟩
    have hpair : (first c && second d) = true := by rw [hc, hd]; rfl
    have hbehind : ∀ e : Char, (first d && second e) = false := fun e => by rw [h d hd, Bool.false_and]
    rw [spaceMarked_cons_cons, if_pos hpair, spaceMarked_cons fun e _ => hbehind e]
    rfl
  missed := by
    intro c d r hnone
    rw [pair?] at hnone
    split at hnone
    · cases hnone
    · next hpair => exact Bool.eq_false_iff.mpr hpair

/-- Between two capitals there is no place if a third one follows. -/
theorem spaceMarked_three_capitals {c d e : Char} (he : isUpperLetter e = true) (r : List Char) :
    spaceMarked lastCapitalStarts (c :: d :: e :: r) = c :: spaceMarked lastCapitalStarts (d :: e :: r) := by
  have hmark : lastCapitalStarts c d (some e) = false := by
    rw [lastCapitalStarts, Option.any_some, isLowerLetter_of_isUpperLetter he, Bool.and_false]
  rw [spaceMarked_cons_cons, List.head?_cons, hmark, if_neg Bool.false_ne_true]

/-- The place between a capital and another one with a small letter behind it is the only one so far. -/
theorem spaceMarked_last_capital {c d e : Char} (hc : isUpperLetter c = true) (hd : isUpperLetter d = true)
    (he : isLowerLetter e = true) (r : List Char) : spaceMarked lastCapitalStarts (c :: d :: e :: r)
      = c :: ' ' :: d :: e :: spaceMarked lastCapitalStarts r := by
  have hplace : lastCapitalStarts c d (some e) = true := by
    rw [lastCapitalStarts, hc, hd, Option.any_some, he]
    rfl
  have hsmall : ∀ f g, lastCapitalStarts e f g = false := fun f g => by
    rw [lastCapitalStarts, isUpperLetter_of_isLowerLetter he, Bool.false_and, Bool.false_and]
  have hnone : lastCapitalStarts d e r.head? = false := by
    rw [lastCapitalStarts, isUpperLetter_of_isLowerLetter he, Bool.and_false, Bool.false_and]
  rw [spaceMarked_cons_cons, List.head?_cons, if_pos hplace, spaceMarked_cons_cons, hnone,
    if_neg Bool.false_ne_true, spaceMarked_cons hsmall]

/-- What a run of capitals is read as: it begins with two of them, and the only place up to its end is
before its last one. -/
theorem capitals?_spec {s lead next : List Char} (h : capitals? s = some (lead, next)) : lead ≠ []
    ∧ (∃ c d r, s = c :: d :: r ∧ isUpperLetter c = true ∧ isUpperLetter d = true)
    ∧ ∃ r, s = lead ++ next ++ r
      ∧ spaceMarked lastCapitalStarts s = lead ++ ' ' :: next ++ spaceMarked lastCapitalStarts r := by
  fun_induction capitals? s generalizing lead with
  | case1 => cases h
  | case2 c r hc lead' next' hrun ih =>
      obtain ⟨rfl, rfl⟩ := Prod.mk.inj (Option.some.inj h)
      obtain ⟨hlead, ⟨d, e, r', rfl, hd, he⟩, rest, hsplit, hspaced⟩ := ih hrun
      refine ⟨List.cons_ne_nil c _, ⟨c, d, e :: r', rfl, hc, hd⟩, rest, ?_, ?_⟩
      · rw [hsplit]
        rfl
      · rw [spaceMarked_three_capitals he, hspaced]
        rfl
  | case3 c r hc hrun =>
      obtain ⟨⟨d, e⟩, hpair, hparts⟩ := Option.map_eq_some_iff.mp h
      obtain ⟨rfl, rfl⟩ := Prod.mk.inj hparts
      obtain ⟨d', e', r', rfl, hd, he, rfl, rfl⟩ := pair?_eq_some_iff.mp hpair
      refine ⟨List.cons_ne_nil c [], ⟨c, d', e' :: r', rfl, hc, hd⟩, r', rfl, ?_⟩
      exact spaceMarked_last_capital hc hd he r'
  | case4 => cases h

theorem places_capitals : Places capitals? lastCapitalStarts where
  found := by
    intro s lead next hfound
    obtain ⟨hlead, -, hrest⟩ := capitals?_spec hfound
    exact ⟨hlead, hrest⟩
  missed := by
    intro c d r hnone
    rw [← Bool.not_eq_true, lastCapitalStarts, Bool.and_eq_true, Bool.and_eq_true, Option.any_eq_true]
    rintro ⟨⟨hc, hd⟩, e, he, hlower⟩
    obtain ⟨r', rfl⟩ := List.head?_eq_some_iff.mp he
    have hpair : pair? isUpperLetter isLowerLetter (d :: e :: r') = some ([d], [e]) :=
      pair?_eq_some_iff.mpr ⟨d, e, r', rfl, hd, hlower, rfl, rfl⟩
    rw [capitals?, if_pos hc, hpair] at hnone
    split at hnone
    · cases hnone
    · cases hnone

/-! ## Passes do not disturb each other -/

/-- Spaces at the places of one kind neither make nor destroy places of another kind. -/
structure Undisturbed (earlier later : Mark) : Prop where
  beforeSpace : ∀ c e, later c ' ' e = false
  behindSpace : ∀ d e, later ' ' d e = false
  ahead : ∀ c d e f, earlier d e f = true → later c d (some ' ') = later c d (some e)

theorem Undisturbed.pair (earlier : Mark) {first second : Char → Bool} (hfirst : first ' ' = false)
    (hsecond : second ' ' = false) : Undisturbed earlier fun c d _ => first c && second d where
  beforeSpace := fun c _ => by rw [hsecond, Bool.and_false]
  behindSpace := fun d _ => by rw [hfirst, Bool.false_and]
  ahead := fun _ _ _ _ _ => rfl

/-- A capital that is followed by a small letter is followed by it in the end. -/
theorem Undisturbed.lastCapital {earlier : Mark}
    (h : ∀ d e f, isUpperLetter d = true → isLowerLetter e = true → earlier d e f = false) :
    Undisturbed earlier lastCapitalStarts where
  beforeSpace := fun c e => by
    rw [lastCapitalStarts, show isUpperLetter ' ' = false from rfl, Bool.and_false, Bool.false_and]
  behindSpace := fun d e => rfl
  ahead := by
    intro c d e f hearlier
    have hnot : ¬ (isUpperLetter d = true ∧ isLowerLetter e = true) := by
      rintro ⟨hd, he⟩
      rw [h d e f hd he] at hearlier
      exact absurd hearlier (by decide)
    have hspace : isLowerLetter ' ' = false := rfl
    rw [lastCapitalStarts, lastCapitalStarts, Option.any_some, Option.any_some, hspace, Bool.and_false,
      eq_comm, Bool.and_assoc, Bool.and_eq_false_iff, ← Bool.not_eq_true (_ && _), Bool.and_eq_true]
    exact Or.inr hnot

theorem Undisturbed.or {earlier later later' : Mark} (h : Undisturbed earlier later)
    (h' : Undisturbed earlier later') : Undisturbed earlier (later.or later') where
  beforeSpace := fun c e => by rw [Mark.or, h.beforeSpace, h'.beforeSpace]; rfl
  behindSpace := fun d e => by rw [Mark.or, h.behindSpace, h'.behindSpace]; rfl
  ahead := fun c d e f hearlier => by
    rw [Mark.or, Mark.or, h.ahead c d e f hearlier, h'.ahead c d e f hearlier]

/-- **Two passes are one** that looks for the places of both. -/
theorem spaceMarked_spaceMarked {earlier later : Mark} (h : Undisturbed earlier later) (s : List Char) :
    spaceMarked later (spaceMarked earlier s) = spaceMarked (earlier.or later) s := by
  match s with
  | [] => rfl
  | [c] => rfl
  | c :: d :: r =>
      have ih := spaceMarked_spaceMarked h (d :: r)
      obtain ⟨u, hu, hhead⟩ := exists_spaceMarked_cons earlier d r
      rw [spaceMarked_cons_cons earlier, spaceMarked_cons_cons (earlier.or later), ← ih, hu, Mark.or]
      by_cases hearlier : earlier c d r.head? = true
      · rw [if_pos hearlier, if_pos (by rw [hearlier, Bool.true_or]), spaceMarked_cons_cons, h.beforeSpace,
          if_neg Bool.false_ne_true, spaceMarked_cons_cons, h.behindSpace, if_neg Bool.false_ne_true]
      · -- the character behind the pair is the same as before, or a space that makes no difference
        have hlater : later c d u.head? = later c d r.head? := by
          rcases hhead with hsame | ⟨e, r', rfl, hplace, hspace⟩
          · rw [hsame]
          · rw [hspace, List.head?_cons, h.ahead c d e r'.head? hplace]
        rw [if_neg hearlier, spaceMarked_cons_cons, hlater, Bool.eq_false_iff.mpr hearlier, Bool.false_or]

/-! ## One pass -/

/-- A part of a name begins behind another one. -/
def partStarts : Mark := ((capitalStarts.or lastCapitalStarts).or numberStarts).or numberEnds

theorem undisturbed_partStarts {earlier : Mark}
    (h : ∀ d e f, isUpperLetter d = true → isLowerLetter e = true → earlier d e f = false) :
    Undisturbed earlier partStarts := by
  have hcapital : Undisturbed earlier capitalStarts := Undisturbed.pair earlier rfl rfl
  have hnumber : Undisturbed earlier numberStarts := Undisturbed.pair earlier rfl rfl
  have hend : Undisturbed earlier numberEnds := Undisturbed.pair earlier rfl rfl
  exact ((hcapital.or (Undisturbed.lastCapital h)).or hnumber).or hend

/-- Between a capital and a small letter there is never a place. -/
theorem partStarts_capital_small {d e : Char} (hd : isUpperLetter d = true) (he : isLowerLetter e = true)
    (f : Option Char) : partStarts d e f = false := by
  have hdigit : Text.isDigit d = false := isDigit_of_isNameLetter (by rw [isNameLetter, hd, Bool.or_true])
  have hdigit' : Text.isDigit e = false := isDigit_of_isNameLetter (by rw [isNameLetter, he, Bool.true_or])
  simp only [partStarts, Mark.or, capitalStarts, lastCapitalStarts, numberStarts, numberEnds, hdigit, hdigit',
    isLowerLetter_of_isUpperLetter hd, isUpperLetter_of_isLowerLetter he, Bool.false_and, Bool.and_false,
    Bool.or_self]

theorem humanizeName_eq (name : List Char) : humanizeName name = spaceMarked partStarts name := by
  have hcapital : Places (pair? isLowerLetter isUpperLetter) capitalStarts :=
    places_pair fun c hc => isLowerLetter_of_isUpperLetter hc
  have hnumber : Places (pair? isNameLetter Text.isDigit) numberStarts :=
    places_pair fun c hc => isNameLetter_of_isDigit hc
  have hend : Places (pair? Text.isDigit isNameLetter) numberEnds :=
    places_pair fun c hc => isDigit_of_isNameLetter hc
  have hcapitals : Undisturbed capitalStarts lastCapitalStarts := by
    refine Undisturbed.lastCapital fun d e _ hd _ => ?_
    rw [capitalStarts, isLowerLetter_of_isUpperLetter hd, Bool.false_and]
  have hnumbers : ∀ earlier, Undisturbed earlier numberStarts := fun _ => Undisturbed.pair _ rfl rfl
  have hends : ∀ earlier, Undisturbed earlier numberEnds := fun _ => Undisturbed.pair _ rfl rfl
  rw [humanizeName, spaceParts_eq hcapital, spaceParts_eq places_capitals, spaceParts_eq hnumber,
    spaceParts_eq hend]
  simp only [List.drop_zero]
  rw [spaceMarked_spaceMarked hcapitals, spaceMarked_spaceMarked (hnumbers _),
    spaceMarked_spaceMarked (hends _), partStarts]

/-- A readable name has no places left. -/
theorem spaceMarked_partStarts_again (name : List Char) :
    spaceMarked partStarts (spaceMarked partStarts name) = spaceMarked partStarts name := by
  have hsame : partStarts.or partStarts = partStarts := by
    funext c d e
    exact Bool.or_self _
  have hundisturbed : Undisturbed partStarts partStarts :=
    undisturbed_partStarts fun d e f hd he => partStarts_capital_small hd he f
  rw [spaceMarked_spaceMarked hundisturbed, hsame]

/-! ## Positions -/

/-- The mark holds between position `i` and the one before it. -/
def markedAt (mark : Mark) (s : List Char) : Nat → Bool
  | 0 => false
  | i + 1 =>
    match s[i]?, s[i + 1]? with
    | some c, some d => mark c d s[i + 2]?
    | _, _ => false

/-- The text with a space before each position that passes the test. -/
def spacedAt (test : Nat → Bool) (s : List Char) : List Char :=
  s.zipIdx.flatMap fun (c, i) => if test i then [' ', c] else [c]

theorem markedAt_append (mark : Mark) (a : List Char) (c d : Char) (r : List Char) :
    markedAt mark (a ++ c :: d :: r) (a.length + 1) = mark c d r.head? := by
  have hfirst : (a ++ c :: d :: r)[a.length]? = some c := by simp
  have hsecond : (a ++ c :: d :: r)[a.length + 1]? = some d := by simp
  have hthird : (a ++ c :: d :: r)[a.length + 2]? = r.head? := by
    rw [List.getElem?_append_right (Nat.le_add_right _ 2), Nat.add_sub_cancel_left, List.head?_eq_getElem?]
    rfl
  rw [markedAt, hfirst, hsecond, hthird]

theorem spaceMarked_eq_spacedAt (mark : Mark) (s : List Char) :
    spaceMarked mark s = spacedAt (markedAt mark s) s := by
  -- behind a front `a`, which has been dealt with
  have hbehind : ∀ (r a : List Char) (c : Char), spaceMarked mark (c :: r)
      = c :: (r.zipIdx (a.length + 1)).flatMap fun (d, i) =>
        if markedAt mark (a ++ c :: r) i then [' ', d] else [d] := by
    intro r
    induction r with
    | nil => exact fun _ _ => rfl
    | cons d r ih =>
        intro a c
        have hrest := ih (a ++ [c]) d
        rw [List.length_append, List.length_singleton, ← List.append_cons] at hrest
        rw [spaceMarked_cons_cons, ← markedAt_append mark a c d r, hrest]
        show _ = c :: ((if markedAt mark (a ++ c :: d :: r) (a.length + 1) then [' ', d] else [d]) ++ _)
        split
        · rfl
        · rfl
  cases s with
  | nil => rfl
  | cons c r => exact hbehind r [] c

/-! ## The main result -/

/-- **A readable name** is the name with a space before each position at which a part of it starts, and
it stays as it is when it is made readable again. -/
theorem humanize_spaces (name : String) :
    (humanize name).toList = spacedAt (markedAt partStarts name.toList) name.toList
      ∧ humanize (humanize name) = humanize name := by
  constructor
  · rw [humanize, String.toList_ofList, humanizeName_eq, spaceMarked_eq_spacedAt]
  · rw [humanize, humanize, String.toList_ofList, humanizeName_eq, humanizeName_eq,
      spaceMarked_partStarts_again]

example : humanize "IBANCode86Value" = "IBAN Code 86 Value" := by decide

end StatementTagging
