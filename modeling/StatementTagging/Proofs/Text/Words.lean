import Mathlib.Data.List.Chain
import StatementTagging.Proofs.Text.Pieces

set_option autoImplicit false

/-! # Words with single spaces

The words of a text are found one after the other, and a blank ends one (`words_append_blank`). Written
with one space between each two they make a text without superfluous blanks (`singleSpaced_respaced`).
Such texts are the ones that this does not change (`respaced_eq_self_iff`). If one is cut off, its end
may be a space (`SingleSpaced.back_take_iff`).
-/

namespace StatementTagging.Text

/-! ## Words -/

/-- A word has characters, and none of them is a blank. -/
structure IsWord (w : List Char) : Prop where
  nonempty : w ≠ []
  solid : ∀ c ∈ w, isBlank c = false

theorem wordsFrom_append_blank {c : Char} (hc : isBlank c = true) (word s t : List Char) :
    wordsFrom word (s ++ c :: t) = wordsFrom word s ++ words t := by
  fun_induction wordsFrom word s with
  | case1 word hword => rw [List.nil_append, wordsFrom, if_pos hc, if_pos hword]; rfl
  | case2 word hword => rw [List.nil_append, wordsFrom, if_pos hc, if_neg hword]; rfl
  | case3 word d r hd hword ih => rw [List.cons_append, wordsFrom, if_pos hd, if_pos hword, ih]
  | case4 word d r hd hword ih => rw [List.cons_append, wordsFrom, if_pos hd, if_neg hword, ih]; rfl
  | case5 word d r hd ih => rw [List.cons_append, wordsFrom, if_neg hd, ih]

/-- **A blank ends a word**, and belongs to none. -/
theorem words_append_blank {c : Char} (hc : isBlank c = true) (s t : List Char) :
    words (s ++ c :: t) = words s ++ words t :=
  wordsFrom_append_blank hc [] s t

theorem wordsFrom_solid (word : List Char) {s : List Char} (h : ∀ c ∈ s, isBlank c = false) :
    wordsFrom word s = wordsFrom (s.reverse ++ word) [] := by
  induction s generalizing word with
  | nil => rfl
  | cons c r ih =>
      obtain ⟨hc, hr⟩ := List.forall_mem_cons.mp h
      have hstep : wordsFrom word (c :: r) = wordsFrom (c :: word) r := by
        rw [wordsFrom, hc, if_neg Bool.false_ne_true]
      rw [hstep, ih (c :: word) hr, List.reverse_cons, List.append_assoc]
      rfl

/-- A text without blanks is its only word, unless it is empty. -/
theorem words_solid {s : List Char} (h : ∀ c ∈ s, isBlank c = false) :
    words s = if s.isEmpty then [] else [s] := by
  rw [words, wordsFrom_solid [] h, List.append_nil, wordsFrom, List.reverse_reverse, List.isEmpty_reverse]

/-- A text has no blank, or it goes on behind its first one. -/
theorem blank_induction {motive : List Char → Prop}
    (solid : ∀ s, (∀ c ∈ s, isBlank c = false) → motive s)
    (blank : ∀ s c t, (∀ d ∈ s, isBlank d = false) → isBlank c = true → motive t → motive (s ++ c :: t))
    (s : List Char) : motive s := by
  -- behind a front without blanks
  have hbehind : ∀ t front : List Char, (∀ c ∈ front, isBlank c = false) → motive (front ++ t) := by
    intro t
    induction t with
    | nil =>
        intro front hfront
        rw [List.append_nil]
        exact solid front hfront
    | cons c t ih =>
        intro front hfront
        by_cases hc : isBlank c = true
        · exact blank front c t hfront hc (ih [] (List.forall_mem_nil _))
        · rw [List.append_cons]
          refine ih (front ++ [c]) ?_
          rw [List.forall_mem_append, List.forall_mem_singleton]
          exact ⟨hfront, Bool.eq_false_iff.mpr hc⟩
  exact hbehind s [] (List.forall_mem_nil _)

/-- The words of a text are parts of it. -/
theorem mem_words {s w : List Char} (h : w ∈ words s) : IsWord w ∧ w <:+: s := by
  have hsolid : ∀ {t}, (∀ c ∈ t, isBlank c = false) → w ∈ words t → IsWord w ∧ w = t := by
    intro t ht hw
    rw [words_solid ht] at hw
    split at hw
    · cases hw
    · next hne =>
        rw [List.isEmpty_iff] at hne
        rw [List.mem_singleton.mp hw]
        exact ⟨⟨hne, ht⟩, rfl⟩
  induction s using blank_induction with
  | solid s hs =>
      obtain ⟨hw, rfl⟩ := hsolid hs h
      exact ⟨hw, List.infix_rfl⟩
  | blank s c t hs hc ih =>
      rw [words_append_blank hc, List.mem_append] at h
      rcases h with h | h
      · obtain ⟨hw, rfl⟩ := hsolid hs h
        exact ⟨hw, List.infix_append' [] w (c :: t)⟩
      · obtain ⟨hw, ht⟩ := ih h
        exact ⟨hw, ht.trans ((List.suffix_cons c t).trans (List.suffix_append s (c :: t))).isInfix⟩

/-- **Stripping a text leaves its words.** -/
theorem words_strip (s : List Char) : words (strip s) = words s := by
  have hfront : ∀ t : List Char, words (t.dropWhile isBlank) = words t := by
    intro t
    induction t with
    | nil => rfl
    | cons c t ih =>
        by_cases hc : isBlank c = true
        · rw [List.dropWhile_cons_of_pos hc, ih]
          exact (words_append_blank hc [] t).symm
        · rw [List.dropWhile_cons_of_neg hc]
  have hback : ∀ t : List Char, words (t.rdropWhile isBlank) = words t := by
    intro t
    induction t using List.reverseRecOn with
    | nil => rfl
    | append_singleton t c ih =>
        by_cases hc : isBlank c = true
        · rw [List.rdropWhile_concat_pos _ _ _ hc, ih, words_append_blank hc]
          exact (List.append_nil _).symm
        · rw [List.rdropWhile_concat_neg _ _ _ hc]
  rw [strip_eq, hback, hfront]

/-! ## Single spaces -/

/-- The words of a text with one space between each two. -/
def respaced (s : List Char) : List Char := List.intercalate [' '] (words s)

/-- No blank at the ends, no two of them side by side, and none but spaces. -/
structure SingleSpaced (s : List Char) : Prop where
  front : ∀ c ∈ s.head?, isBlank c = false
  back : ∀ c ∈ s.getLast?, isBlank c = false
  apart : s.IsChain fun c d => isBlank c = true → isBlank d = false
  spaces : ∀ c ∈ s, isBlank c = true → c = ' '

/-- What a join is made of. -/
theorem mem_intercalate {mark c : Char} {ws : List (List Char)} (h : c ∈ List.intercalate [mark] ws) :
    c = mark ∨ ∃ w ∈ ws, c ∈ w := by
  induction ws with
  | nil => cases h
  | cons w r ih =>
      cases r with
      | nil =>
          rw [List.intercalate_singleton] at h
          exact Or.inr ⟨w, List.mem_cons_self, h⟩
      | cons v r =>
          rw [List.intercalate_cons_cons, List.append_assoc, List.mem_append] at h
          rcases h with hw | h
          · exact Or.inr ⟨w, List.mem_cons_self, hw⟩
          rcases List.mem_cons.mp h with hmark | hrest
          · exact Or.inl hmark
          · rcases ih hrest with hmark | ⟨u, hu, hc⟩
            · exact Or.inl hmark
            · exact Or.inr ⟨u, List.mem_cons_of_mem w hu, hc⟩

theorem IsWord.isChain {w : List Char} (h : IsWord w) :
    w.IsChain fun c d => isBlank c = true → isBlank d = false := by
  refine List.Pairwise.isChain (List.pairwise_of_forall_mem_list ?_)
  intro _ _ d hd _
  exact h.solid d hd

theorem isChain_intercalate {ws : List (List Char)} (h : ∀ w ∈ ws, IsWord w) :
    (List.intercalate [' '] ws).IsChain fun c d => isBlank c = true → isBlank d = false := by
  induction ws with
  | nil => exact List.isChain_nil
  | cons w r ih =>
      obtain ⟨hw, hr⟩ := List.forall_mem_cons.mp h
      cases r with
      | nil =>
          rw [List.intercalate_singleton]
          exact hw.isChain
      | cons v r =>
          have hnext : ∀ d ∈ (List.intercalate [' '] (v :: r)).head?, isBlank d = false := by
            intro d hd
            rw [head?_intercalate fun u hu => (hr u hu).nonempty] at hd
            exact (hr v List.mem_cons_self).solid d (List.mem_of_mem_head? hd)
          rw [List.intercalate_cons_cons, List.append_assoc, List.isChain_append]
          refine ⟨hw.isChain, List.isChain_cons.mpr ⟨fun d hd _ => hnext d hd, ih hr⟩, ?_⟩
          intro c hc d _ hblank
          rw [hw.solid c (List.mem_of_mem_getLast? hc)] at hblank
          cases hblank

theorem singleSpaced_intercalate {ws : List (List Char)} (h : ∀ w ∈ ws, IsWord w) :
    SingleSpaced (List.intercalate [' '] ws) where
  front := by
    intro c hc
    rw [head?_intercalate fun w hw => (h w hw).nonempty] at hc
    obtain ⟨w, hw, hc⟩ := Option.bind_eq_some_iff.mp hc
    exact (h w (List.mem_of_mem_head? hw)).solid c (List.mem_of_mem_head? hc)
  back := by
    intro c hc
    rw [getLast?_intercalate fun w hw => (h w hw).nonempty] at hc
    obtain ⟨w, hw, hc⟩ := Option.bind_eq_some_iff.mp hc
    exact (h w (List.mem_of_mem_getLast? hw)).solid c (List.mem_of_mem_getLast? hc)
  apart := isChain_intercalate h
  spaces := by
    intro c hc hblank
    rcases mem_intercalate hc with hspace | ⟨w, hw, hcw⟩
    · exact hspace
    · rw [(h w hw).solid c hcw] at hblank
      cases hblank

/-- **Words with single spaces** between them have no other blanks. -/
theorem singleSpaced_respaced (s : List Char) : SingleSpaced (respaced s) :=
  singleSpaced_intercalate fun _ hw => (mem_words hw).1

theorem respaced_solid {s : List Char} (h : ∀ c ∈ s, isBlank c = false) : respaced s = s := by
  rw [respaced, words_solid h]
  split
  · next hnil => exact (List.isEmpty_iff.mp hnil).symm
  · exact List.intercalate_singleton

theorem IsWord.words_append {s t : List Char} {c : Char} (hs : IsWord s) (hc : isBlank c = true) :
    words (s ++ c :: t) = s :: words t := by
  rw [words_append_blank hc, words_solid hs.solid, if_neg (mt List.isEmpty_iff.mp hs.nonempty)]
  rfl

/-- The words behind a word stand behind a space. -/
theorem IsWord.respaced_append {s t : List Char} {c : Char} (hs : IsWord s) (hc : isBlank c = true)
    (ht : words t ≠ []) : respaced (s ++ c :: t) = s ++ ' ' :: respaced t := by
  rw [respaced, hs.words_append hc, respaced]
  obtain ⟨w, r, hwords⟩ := List.exists_cons_of_ne_nil ht
  rw [hwords, List.intercalate_cons_cons, List.append_assoc]
  rfl

theorem respaced_of_singleSpaced {s : List Char} (h : SingleSpaced s) : respaced s = s := by
  induction s using blank_induction with
  | solid s hs => exact respaced_solid hs
  | blank s c t hs hc ih =>
      obtain rfl : c = ' ' := h.spaces c (by simp) hc
      have hs' : IsWord s := by
        refine ⟨?_, hs⟩
        rintro rfl
        exact absurd (h.front ' ' rfl) (by decide)
      have hnext := List.isChain_cons.mp (List.isChain_append.mp h.apart).2.1
      have hne : t ≠ [] := by
        rintro rfl
        exact absurd (h.back ' ' (by simp)) (by decide)
      have ht : SingleSpaced t := by
        refine ⟨fun d hd => hnext.1 d hd hc, fun d hd => h.back d ?_, hnext.2, fun d hd => ?_⟩
        · rwa [List.getLast?_append_of_ne_nil _ (List.cons_ne_nil _ _), List.getLast?_cons_of_ne_nil hne]
        · exact h.spaces d (List.mem_append_right s (List.mem_cons_of_mem ' ' hd))
      have hwords : words t ≠ [] := by
        intro hnil
        rw [← ih ht, respaced, hnil] at hne
        exact hne rfl
      rw [hs'.respaced_append hc hwords, ih ht]

theorem respaced_eq_self_iff (s : List Char) : respaced s = s ↔ SingleSpaced s := by
  constructor
  · intro h
    rw [← h]
    exact singleSpaced_respaced s
  · exact respaced_of_singleSpaced

/-- Words with single spaces do not take more room than they did. -/
theorem length_respaced_le (s : List Char) : (respaced s).length ≤ s.length := by
  induction s using blank_induction with
  | solid s hs => rw [respaced_solid hs]
  | blank s c t hs hc ih =>
      rw [List.length_append, List.length_cons]
      by_cases hne : s = []
      · have hsame : respaced (s ++ c :: t) = respaced t := by
          rw [hne, respaced, words_append_blank hc]
          rfl
        rw [hsame]
        omega
      have hword : IsWord s := ⟨hne, hs⟩
      by_cases ht : words t = []
      · rw [respaced, hword.words_append hc, ht, List.intercalate_singleton]
        omega
      · rw [hword.respaced_append hc ht, List.length_append, List.length_cons]
        omega

/-! ## Cutting off -/

namespace SingleSpaced

variable {s : List Char} (h : SingleSpaced s) (n : Nat)

include h

theorem front_take : ∀ c ∈ (s.take (n + 1)).head?, isBlank c = false := by
  rw [List.head?_take, if_neg (Nat.succ_ne_zero n)]
  exact h.front

/-- Only the end of a text can be spoiled by cutting it off, -/
theorem take_iff : SingleSpaced (s.take (n + 1)) ↔ ∀ c ∈ (s.take (n + 1)).getLast?, isBlank c = false := by
  refine ⟨fun hcut => hcut.back, fun hback => ⟨h.front_take n, hback, h.apart.take (n + 1), fun c hc => ?_⟩⟩
  exact h.spaces c (List.mem_of_mem_take hc)

/-- and it is if the text is **cut behind a space**. -/
theorem back_take_iff : (∀ c ∈ (s.take (n + 1)).getLast?, isBlank c = false) ↔ s[n]? ≠ some ' ' := by
  rw [List.getLast?_take, if_neg (Nat.succ_ne_zero n), Nat.add_sub_cancel]
  cases hn : s[n]? with
  | none => exact iff_of_true h.back (by simp)
  | some d =>
      rw [Option.some_or, Ne, Option.some.injEq]
      constructor
      · rintro hsolid rfl
        exact absurd (hsolid ' ' rfl) (by decide)
      · intro hspace c hc
        obtain rfl : d = c := Option.some.inj hc
        rw [← Bool.not_eq_true]
        exact fun hblank => hspace (h.spaces d (List.mem_of_getElem? hn) hblank)

end SingleSpaced

end StatementTagging.Text
