import Mathlib.Data.List.DropRight
import StatementTagging.Text.Blank

set_option autoImplicit false

/-! # Texts without blanks at their ends

A stripped text neither begins nor ends with a blank, and stripping it again changes nothing. A part of a text
that neither begins nor ends with a blank is still there after stripping (`infix_strip`).
-/

namespace StatementTagging.Text

/-- A beginning of a text that has nothing to drop has nothing to drop either. -/
theorem dropWhile_eq_self_of_prefix {q : Char → Bool} {s u : List Char} (hu : u.dropWhile q = u)
    (h : s <+: u) : s.dropWhile q = s := by
  cases s with
  | nil => rfl
  | cons c s =>
      obtain ⟨r, rfl⟩ := h
      by_cases hc : q c = true
      · rw [List.cons_append, List.dropWhile_cons_of_pos hc] at hu
        have hlen := congrArg List.length hu
        have hle := (List.dropWhile_suffix q (l := s ++ r)).length_le
        rw [List.length_cons] at hlen
        omega
      · rw [List.dropWhile_cons_of_neg hc]

theorem strip_eq (s : List Char) : strip s = (s.dropWhile isBlank).rdropWhile isBlank := rfl

theorem dropWhile_strip (s : List Char) : (strip s).dropWhile isBlank = strip s := by
  refine dropWhile_eq_self_of_prefix ?_ (List.rdropWhile_prefix isBlank (l := s.dropWhile isBlank))
  exact List.dropWhile_idempotent isBlank s

/-- **Stripping is idempotent.** -/
theorem strip_strip (s : List Char) : strip (strip s) = strip s := by
  rw [strip_eq (strip s), dropWhile_strip, strip_eq, List.rdropWhile_idempotent]

/-- Stripping leaves a part of the text. -/
theorem strip_isInfix (s : List Char) : strip s <:+: s :=
  (List.rdropWhile_prefix isBlank (l := s.dropWhile isBlank)).isInfix.trans
    (List.dropWhile_suffix isBlank (l := s)).isInfix

/-- A stripped text does not end with a blank. -/
theorem strip_ne_append_blank {c : Char} (hc : isBlank c = true) (s r : List Char) :
    strip s ≠ r ++ [c] := by
  intro h
  have hlast := List.rdropWhile_last_not isBlank (s.dropWhile isBlank)
    (by rw [← strip_eq, h]; simp)
  simp only [← strip_eq, h, List.getLast_append_singleton] at hlast
  exact hlast hc

/-! ## Texts that are stripped already -/

theorem dropWhile_eq_self_iff (s : List Char) :
    s.dropWhile isBlank = s ↔ ∀ c ∈ s.head?, isBlank c = false := by
  cases s with
  | nil => simp
  | cons c r =>
      simp only [List.head?_cons, Option.mem_some_iff, forall_eq']
      cases hc : isBlank c with
      | false => exact iff_of_true (List.dropWhile_cons_of_neg (by simp [hc])) rfl
      | true =>
          rw [List.dropWhile_cons_of_pos hc]
          refine iff_of_false (fun heq => ?_) (by decide)
          have hle := (List.dropWhile_suffix isBlank (l := r)).length_le
          have hlength := congrArg List.length heq
          rw [List.length_cons] at hlength
          omega

/-- A stripped text has no blank at its ends. -/
theorem strip_eq_self_iff (s : List Char) :
    strip s = s ↔ (∀ c ∈ s.head?, isBlank c = false) ∧ ∀ c ∈ s.getLast?, isBlank c = false := by
  have hback : s.rdropWhile isBlank = s ↔ ∀ c ∈ s.getLast?, isBlank c = false := by
    rw [List.rdropWhile, List.reverse_eq_iff, dropWhile_eq_self_iff, List.head?_reverse]
  rw [← dropWhile_eq_self_iff, ← hback]
  constructor
  · intro h
    have hfront : s.dropWhile isBlank = s := by
      have hstrip := dropWhile_strip s
      rwa [h] at hstrip
    refine ⟨hfront, ?_⟩
    rwa [strip_eq, hfront] at h
  · rintro ⟨hfront, hback⟩
    rw [strip_eq, hfront, hback]

/-! ## Parts of a stripped text -/

theorem infix_dropWhile {q : Char → Bool} {s t : List Char} (h : s <:+: t)
    (hfront : ∀ c ∈ s.head?, q c = false) : s <:+: t.dropWhile q := by
  cases s with
  | nil => exact List.nil_infix
  | cons c s =>
      obtain ⟨a, b, rfl⟩ := h
      have hstop : ((c :: s) ++ b).dropWhile q = (c :: s) ++ b := by
        rw [List.cons_append, List.dropWhile_cons_of_neg]
        rw [hfront c rfl]
        exact Bool.false_ne_true
      -- dropping may use up all that is in front of the part, but it stops at its first character
      rw [List.append_assoc, List.dropWhile_append, hstop]
      split
      · exact List.infix_append' [] (c :: s) b
      · rw [← List.append_assoc]
        exact List.infix_append _ _ _

/-- **Stripping leaves every part** of a text that has no blank at its ends. -/
theorem infix_strip {s t : List Char} (h : s <:+: t) (hfront : ∀ c ∈ s.head?, isBlank c = false)
    (hback : ∀ c ∈ s.getLast?, isBlank c = false) : s <:+: strip t := by
  -- the blanks at the back are those in front of the reversed text
  have hdropped : s.reverse <:+: (t.dropWhile isBlank).reverse :=
    List.reverse_infix.mpr (infix_dropWhile h hfront)
  rw [strip_eq, List.rdropWhile, ← List.reverse_reverse s, List.reverse_infix]
  exact infix_dropWhile hdropped (by rwa [List.head?_reverse])

end StatementTagging.Text
