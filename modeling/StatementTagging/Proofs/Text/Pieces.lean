import Mathlib.Data.List.Infix
import StatementTagging.Proofs.Text.Blank
import StatementTagging.Text.Pieces

set_option autoImplicit false

/-! # Pieces of texts that were joined

Texts that do not hold a mark are got back from their join with the mark between them. Blanks at the ends of
the join and empty pieces may be taken away on the way; that does no harm exactly if there are none to take
(`nonempty_pieces_strip_intercalate_iff`).
-/

namespace StatementTagging.Text

variable {mark : Char} {parts : List (List Char)}

/-! ## Pieces -/

theorem pieces_eq_splitOn (mark : Char) (s : List Char) : pieces mark s = List.splitOn mark s := by
  induction s with
  | nil => rfl
  | cons c r ih =>
      rw [pieces, ih, List.splitOn_cons_eq_if_modifyHead]
      by_cases hc : c = mark
      · rw [if_pos hc, if_pos (beq_iff_eq.mpr hc)]
      · rw [if_neg hc, if_neg (mt beq_iff_eq.mp hc)]
        cases hparts : List.splitOn mark r with
        | nil => exact absurd hparts (List.splitOn_ne_nil mark r)
        | cons piece rest => rfl

/-- **The pieces of a join are what was joined.** -/
theorem pieces_intercalate (h : ∀ s ∈ parts, mark ∉ s) (hne : parts ≠ []) :
    pieces mark (List.intercalate [mark] parts) = parts := by
  rw [pieces_eq_splitOn, List.splitOn_intercalate mark h hne]

theorem intercalate_pieces (mark : Char) (s : List Char) :
    List.intercalate [mark] (pieces mark s) = s := by
  rw [pieces_eq_splitOn, List.intercalate_splitOn]

theorem length_pieces (mark : Char) (s : List Char) : (pieces mark s).length = s.count mark + 1 := by
  rw [pieces_eq_splitOn]
  induction s with
  | nil => rfl
  | cons c r ih =>
      rw [List.splitOn_cons_eq_if_modifyHead, List.count_cons]
      by_cases hc : (c == mark) = true
      · rw [if_pos hc, if_pos hc, List.length_cons, ih]
      · rw [if_neg hc, if_neg hc, List.length_modifyHead, ih]

theorem not_mem_of_mem_pieces {s piece : List Char} (h : piece ∈ pieces mark s) : mark ∉ piece := by
  rw [pieces_eq_splitOn] at h
  induction s generalizing piece with
  | nil =>
      rw [List.mem_singleton.mp h]
      exact List.not_mem_nil
  | cons c r ih =>
      rw [List.splitOn_cons_eq_if_modifyHead] at h
      by_cases hc : (c == mark) = true
      · rw [if_pos hc, List.mem_cons] at h
        rcases h with rfl | h
        · exact List.not_mem_nil
        · exact ih h
      · rw [if_neg hc] at h
        cases hparts : List.splitOn mark r with
        | nil => exact absurd hparts (List.splitOn_ne_nil mark r)
        | cons first rest =>
            rw [hparts] at h ih
            rcases List.mem_cons.mp h with rfl | h
            · rw [List.mem_cons, not_or]
              exact ⟨fun heq => hc (beq_iff_eq.mpr heq.symm), ih List.mem_cons_self⟩
            · exact ih (List.mem_cons_of_mem _ h)

/-! ## The ends of a join -/

theorem intercalate_ne_nil {s : List Char} (h : s ≠ []) (r : List (List Char)) :
    List.intercalate [mark] (s :: r) ≠ [] := by
  cases r with
  | nil => rwa [List.intercalate_singleton]
  | cons t r =>
      rw [List.intercalate_cons_cons, List.append_assoc]
      exact List.append_ne_nil_of_left_ne_nil h _

/-- The front of a join is that of the first text. -/
theorem head?_intercalate (h : ∀ s ∈ parts, s ≠ []) :
    (List.intercalate [mark] parts).head? = parts.head?.bind List.head? := by
  match parts with
  | [] => rfl
  | [s] => rw [List.intercalate_singleton, List.head?_cons, Option.bind_some]
  | s :: t :: r =>
      rw [List.intercalate_cons_cons, List.append_assoc,
        List.head?_append_of_ne_nil _ (h s List.mem_cons_self), List.head?_cons, Option.bind_some]

/-- The back of a join is that of the last text. -/
theorem getLast?_intercalate (h : ∀ s ∈ parts, s ≠ []) :
    (List.intercalate [mark] parts).getLast? = parts.getLast?.bind List.getLast? := by
  induction parts with
  | nil => rfl
  | cons s r ih =>
      obtain ⟨-, hr⟩ := List.forall_mem_cons.mp h
      cases r with
      | nil => rw [List.intercalate_singleton, List.getLast?_singleton, Option.bind_some]
      | cons t r =>
          rw [List.intercalate_cons_cons, List.getLast?_cons_cons, ← ih hr]
          exact List.getLast?_append_of_ne_nil _ (intercalate_ne_nil (hr t List.mem_cons_self) r)

/-! ## Back from a stripped join -/

/-- The texts can be told apart in their join: none is empty or holds the mark, and the join neither begins
nor ends with a blank. -/
structure SplitsBack (mark : Char) (parts : List (List Char)) : Prop where
  nonempty : ∀ s ∈ parts, s ≠ []
  unmarked : ∀ s ∈ parts, mark ∉ s
  front : ∀ c ∈ parts.head?.bind List.head?, isBlank c = false
  back : ∀ c ∈ parts.getLast?.bind List.getLast?, isBlank c = false

/-- **When texts are got back from their stripped join** without its empty pieces: no two defects of the
texts make up for each other. -/
theorem nonempty_pieces_strip_intercalate_iff (mark : Char) (parts : List (List Char)) :
    (pieces mark (strip (List.intercalate [mark] parts))).filter (!·.isEmpty) = parts
      ↔ SplitsBack mark parts := by
  have hstripped : (∀ s ∈ parts, s ≠ []) → (strip (List.intercalate [mark] parts)
      = List.intercalate [mark] parts ↔ (∀ c ∈ parts.head?.bind List.head?, isBlank c = false)
        ∧ ∀ c ∈ parts.getLast?.bind List.getLast?, isBlank c = false) := fun h => by
    rw [strip_eq_self_iff, head?_intercalate h, getLast?_intercalate h]
  constructor
  · intro h
    have hmem : ∀ s ∈ parts, s ≠ [] ∧ mark ∉ s := by
      intro s hs
      rw [← h, List.mem_filter] at hs
      exact ⟨by simpa using hs.2, not_mem_of_mem_pieces hs.1⟩
    have hne : ∀ s ∈ parts, s ≠ [] := fun s hs => (hmem s hs).1
    have hmark : ∀ s ∈ parts, mark ∉ s := fun s hs => (hmem s hs).2
    suffices hstrip : strip (List.intercalate [mark] parts) = List.intercalate [mark] parts by
      obtain ⟨hfront, hback⟩ := (hstripped hne).mp hstrip
      exact ⟨hne, hmark, hfront, hback⟩
    by_cases hnil : parts = []
    · rw [hnil]
      rfl
    -- stripping takes no marks in, so there are no more pieces than texts, and none of them is dropped
    have hcount : (strip (List.intercalate [mark] parts)).count mark
        ≤ (List.intercalate [mark] parts).count mark :=
      (strip_isInfix _).sublist.count_le mark
    have hlength := length_pieces mark (List.intercalate [mark] parts)
    rw [pieces_intercalate hmark hnil] at hlength
    have hall : (pieces mark (strip (List.intercalate [mark] parts))).filter (!·.isEmpty)
        = pieces mark (strip (List.intercalate [mark] parts)) := by
      refine List.filter_sublist.eq_of_length_le ?_
      rw [h, length_pieces, hlength]
      omega
    rw [← intercalate_pieces mark (strip _), ← hall, h]
  · rintro ⟨hne, hmark, hfront, hback⟩
    by_cases hnil : parts = []
    · rw [hnil]
      rfl
    rw [(hstripped hne).mpr ⟨hfront, hback⟩, pieces_intercalate hmark hnil, List.filter_eq_self]
    intro s hs
    simpa using hne s hs

end StatementTagging.Text
