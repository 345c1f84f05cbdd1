import StatementTagging.Criterion
import StatementTagging.Proofs.Pattern.Escape

set_option autoImplicit false

/-! # Marks of comparisons

A text of a rule is a comparison exactly when it begins with one of the four marks. No mark begins
another one, none holds a special character, and each begins with an underscore.
-/

namespace StatementTagging

/-- The text begins with the mark of a comparison. -/
def Marked (source : List Char) : Prop := ∃ c : Comparison, c.mark <+: source

theorem mem_all (c : Comparison) : c ∈ Comparison.all := by
  cases c with
  | greater => decide
  | less => decide
  | atLeast => decide
  | atMost => decide

instance : DecidablePred Marked := fun source =>
  decidable_of_iff (∃ c ∈ Comparison.all, c.mark <+: source)
    ⟨fun ⟨c, _, h⟩ => ⟨c, h⟩, fun ⟨c, h⟩ => ⟨c, mem_all c, h⟩⟩

theorem mark_plain (c : Comparison) : ∀ d ∈ c.mark, Pattern.isSpecial d = false := by
  have hall : c.mark.all (fun d => !Pattern.isSpecial d) = true := by
    cases c with
    | greater => decide
    | less => decide
    | atLeast => decide
    | atMost => decide
  intro d hd
  simpa using List.all_eq_true.mp hall d hd

theorem mark_eq_cons (c : Comparison) : ∃ r, c.mark = '_' :: r := by
  cases c with
  | greater => exact ⟨_, rfl⟩
  | less => exact ⟨_, rfl⟩
  | atLeast => exact ⟨_, rfl⟩
  | atMost => exact ⟨_, rfl⟩

theorem not_marked_cons {d : Char} (hd : d ≠ '_') (s : List Char) : ¬ Marked (d :: s) := by
  rintro ⟨c, hc⟩
  obtain ⟨r, hr⟩ := mark_eq_cons c
  rw [hr] at hc
  exact hd (List.cons_prefix_cons.mp hc).1.symm

/-- Whatever stands behind a special character is no part of a mark. -/
theorem marked_append_iff {d : Char} (hd : Pattern.isSpecial d = true) (a b : List Char) :
    Marked (a ++ d :: b) ↔ Marked a := by
  constructor
  · rintro ⟨c, hc⟩
    have hplain : d ∉ c.mark := fun hm =>
      Pattern.ne_of_isSpecial_false (mark_plain c d hm) hd rfl
    have had : a ++ [d] <+: a ++ d :: b := ⟨b, by simp⟩
    rcases List.prefix_or_prefix_of_prefix hc had with h | h
    · rcases List.prefix_concat_iff.mp h with h | h
      · exact absurd (by rw [h]; simp) hplain
      · exact ⟨c, h⟩
    · exact absurd (h.subset (by simp)) hplain
  · rintro ⟨c, hc⟩
    exact ⟨c, hc.trans (List.prefix_append _ _)⟩

/-- Marks are seen through escaping and unescaping. -/
theorem marked_escape_iff (s : List Char) : Marked (Pattern.escape s) ↔ Marked s :=
  exists_congr fun c => Pattern.plain_prefix_escape_iff (mark_plain c) s

theorem marked_unescape_iff (s : List Char) : Marked (Pattern.unescape s) ↔ Marked s :=
  exists_congr fun c => Pattern.plain_prefix_unescape_iff (mark_plain c) s

/-- A mark decides, whatever follows it. -/
theorem ofSource_mark_append (c : Comparison) (s : List Char) :
    Criterion.ofSource (c.mark ++ s) = .comparison c s := by
  cases c with
  | greater => rfl
  | less => rfl
  | atLeast => rfl
  | atMost => rfl

theorem ofSource_of_not_marked {source : List Char} (h : ¬ Marked source) :
    Criterion.ofSource source = .pattern source := by
  have hnone : Comparison.all.find? (fun c => c.mark.isPrefixOf source) = none := by
    rw [List.find?_eq_none]
    intro c _ hc
    exact h ⟨c, List.isPrefixOf_iff_prefix.mp hc⟩
  rw [Criterion.ofSource, hnone]

/-- A pattern is looked for in the text of the value without the blanks at its ends. -/
theorem accepts_pattern {source : List Char} {q : Pattern} (h : Pattern.read source = .ok q)
    (value : Datum) : (Criterion.pattern source).accepts value
      = .ok (Pattern.matchesIn q (Text.strip value.fieldText.toList)) := by
  rw [Criterion.accepts, compilePattern, h]
  rfl

end StatementTagging
