import StatementTagging.Proofs.TextTest

set_option autoImplicit false

/-! # Patterns and comparisons in one slot

A rule keeps patterns and comparisons as texts in one place, and only the text tells them apart. Reading
such a text never loses anything (`source_ofSource`), and a text is read as a pattern exactly if it does
not begin with the mark of a comparison (`ofSource_eq_pattern_iff`).

So a compiled test is read as what it was compiled as unless its pattern begins with a mark
(`ofSource_compile_iff`). Five shapes begin with a character of their own and cannot. The others begin
with the text of the user, and escaping does not touch a mark in it, since no mark holds a special
character.
-/

namespace StatementTagging

open Pattern

/-! ## Reading the slot -/

/-- **Reading keeps the text**: whatever a text is read as, its text is the one that was read. -/
theorem source_ofSource (s : List Char) : (Criterion.ofSource s).source = s := by
  by_cases h : Marked s
  · obtain ⟨c, t, rfl⟩ := h
    rw [ofSource_mark_append]
    rfl
  · rw [ofSource_of_not_marked h]
    rfl

theorem ofSource_eq_pattern_iff (s : List Char) :
    Criterion.ofSource s = .pattern s ↔ ¬ Marked s := by
  constructor
  · rintro h ⟨c, t, rfl⟩
    rw [ofSource_mark_append] at h
    exact Criterion.noConfusion h
  · exact ofSource_of_not_marked

/-! ## What a test is compiled as -/

/-- The criterion that a test stands for: a comparison with its stripped threshold, or a pattern. -/
def MatchForm.criterion (f : MatchForm) : Criterion :=
  match f.operation with
  | .compare c => .comparison c (Text.strip f.value.toList)
  | _ => .pattern f.source

/-- The text of the user stands at the front of the pattern of the test and begins with a mark. -/
def MatchForm.OpensWithMark (f : MatchForm) : Prop :=
  match f.operation with
  | .endsWith | .contains | .other _ => Marked f.value.toList
  | .matchesPattern => Marked (f.alternatives.headD "").toList
  | _ => False

/-- A bar is special, so only the first of several alternatives can begin with a mark. -/
theorem marked_alternatives_iff (v : String) (vs : List String) :
    Marked (List.intercalate ['|'] ((v :: vs).map fun w => escape w.toList)) ↔ Marked v.toList := by
  rw [← marked_escape_iff v.toList]
  cases vs with
  | nil => simp [List.intercalate]
  | cons w vs =>
      have hbar : List.intercalate ['|'] ((v :: w :: vs).map fun u => escape u.toList)
          = escape v.toList ++ '|' :: List.intercalate ['|'] ((w :: vs).map fun u => escape u.toList) := by
        simp [List.intercalate]
      rw [hbar]
      exact marked_append_iff (by decide) _ _

theorem exists_alternatives_eq_cons (f : MatchForm) : ∃ v vs, f.alternatives = v :: vs := by
  obtain ⟨op, v, ws, a, b⟩ := f
  match ws with
  | some (w :: ws) => exact ⟨w, ws, rfl⟩
  | some [] => exact ⟨v, [], rfl⟩
  | none => exact ⟨v, [], rfl⟩

/-- The pattern of a test begins with a mark exactly if the text of the user at its front does. -/
theorem marked_source_iff {f : MatchForm} (hop : ∀ c, f.operation ≠ .compare c) :
    Marked f.source ↔ f.OpensWithMark := by
  obtain ⟨op, v, ws, a, b⟩ := f
  cases op with
  | compare c => exact absurd rfl (hop c)
  | beginsWith | doesNotContain | equals | doesNotEqual | extractAndCompare =>
      exact iff_of_false (not_marked_source (by simp)) id
  | endsWith =>
      -- the dollar sign behind the value is special
      show Marked (escape v.toList ++ ['$']) ↔ Marked v.toList
      rw [marked_append_iff (by decide), marked_escape_iff]
  | contains => exact marked_escape_iff v.toList
  | other name => exact marked_escape_iff v.toList
  | matchesPattern =>
      obtain ⟨w, rest, hw⟩ := exists_alternatives_eq_cons ⟨.matchesPattern, v, ws, a, b⟩
      simp only [MatchForm.source, MatchForm.OpensWithMark, hw]
      exact marked_alternatives_iff w rest

/-- **Tests and the mark of a comparison**: a compiled test is read as the criterion that it stands for
(a comparison with its code and the stripped threshold, or a pattern of exactly the compiled text)
if and only if no text of the user that begins with a mark stands at the front of its pattern; and
reading any text at all keeps it. -/
theorem ofSource_compile_iff (f : MatchForm) :
    (Criterion.ofSource f.compile.toList = f.criterion ↔ ¬ f.OpensWithMark)
    ∧ ∀ s : List Char, (Criterion.ofSource s).source = s := by
  refine ⟨?_, source_ofSource⟩
  rw [MatchForm.compile, String.toList_ofList]
  by_cases hc : ∃ c, f.operation = .compare c
  · obtain ⟨c, hc⟩ := hc
    have hread : Criterion.ofSource f.source = f.criterion := by
      simp only [MatchForm.source, MatchForm.criterion, hc]
      exact ofSource_mark_append c _
    have hopens : ¬ f.OpensWithMark := by simp only [MatchForm.OpensWithMark, hc, not_false_eq_true]
    exact iff_of_true hread hopens
  · have hop : ∀ c, f.operation ≠ .compare c := fun c h => hc ⟨c, h⟩
    have hpattern : f.criterion = .pattern f.source := by
      rw [MatchForm.criterion]
      split
      · next c h => exact absurd h (hop c)
      · rfl
    rw [hpattern, ofSource_eq_pattern_iff, marked_source_iff hop]

/-- A test for containing a text that begins with a mark becomes a comparison, and rejects a row whose
text has the value in it. -/
theorem contains_mark_is_compared :
    let f : MatchForm := { operation := .contains, value := "__NUMERIC_GT:5" }
    let row : Row := [("F", .text "SEE __NUMERIC_GT:5")]
    f.criterion = .pattern "__NUMERIC_GT:5".toList
    ∧ Criterion.ofSource f.compile.toList = .comparison .greater ['5']
    ∧ f.Says (searchedText row "F")
    ∧ (f.acceptsRow "F" row).toOption = some false := by
  refine ⟨by decide +kernel, by decide +kernel, ?_, by decide +kernel⟩
  exact ⟨"SEE ".toList, [], by decide +kernel⟩

end StatementTagging
