import StatementTagging.Editor
import StatementTagging.Proofs.Criterion
import StatementTagging.Proofs.Pattern.Finding
import StatementTagging.Proofs.Text.Blank

set_option autoImplicit false

/-! # Tests of texts

What the tests of texts that an editor offers say about a row. Compiled and run, a test accepts the row
exactly when the text of the field, without the blanks at its ends, is as the test says
(`acceptsRow_iff_says`). The test for not containing is the exception: it misses every occurrence
that begins after a line break (`acceptsRow_doesNotContain`).
-/

namespace StatementTagging

open Pattern

/-! ## Tests on rows -/

/-- The texts as a list if there is one. -/
def textsDatum : Option (List String) → Datum
  | some ws => .list (ws.map .text)
  | none => .null

/-- The parameters that an editor sends for a test. -/
def MatchForm.fields (f : MatchForm) : MatchFields :=
  { operation := .text f.operation.name
    value := .text f.value
    values := textsDatum f.values
    before := textDatum f.before
    after := textDatum f.after }

/-- The test of a field, compiled and run on a row. -/
def MatchForm.acceptsRow (f : MatchForm) (field : String) (row : Row) : Except Fault Bool := do
  (← ConditionFields.compile ⟨.text field, f.fields⟩).accepts row

/-- The text of a field that tests look at: without the blanks at its ends. -/
def searchedText (row : Row) (field : String) : List Char :=
  Text.strip (Datum.valueAt row field).fieldText.toList

theorem partsIfPresent_textsDatum (ws : Option (List String)) :
    (textsDatum ws).partsIfPresent = .ok ((ws.getD []).map .text) := by
  cases ws with
  | none => rfl
  | some ws =>
      cases ws with
      | nil => rfl
      | cons w ws => rfl

theorem mapM_expectText (ws : List String) : (ws.map Datum.text).mapM expectText = .ok ws := by
  induction ws with
  | nil => rfl
  | cons w ws ih =>
      rw [List.map_cons, List.mapM_cons, ih]
      rfl

theorem escapeOption_of_optionalText (s : Option String) :
    ∃ r, optionalText (textDatum s) = .ok r ∧ MatchForm.escapeOption r = MatchForm.escapeOption s := by
  cases s with
  | none => exact ⟨none, rfl, rfl⟩
  | some s =>
      by_cases hs : s = ""
      · subst hs
        exact ⟨none, rfl, rfl⟩
      · refine ⟨some s, ?_, rfl⟩
        rw [optionalText, textDatum, Datum.truthy, if_pos (bne_iff_ne.mpr hs)]
        rfl

/-- What an editor sends is compiled to the pattern of the form. -/
theorem form_fields {f : MatchForm} (hop : f.operation ∈ MatchOperation.catalogue) :
    ∃ g, f.fields.form = .ok g ∧ g.source = f.source := by
  obtain ⟨op, v, ws, a, b⟩ := f
  cases op with
  | beginsWith => exact ⟨_, rfl, rfl⟩
  | endsWith => exact ⟨_, rfl, rfl⟩
  | contains => exact ⟨_, rfl, rfl⟩
  | doesNotContain => exact ⟨_, rfl, rfl⟩
  | equals => exact ⟨_, rfl, rfl⟩
  | doesNotEqual => exact ⟨_, rfl, rfl⟩
  | matchesPattern =>
      refine ⟨⟨.matchesPattern, v, some (ws.getD []), none, none⟩, ?_, ?_⟩
      · show (do
          let values ← (← (textsDatum ws).partsIfPresent).mapM expectText
          return (⟨.matchesPattern, v, some values, none, none⟩ : MatchForm)) = _
        rw [partsIfPresent_textsDatum]
        show ((((ws.getD []).map Datum.text).mapM expectText) >>= _) = _
        rw [mapM_expectText]
        rfl
      · cases ws with
        | none => rfl
        | some ws => rfl
  | extractAndCompare =>
      obtain ⟨a', ha, ha'⟩ := escapeOption_of_optionalText a
      obtain ⟨b', hb, hb'⟩ := escapeOption_of_optionalText b
      refine ⟨⟨.extractAndCompare, v, none, a', b'⟩, ?_, ?_⟩
      · show (do
          let before ← optionalText (textDatum a)
          let after ← optionalText (textDatum b)
          return (⟨.extractAndCompare, v, none, before, after⟩ : MatchForm)) = _
        rw [ha, hb]
        rfl
      · simp only [MatchForm.source, ha', hb']
  | compare c =>
      cases c with
      | greater => exact ⟨_, rfl, rfl⟩
      | less => exact ⟨_, rfl, rfl⟩
      | atLeast => exact ⟨_, rfl, rfl⟩
      | atMost => exact ⟨_, rfl, rfl⟩
  | other name => simp [MatchOperation.catalogue] at hop

/-- A compiled test whose pattern finds the texts with a property accepts the rows whose text has
it. -/
theorem acceptsRow_of_finds {f : MatchForm} (hop : f.operation ∈ MatchOperation.catalogue)
    (hmark : ¬ Marked f.source) {P : List Char → Prop} (hP : Finds f.source P) (field : String)
    (row : Row) (hrow : (Datum.valueAt row field).isNull = false) :
    ∃ b, f.acceptsRow field row = .ok b ∧ (b = true ↔ P (searchedText row field)) := by
  obtain ⟨g, hg, hsource⟩ := form_fields hop
  obtain ⟨q, hq, hfind⟩ := hP
  refine ⟨matchesIn q (searchedText row field), ?_, hfind _⟩
  have hcompile : ConditionFields.compile ⟨.text field, f.fields⟩
      = .ok { field := .text field, pattern := .text g.compile, description := .text g.description } := by
    rw [ConditionFields.compile, hg]
    rfl
  have hpattern : g.compile.toList = f.source := by
    rw [MatchForm.compile, String.toList_ofList, hsource]
  rw [MatchForm.acceptsRow, hcompile]
  show (do
    if (Datum.valueAt row field).isNull then return false
    (Criterion.ofSource g.compile.toList).accepts (Datum.valueAt row field)) = _
  rw [hrow, hpattern, ofSource_of_not_marked hmark]
  exact accepts_pattern hq _

/-! ## What tests say -/

/-- What a test says about a text. Comparisons say nothing about texts. -/
def MatchForm.Says (f : MatchForm) (t : List Char) : Prop :=
  match f.operation with
  | .beginsWith => f.value.toList <+: t
  | .endsWith => f.value.toList <:+ t
  | .contains | .other _ => f.value.toList <:+: t
  | .doesNotContain => ¬ f.value.toList <:+: t
  | .equals => t = f.value.toList
  | .doesNotEqual => t ≠ f.value.toList
  | .matchesPattern =>
    match f.values with
    | some (w :: ws) => ∃ u ∈ w :: ws, u.toList <:+: t
    | _ => f.value.toList <:+: t
  | .extractAndCompare =>
    (f.before.getD "").toList ++ f.value.toList ++ (f.after.getD "").toList <:+: t
  | .compare _ => False

/-- The text that tests look at does not end with a line break. -/
theorem searchedText_ne_append_break (row : Row) (field : String) (r : List Char) :
    searchedText row field ≠ r ++ ['\n'] :=
  Text.strip_ne_append_blank (by decide) _ r

theorem finds_alternatives (f : MatchForm) (hop : f.operation = .matchesPattern) :
    Finds f.source f.Says := by
  obtain ⟨op, v, ws, a, b⟩ := f
  obtain rfl : op = .matchesPattern := hop
  match ws with
  | some (w :: ws) =>
      have h := finds_matchesPattern w.toList (ws.map String.toList)
      rw [← List.map_cons, List.map_map] at h
      refine h.congr fun t => ?_
      show _ ↔ ∃ u ∈ w :: ws, u.toList <:+: t
      simp only [List.mem_map, exists_exists_and_eq_and]
  | some [] => exact (finds_matchesPattern v.toList []).congr fun t => by simp [MatchForm.Says]
  | none => exact (finds_matchesPattern v.toList []).congr fun t => by simp [MatchForm.Says]

/-- The texts of these tests begin with a character of their shape, which is never an underscore. -/
theorem not_marked_source {f : MatchForm}
    (hop : f.operation ∈ [.beginsWith, .doesNotContain, .equals, .doesNotEqual, .extractAndCompare]) :
    ¬ Marked f.source := by
  have hcaret : ∀ s, ¬ Marked ('^' :: s) := not_marked_cons (by decide)
  have hparen : ∀ s, ¬ Marked ('(' :: s) := not_marked_cons (by decide)
  obtain ⟨op, v, ws, a, b⟩ := f
  simp only [List.mem_cons, List.not_mem_nil, or_false] at hop
  rcases hop with rfl | rfl | rfl | rfl | rfl
  · exact hcaret _
  · exact hcaret _
  · exact hcaret _
  · exact hcaret _
  · exact hparen _

/-- **Tests of texts mean what they say.** Compiled and run on a row with a value in the field, such a
test accepts the row exactly when the text of the field is as it says. Three shapes are patterns
only if their text does not begin with the mark of a comparison. -/
theorem acceptsRow_iff_says (f : MatchForm) (field : String) (row : Row)
    (hop : f.operation ∈ [.beginsWith, .endsWith, .contains, .equals, .doesNotEqual,
      .matchesPattern, .extractAndCompare])
    (hmark : f.operation ∈ [.endsWith, .contains, .matchesPattern] → ¬ Marked f.source)
    (hrow : (Datum.valueAt row field).isNull = false) :
    ∃ b, f.acceptsRow field row = .ok b ∧ (b = true ↔ f.Says (searchedText row field)) := by
  have hend := searchedText_ne_append_break row field
  have hcat : f.operation ∈ MatchOperation.catalogue :=
    (by decide : ∀ op ∈ [MatchOperation.beginsWith, .endsWith, .contains, .equals, .doesNotEqual,
      .matchesPattern, .extractAndCompare], op ∈ MatchOperation.catalogue) _ hop
  have hfinds : ∀ P : List Char → Prop, ¬ Marked f.source → Finds f.source P →
      (P (searchedText row field) ↔ f.Says (searchedText row field)) →
      ∃ b, f.acceptsRow field row = .ok b ∧ (b = true ↔ f.Says (searchedText row field)) := by
    intro P hmarked hP hsays
    obtain ⟨b, hb, h⟩ := acceptsRow_of_finds hcat hmarked hP field row hrow
    exact ⟨b, hb, h.trans hsays⟩
  obtain ⟨op, v, ws, a, b⟩ := f
  simp only [List.mem_cons, List.not_mem_nil, or_false] at hop
  rcases hop with rfl | rfl | rfl | rfl | rfl | rfl | rfl
  · exact hfinds _ (not_marked_source (by simp)) (finds_beginsWith v.toList) Iff.rfl
  · -- a dollar sign also holds before a line break at the end, but the text has none there
    refine hfinds _ (hmark (by simp)) (finds_endsWith v.toList) ⟨?_, Or.inl⟩
    rintro (h | ⟨s, hs⟩)
    · exact h
    · exact absurd hs.symm (by rw [← List.append_assoc]; exact hend _)
  · exact hfinds _ (hmark (by simp)) (finds_contains v.toList) Iff.rfl
  · refine hfinds _ (not_marked_source (by simp)) (finds_equals v.toList) ⟨?_, Or.inl⟩
    exact fun h => h.resolve_right (hend _)
  · refine hfinds _ (not_marked_source (by simp)) (finds_doesNotEqual v.toList) ⟨And.left, ?_⟩
    exact fun h => ⟨h, hend _⟩
  · exact hfinds _ (hmark (by simp)) (finds_alternatives _ rfl) Iff.rfl
  · exact hfinds _ (not_marked_source (by simp))
      (finds_extractAndCompare (a.getD "").toList v.toList (b.getD "").toList) Iff.rfl

theorem acceptsRow_iff_says_metacharacters :
    let f : MatchForm := { operation := .matchesPattern, values := some ["A|", "B.C$"] }
    let row : Row := [("F", .text " XB.C$ ")]
    f.operation ∈ [.beginsWith, .endsWith, .contains, .equals, .doesNotEqual, .matchesPattern,
      .extractAndCompare]
    ∧ (f.operation ∈ [.endsWith, .contains, .matchesPattern] → ¬ Marked f.source)
    ∧ (Datum.valueAt row "F").isNull = false
    ∧ ∃ b, f.acceptsRow "F" row = .ok b ∧ (b = true ↔ f.Says (searchedText row "F")) :=
  ⟨by decide, by decide +kernel, rfl,
    acceptsRow_iff_says _ _ _ (by decide) (by decide +kernel) rfl⟩

/-! ## The test for not containing -/

/-- **The test for not containing looks at the first line.** It accepts the row exactly when every
occurrence of its value in the text of the field begins after a line break. So it is right exactly
if the value does not occur or some occurrence begins on the first line. -/
theorem acceptsRow_doesNotContain (f : MatchForm) (field : String) (row : Row)
    (hop : f.operation = .doesNotContain) (hrow : (Datum.valueAt row field).isNull = false) :
    ∃ b, f.acceptsRow field row = .ok b
      ∧ (b = true ↔ ∀ a c, searchedText row field = a ++ f.value.toList ++ c → '\n' ∈ a)
      ∧ ((b = true ↔ f.Says (searchedText row field)) ↔
          (f.value.toList <:+: searchedText row field →
            ∃ a c, searchedText row field = a ++ f.value.toList ++ c ∧ '\n' ∉ a)) := by
  have hcat : f.operation ∈ MatchOperation.catalogue := by rw [hop]; decide
  have hmark : ¬ Marked f.source := not_marked_source (by rw [hop]; simp)
  obtain ⟨op, v, ws, a, b⟩ := f
  obtain rfl : op = .doesNotContain := hop
  obtain ⟨r, hr, hfirst⟩ := acceptsRow_of_finds hcat hmark (finds_doesNotContain v.toList) field row
    hrow
  refine ⟨r, hr, hfirst, ?_⟩
  show ((r = true ↔ ¬ v.toList <:+: searchedText row field) ↔ _)
  rw [hfirst]
  constructor
  · intro h hv
    by_contra hnone
    refine h.mp ?_ hv
    intro a c hac
    by_contra hn
    exact hnone ⟨a, c, hac, hn⟩
  · intro h
    constructor
    · intro hall hv
      obtain ⟨a, c, hac, hn⟩ := h hv
      exact hn (hall a c hac)
    · intro hv a c hac
      exact absurd ⟨a, c, hac.symm⟩ hv

theorem acceptsRow_doesNotContain_two_lines :
    let f : MatchForm := { operation := .doesNotContain, value := "FEE" }
    let row : Row := [("F", .text "TRANSFER\nBANK FEE")]
    f.operation = .doesNotContain ∧ (Datum.valueAt row "F").isNull = false
    ∧ ∃ b, f.acceptsRow "F" row = .ok b
      ∧ (b = true ↔ ∀ a c, searchedText row "F" = a ++ f.value.toList ++ c → '\n' ∈ a)
      ∧ ((b = true ↔ f.Says (searchedText row "F")) ↔
          (f.value.toList <:+: searchedText row "F" →
            ∃ a c, searchedText row "F" = a ++ f.value.toList ++ c ∧ '\n' ∉ a)) :=
  ⟨rfl, rfl, acceptsRow_doesNotContain _ _ _ rfl rfl⟩

/-- A value on the second line is missed. -/
theorem doesNotContain_misses_second_line :
    let f : MatchForm := { operation := .doesNotContain, value := "FEE" }
    let row : Row := [("F", .text "TRANSFER\nBANK FEE")]
    (f.acceptsRow "F" row).toOption = some true ∧ ¬ f.Says (searchedText row "F") := by
  refine ⟨by decide +kernel, ?_⟩
  intro h
  exact h ⟨"TRANSFER\nBANK ".toList, [], by decide +kernel⟩

end StatementTagging
