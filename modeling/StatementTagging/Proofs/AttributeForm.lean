import StatementTagging.Proofs.Extraction
import StatementTagging.Proofs.Resaving
import StatementTagging.Proofs.Rule.Reloading

set_option autoImplicit false

/-! # Attributes in an editor

An editor shows a stored attribute as fields and compiles the fields again when they are saved. What the
attribute is for, which field it looks at and which value it checks all stay as they are. The pattern
stays as far as it is recovered, with one exception: an attribute with a value to check is shown as an
extraction between texts that verifies, whatever its pattern is, and so it keeps its pattern only if that
is one of an extraction between texts (`attribute_shown_and_saved`).
-/

namespace StatementTagging

open Pattern
open ExtractionForm (lazyGroup)

/-! ## What is recovered -/

/-- The names of recovered extractions are read back. -/
theorem ofName_decomposeExtraction (p : List Char) :
    ExtractionOperation.ofName (decomposeExtraction p).operation.name
      = (decomposeExtraction p).operation := by
  have hcatalogue := (by decide : ∀ op ∈ ExtractionOperation.catalogue,
    ExtractionOperation.ofName op.name = op)
  rcases decomposeExtraction_cases p with ⟨d, hd, -, hform⟩ | hshape | ⟨v, -, -, -, hform⟩ | hform
  · rw [hform]
    exact (by decide : ∀ d ∈ predefinedPatterns,
      ExtractionOperation.ofName d.key = .predefined d.key) d hd
  · rcases extraction?_cases hshape with h | h | h
    · obtain ⟨c, lead, rest, -, -, -, -, hform⟩ := extractBetween?_sound h
      rw [hform]
      exact hcatalogue .between (by decide)
    · obtain ⟨lead, -, -, -, hform⟩ := (extractAfter?_eq_some_iff _ _).mp h
      rw [hform]
      exact hcatalogue .after (by decide)
    · obtain ⟨rest, -, -, -, hform⟩ := (extractBefore?_eq_some_iff _ _).mp h
      rw [hform]
      exact hcatalogue .before (by decide)
  · rw [hform]
    exact hcatalogue .matching (by decide)
  · rw [hform]
    exact hcatalogue .matching (by decide)

/-! ## Verification -/

/-- The pattern of an extraction between two texts, of which each may be empty. -/
def IsBetween (p : List Char) : Prop := ∃ b a, p = escape b ++ (lazyGroup ++ escape a)

/-- What is recovered from a text, with verification. -/
def verifying (p : List Char) : ExtractionForm :=
  { decomposeExtraction p with operation := .betweenAndVerify }

/-- **A pattern survives verification** exactly if it is one of an extraction between texts. -/
theorem source_verifying_iff {p : List Char} (h : Resaved p) : (verifying p).source = p ↔ IsBetween p := by
  constructor
  · intro hp
    refine ⟨((decomposeExtraction p).before.getD "").toList,
      ((decomposeExtraction p).after.getD "").toList, ?_⟩
    rw [← List.append_assoc]
    exact hp.symm
  · rintro ⟨b, a, rfl⟩
    obtain ⟨b, rfl⟩ : ∃ s : String, s.toList = b := ⟨String.ofList b, String.toList_ofList⟩
    obtain ⟨a, rfl⟩ : ∃ s : String, s.toList = a := ⟨String.ofList a, String.toList_ofList⟩
    rcases (resaved_between_iff b a).mp h with ⟨rfl, rfl⟩ | ⟨ha, hbline, haline⟩
    · exact (by decide : (verifying lazyGroup).source = lazyGroup)
    · by_cases hb : b = ""
      · subst hb
        show (verifying (lazyGroup ++ escape a.toList)).source = lazyGroup ++ escape a.toList
        rw [verifying, decomposeExtraction_of_extraction? (extraction?_before ha haline)]
        rfl
      · rw [verifying, decomposeExtraction_of_extraction? (extraction?_between hb ha hbline haline)]
        exact List.append_assoc _ _ _

/-! ## Attributes -/

/-- The fields of an attribute are texts, those that may be missing are texts or null, and the mark is a
truth value. -/
structure AttributeFields.Textual (s : AttributeFields) : Prop where
  tag : s.tag.IsText
  field : s.field.IsText
  operation : s.parameters.operation.IsText
  before : s.parameters.before.IsOptionalText
  after : s.parameters.after.IsOptionalText
  pattern : s.parameters.pattern.IsOptionalText
  verify : s.parameters.verify.IsOptionalText
  mandatory : ∃ b, s.mandatory = .bool b
  validation : s.validation.IsText

theorem exists_textDatum {d : Datum} (h : d.IsOptionalText) : ∃ s, d = textDatum s := by
  rcases h with rfl | ⟨s, rfl⟩
  · exact ⟨none, rfl⟩
  · exact ⟨some s, rfl⟩

/-- The attribute with a form for its extraction. -/
def AttributeFields.stored (s : AttributeFields) (g : ExtractionForm) (id : Datum) : Attribute where
  tag := s.tag
  expression := {
    field := s.field
    pattern := .text g.compile
    id := id
    description := .text g.description }
  verify := s.parameters.verify.orElse .null
  mandatory := s.mandatory
  validation := s.validation

/-- The fields that show an attribute with a form for its extraction. -/
def Attribute.showing (a : Attribute) (f : ExtractionForm) : AttributeFields where
  tag := a.tag
  field := a.expression.field
  parameters := {
    operation := .text f.operation.name
    before := textDatum f.before
    after := textDatum f.after
    pattern := textDatum f.pattern
    verify := a.verify }
  mandatory := a.mandatory
  validation := a.validation

/-- The extraction that is shown for a pattern; with a value to check, it verifies. -/
def shownFor (verify : Datum) (p : List Char) : ExtractionForm :=
  if verify.truthy then verifying p else decomposeExtraction p

theorem ofName_shownFor (verify : Datum) (p : List Char) :
    ExtractionOperation.ofName (shownFor verify p).operation.name = (shownFor verify p).operation := by
  rw [shownFor]
  split
  · exact (by decide : ExtractionOperation.ofName ExtractionOperation.betweenAndVerify.name
      = .betweenAndVerify)
  · exact ofName_decomposeExtraction p

theorem source_shownFor_iff {verify : Datum} {p : List Char} (hverify : verify = .null ∨ verify.truthy)
    (h : Resaved p) : (shownFor verify p).source = p ↔ verify = .null ∨ IsBetween p := by
  rcases hverify with rfl | htruthy
  · exact iff_of_true h (Or.inl rfl)
  · have hnull : verify ≠ .null := by
      rintro rfl
      cases htruthy
    rw [shownFor, if_pos htruthy, source_verifying_iff h, or_iff_right hnull]

theorem compile_of_form {s : AttributeFields} {g : ExtractionForm} (h : s.parameters.form = .ok g)
    (id : Datum) : s.compile id = .ok (s.stored g id) := by
  rw [AttributeFields.compile, h]
  rfl

theorem compile_of_textual {s : AttributeFields} (h : s.Textual) :
    ∃ g, ∀ id, s.compile id = .ok (s.stored g id) := by
  obtain ⟨tag, field, ⟨op, before, after, pattern, verify⟩, mandatory, validation⟩ := s
  obtain ⟨name, rfl⟩ := h.operation
  obtain ⟨before, rfl⟩ := exists_textDatum h.before
  obtain ⟨after, rfl⟩ := exists_textDatum h.after
  obtain ⟨pattern, rfl⟩ := exists_textDatum h.pattern
  obtain ⟨g, hg, -⟩ := extractionForm_texts name before after pattern verify
  exact ⟨g, compile_of_form hg⟩

theorem fields_stored (s : AttributeFields) (g : ExtractionForm) (id : Datum) :
    (s.stored g id).fields
      = .ok ((s.stored g id).showing (shownFor (s.stored g id).verify g.source)) := by
  rw [Attribute.fields, Attribute.extractionForm, Expression.patternText]
  show Except.ok _ = _
  rw [ExtractionForm.compile, String.toList_ofList]
  rfl

theorem compile_showing (a : Attribute) {f : ExtractionForm}
    (h : ExtractionOperation.ofName f.operation.name = f.operation) :
    ∃ g, g.source = f.source ∧ ∀ id, (a.showing f).compile id = .ok ((a.showing f).stored g id) := by
  obtain ⟨g, hg, hsource⟩ := extractionForm_texts f.operation.name f.before f.after f.pattern a.verify
  rw [h] at hsource
  exact ⟨g, hsource, compile_of_form hg⟩

/-- Two attributes that differ at most in the pattern of their extraction, its description and its
identifier. -/
structure Attribute.SamePurpose (a b : Attribute) : Prop where
  tag : b.tag = a.tag
  mandatory : b.mandatory = a.mandatory
  validation : b.validation = a.validation
  field : b.expression.field = a.expression.field
  verify : b.verify = a.verify

/-- **What an editor keeps of an attribute.** Fields that are texts are compiled, shown again and compiled
again. The tag, the mark, the kind of value, the field and the value to check stay. A pattern that is
stored again as it was when it is recovered stays exactly if there is no value to check or if it is one of
an extraction between texts. -/
theorem attribute_shown_and_saved (s : AttributeFields) (h : s.Textual) (id id' : Datum) :
    ∃ a shown b p, s.compile id = .ok a ∧ a.fields = .ok shown ∧ shown.compile id' = .ok b
      ∧ a.SamePurpose b ∧ a.expression.pattern = .text p
      ∧ (Resaved p.toList →
          (b.expression.pattern = a.expression.pattern ↔ a.verify = .null ∨ IsBetween p.toList)) := by
  obtain ⟨g, hg⟩ := compile_of_textual h
  let a := s.stored g id
  obtain ⟨g', hsource, hg'⟩ := compile_showing a (ofName_shownFor a.verify g.source)
  refine ⟨a, _, _, g.compile, hg id, fields_stored s g id, hg' id',
    ⟨rfl, rfl, rfl, rfl, Datum.orElse_orElse _ _⟩, rfl, ?_⟩
  rw [ExtractionForm.compile, String.toList_ofList]
  intro hresaved
  have hverify : a.verify = .null ∨ a.verify.truthy := by
    show Datum.orElse _ _ = _ ∨ (Datum.orElse _ _).truthy = true
    rw [Datum.orElse]
    split
    · next htruthy => exact Or.inr htruthy
    · exact Or.inl rfl
  rw [← source_shownFor_iff hverify hresaved, ← hsource]
  show Datum.text g'.compile = Datum.text g.compile ↔ _
  rw [Datum.text.injEq, ExtractionForm.compile, ExtractionForm.compile, String.ofList_inj]

theorem attribute_shown_and_saved_slashes :
    let s : AttributeFields := {
      tag := .text "ISIN"
      field := .text "Details"
      parameters := {
        operation := .text "extract_between_and_verify"
        before := .text "C/"
        after := .text "/"
        verify := .text "XS01" } }
    s.Textual ∧ ∃ a shown b p, s.compile .null = .ok a ∧ a.fields = .ok shown
      ∧ shown.compile .null = .ok b ∧ a.SamePurpose b ∧ a.expression.pattern = .text p
      ∧ p = "C/(.*?)/" ∧ Resaved p.toList
      ∧ (b.expression.pattern = a.expression.pattern ↔ a.verify = .null ∨ IsBetween p.toList) := by
  intro s
  have h : s.Textual := ⟨⟨_, rfl⟩, ⟨_, rfl⟩, ⟨_, rfl⟩, Or.inr ⟨_, rfl⟩, Or.inr ⟨_, rfl⟩, Or.inl rfl,
    Or.inr ⟨_, rfl⟩, ⟨_, rfl⟩, ⟨_, rfl⟩⟩
  obtain ⟨a, shown, b, p, ha, hshown, hb, hsame, hpattern, hiff⟩ := attribute_shown_and_saved s h .null .null
  have hp : p = "C/(.*?)/" := by
    obtain ⟨a', ha', hpattern'⟩ : ∃ a', s.compile .null = .ok a'
        ∧ a'.expression.pattern = .text "C/(.*?)/" := ⟨_, rfl, congrArg Datum.text (by decide)⟩
    obtain rfl := Except.ok.inj (ha.symm.trans ha')
    exact Datum.text.inj (hpattern.symm.trans hpattern')
  have hresaved : Resaved p.toList := by
    rw [hp, Resaved]
    decide
  exact ⟨h, a, shown, b, p, ha, hshown, hb, hsame, hpattern, hp, hresaved, hiff hresaved⟩

/-- The rest of the line after a text is stored again as it was, but not with a value to check. -/
theorem attribute_pattern_not_kept :
    let s : AttributeFields := {
      tag := .text "ISIN"
      field := .text "Details"
      parameters := {
        operation := .text "extract_after"
        before := .text "REF:"
        verify := .text "X" } }
    s.Textual ∧ ∃ a shown b, s.compile .null = .ok a ∧ a.fields = .ok shown
      ∧ shown.compile .null = .ok b ∧ Resaved "REF:(.*)".toList
      ∧ a.expression.pattern = .text "REF:(.*)" ∧ b.expression.pattern = .text "REF:(.*?)" :=
  ⟨⟨⟨_, rfl⟩, ⟨_, rfl⟩, ⟨_, rfl⟩, Or.inr ⟨_, rfl⟩, Or.inl rfl, Or.inl rfl, Or.inr ⟨_, rfl⟩, ⟨_, rfl⟩,
    ⟨_, rfl⟩⟩, _, _, _, rfl, rfl, rfl,
    (by decide : (decomposeExtraction "REF:(.*)".toList).source = _), congrArg Datum.text (by decide),
    congrArg Datum.text (by decide)⟩

end StatementTagging
