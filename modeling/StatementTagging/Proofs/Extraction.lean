import StatementTagging.Proofs.Pattern.Capturing
import StatementTagging.Proofs.TextTest

set_option autoImplicit false

/-! # Extractions between texts

What the extractions that an editor offers take out of a row (`extract_takes`). Compiled and run, an
extraction between two texts takes the shortest part of a line between them, at the first place where
there is one; an extraction after a text takes the rest of the line after its first occurrence. The
text of the field is looked at as it is, with the blanks at its ends.
-/

namespace StatementTagging

open Pattern

/-! ## Extractions from rows -/

/-- The parameters that an editor sends for an extraction. -/
def ExtractionForm.fields (f : ExtractionForm) : ExtractionFields :=
  { operation := .text f.operation.name
    before := textDatum f.before
    after := textDatum f.after
    pattern := textDatum f.pattern
    verify := textDatum f.verify }

/-- The text of a field that extractions look at. -/
def extractedText (row : Row) (field : String) : List Char :=
  (Datum.valueAt row field).fieldText.toList

/-- What an extraction between texts takes out of a text. Other extractions are not described. -/
def ExtractionForm.Takes (f : ExtractionForm) (t : List Char) (r : Option (List Char)) : Prop :=
  match f.operation with
  | .between | .betweenAndVerify =>
    ShortestGap (f.before.getD "").toList (f.after.getD "").toList t r
  | .before => ShortestGap [] (f.after.getD "").toList t r
  | .after => LineAfter (f.before.getD "").toList t r
  | .matching | .predefined _ | .other _ => False

theorem ofName_name {op : ExtractionOperation}
    (hop : op ∈ [.between, .betweenAndVerify, .before, .after]) :
    ExtractionOperation.ofName op.name = op :=
  (by decide : ∀ op ∈ [ExtractionOperation.between, .betweenAndVerify, .before, .after],
    ExtractionOperation.ofName op.name = op) op hop

/-- The parameters of an extraction with texts in its places are those of the form. -/
theorem extractionForm_texts (name : String) (before after pattern : Option String) (verify : Datum) :
    ∃ g, ExtractionFields.form ⟨.text name, textDatum before, textDatum after, textDatum pattern, verify⟩
        = .ok g
      ∧ g.source = ExtractionForm.source
          { operation := .ofName name, before := before, after := after, pattern := pattern } := by
  obtain ⟨b, hb, hb'⟩ := escapeOption_of_optionalText before
  obtain ⟨a, ha, ha'⟩ := escapeOption_of_optionalText after
  simp only [ExtractionFields.form, hb, ha]
  cases ExtractionOperation.ofName name with
  | between => exact ⟨_, rfl, by simp only [ExtractionForm.source, hb', ha']⟩
  | betweenAndVerify => exact ⟨_, rfl, by simp only [ExtractionForm.source, hb', ha']⟩
  | after => exact ⟨_, rfl, by simp only [ExtractionForm.source, hb']⟩
  | before => exact ⟨_, rfl, by simp only [ExtractionForm.source, ha']⟩
  | predefined key => exact ⟨_, rfl, rfl⟩
  | other name => exact ⟨_, rfl, rfl⟩
  | matching =>
      refine ⟨_, rfl, ?_⟩
      cases pattern with
      | none => rfl
      | some p =>
          by_cases hp : p = ""
          · subst hp
            rfl
          · have hshown : shownText (textDatum (some p)) = some p := by
              show Option.map Datum.display (if (Datum.text p).truthy then _ else _) = _
              rw [Datum.truthy, if_pos (bne_iff_ne.mpr hp)]
              rfl
            simp only [hshown, ExtractionForm.source]

/-- What an editor sends is compiled to the pattern of the form. -/
theorem extractionForm_fields {f : ExtractionForm}
    (hop : f.operation ∈ [.between, .betweenAndVerify, .before, .after]) :
    ∃ g, f.fields.form = .ok g ∧ g.source = f.source := by
  obtain ⟨g, hg, hsource⟩ :=
    extractionForm_texts f.operation.name f.before f.after f.pattern (textDatum f.verify)
  rw [ofName_name hop] at hsource
  exact ⟨g, hg, hsource⟩

/-- The first group of the pattern of an extraction takes what the extraction is to take. -/
theorem captures_takes {f : ExtractionForm}
    (hop : f.operation ∈ [.between, .betweenAndVerify, .before, .after]) :
    Captures f.source f.Takes := by
  obtain ⟨op, b, a, p, v⟩ := f
  simp only [List.mem_cons, List.not_mem_nil, or_false] at hop
  rcases hop with rfl | rfl | rfl | rfl
  · exact captures_lazy (b.getD "").toList (a.getD "").toList
  · exact captures_lazy (b.getD "").toList (a.getD "").toList
  · exact captures_lazy [] (a.getD "").toList
  · exact captures_greedy (b.getD "").toList

/-- A pattern is looked for in the text of a value that is present, as it is. -/
theorem extract_eq {a : Attribute} {field : String} {source : List Char} {q : Pattern}
    (hfield : a.expression.field = .text field)
    (hsource : a.expression.patternText = .ok source) (hq : read source = .ok q) (row : Row)
    (hrow : (Datum.valueAt row field).truthy = true) :
    a.extract row = .ok ((firstGroup? q (extractedText row field)).map String.ofList) := by
  have hcompiled : compilePattern source = .ok (some q) := by
    rw [compilePattern, hq]
  have hvalue : fieldOf row (.text field) = .ok (Datum.valueAt row field) := rfl
  unfold Attribute.extract
  simp only [hfield, hvalue, hsource, hcompiled, bind, Except.bind, hrow]
  rfl

/-- **Extractions take the text they describe.** Compiled to an attribute and run on a row with a value
that is present in the field, an extraction between texts takes what it describes out of the text of
the field, and nothing if there is no such part. -/
theorem extract_takes (f : ExtractionForm) (tag mandatory validation number : Datum) (field : String)
    (row : Row) (hop : f.operation ∈ [.between, .betweenAndVerify, .before, .after])
    (hrow : (Datum.valueAt row field).truthy = true) :
    ∃ a r, AttributeFields.compile ⟨tag, .text field, f.fields, mandatory, validation⟩ number = .ok a
      ∧ a.extract row = .ok r ∧ f.Takes (extractedText row field) (r.map String.toList) := by
  obtain ⟨g, hg, hsource⟩ := extractionForm_fields hop
  obtain ⟨q, hq, htakes⟩ := captures_takes hop
  have hcompile : AttributeFields.compile ⟨tag, .text field, f.fields, mandatory, validation⟩ number
      = .ok {
          tag := tag
          expression := {
            field := .text field
            pattern := .text g.compile
            id := number
            description := .text g.description }
          verify := f.fields.verify.orElse .null
          mandatory := mandatory
          validation := validation } := by
    rw [AttributeFields.compile, hg]
    rfl
  have hpattern : g.compile.toList = f.source := by
    rw [ExtractionForm.compile, String.toList_ofList, hsource]
  refine ⟨_, _, hcompile, extract_eq rfl ?_ hq row hrow, ?_⟩
  · exact congrArg Except.ok hpattern
  · have hlist : ((firstGroup? q (extractedText row field)).map String.ofList).map String.toList
        = firstGroup? q (extractedText row field) := by
      rw [Option.map_map]
      have hid : String.toList ∘ String.ofList = id := by
        funext s
        exact String.toList_ofList
      rw [hid, Option.map_id, id]
    rw [hlist]
    exact htakes _

theorem extract_takes_second_bracket :
    let f : ExtractionForm := { operation := .between, before := some "[", after := some "]" }
    let row : Row := [("F", .text "a[b\nc[d]e]")]
    f.operation ∈ [.between, .betweenAndVerify, .before, .after]
    ∧ (Datum.valueAt row "F").truthy = true
    ∧ ∃ a r, AttributeFields.compile
          ⟨.text "T", .text "F", f.fields, .bool false, .text "STRING"⟩ .null = .ok a
        ∧ a.extract row = .ok r ∧ f.Takes (extractedText row "F") (r.map String.toList) :=
  ⟨by decide, by decide, extract_takes _ _ _ _ _ _ _ (by decide) (by decide)⟩

example :
    let f : ExtractionForm := { operation := .between, before := some "[", after := some "]" }
    ((do
      let a ← AttributeFields.compile
        ⟨.text "T", .text "F", f.fields, .bool false, .text "STRING"⟩ .null
      a.extract [("F", .text "a[b\nc[d]e]")]) : Except Fault (Option String)).toOption
      = some (some "d") := by
  decide +kernel

end StatementTagging
