import StatementTagging.Analysis
import StatementTagging.Proofs.Rule.Loading
import StatementTagging.Proofs.Rule.Sameness

set_option autoImplicit false

/-! # Saving changes nothing that rules do

A collection that is built in memory may hold empty texts where a saved document has none, so loading a
saved collection does not give the same libraries but their normal form (`Document.load_render`).
An analysis cannot tell the difference: a date, a description or a value for verification counts only
where it is present, and the normal form keeps whatever is present (`orElse_null_cases`). So every step
of the analysis of the normal form is that of the original, up to the definitions it lists, which are
listed in normal form (`analyzeRow_reloaded`).
-/

namespace StatementTagging

/-! ## Declared types -/

/-- The parts of an expression have their declared types. -/
structure Expression.Typed (e : Expression) : Prop where
  field : e.field.IsText
  pattern : e.pattern.IsText
  id : e.id.IsOptionalText
  description : e.description.IsOptionalText
  prompt : e.prompt.IsOptionalText

/-- The parts of an attribute have their declared types. -/
structure Attribute.Typed (a : Attribute) : Prop where
  tag : a.tag.IsText
  expression : a.expression.Typed
  verify : a.verify.IsOptionalText
  mandatory : ∃ b, a.mandatory = .bool b
  validation : a.validation.IsText
  listTag : a.listTag.IsOptionalText

/-- The parts of a definition have their declared types. -/
structure Definition.Typed (d : Definition) : Prop where
  id : d.id.IsName
  tag : d.tag.IsText
  status : d.status.IsText
  certainty : d.certainty.IsText
  start : d.validity.start.IsOptionalText
  stop : d.validity.stop.IsOptionalText
  rules : ∀ group ∈ d.rules, ∀ e ∈ group, e.Typed
  attributes : ∀ a ∈ d.attributes, a.Typed

/-- The parts of a library have their declared types. -/
structure Library.Typed (l : Library) : Prop where
  id : l.id = .null ∨ l.id.IsName
  definitions : ∀ d ∈ l.definitions, d.Typed

/-! ## Typed rules can be saved -/

theorem Datum.IsName.wellKeyed {d : Datum} (h : d.IsName) : d.WellKeyed := by
  rcases h.cases with ⟨s, rfl⟩ | ⟨b, rfl⟩ | ⟨n, rfl⟩
  · exact .text s
  · exact .bool b
  · exact .int n

theorem Expression.Typed.keyed {e : Expression} (h : e.Typed) : e.Keyed :=
  ⟨h.field.wellKeyed, h.pattern.wellKeyed, h.id.wellKeyed, h.description.wellKeyed, h.prompt.wellKeyed⟩

theorem Attribute.Typed.keyed {a : Attribute} (h : a.Typed) : a.Keyed := by
  obtain ⟨b, hb⟩ := h.mandatory
  exact ⟨h.tag.wellKeyed, h.expression.keyed, h.verify.wellKeyed, hb ▸ .bool b, h.validation.wellKeyed,
    h.listTag.wellKeyed⟩

theorem Definition.Typed.keyed {d : Definition} (h : d.Typed) : d.Keyed :=
  ⟨h.id.wellKeyed, h.tag.wellKeyed, h.status.wellKeyed, h.certainty.wellKeyed, h.start.wellKeyed,
    h.stop.wellKeyed, fun group hgroup e he => (h.rules group hgroup e he).keyed,
    fun a ha => (h.attributes a ha).keyed⟩

theorem Library.Typed.keyed {l : Library} (h : l.Typed) : l.Keyed := by
  refine ⟨?_, fun d hd => (h.definitions d hd).keyed⟩
  rcases h.id with hnull | hname
  · exact hnull ▸ .null
  · exact hname.wellKeyed

/-! ## What an analysis looks at -/

/-- The normal form of a datum is the datum itself if it is present, and otherwise not present either. -/
theorem orElse_null_cases (d : Datum) :
    d.orElse .null = d ∨ d.truthy = false ∧ d.orElse .null = .null := by
  by_cases h : d.truthy = true
  · exact Or.inl (if_pos h)
  · exact Or.inr ⟨Bool.not_eq_true _ |>.mp h, if_neg h⟩

/-- A value that is looked at only if it is present looks the same in normal form. -/
theorem ite_orElse_null {α : Type} (d : Datum) (f : Datum → α) (other : α) :
    (if (d.orElse .null).truthy then f (d.orElse .null) else other) = if d.truthy then f d else other := by
  rcases orElse_null_cases d with h | ⟨hd, h⟩
  · rw [h]
  · rw [h, hd]
    rfl

theorem Expression.Typed.reloaded_pattern {e : Expression} (h : e.Typed) :
    e.reloaded.pattern = e.pattern := by
  obtain ⟨s, hs⟩ := h.pattern
  show e.pattern.orElse (.text "") = e.pattern
  rw [hs, Datum.orElse]
  split
  · rfl
  · next hempty =>
      have : s = "" := by simpa [Datum.truthy] using hempty
      rw [this]

theorem patternText_reloaded {e : Expression} (h : e.Typed) :
    e.reloaded.patternText = e.patternText := by
  rw [Expression.patternText, Expression.patternText, h.reloaded_pattern]

/-! ## Which definitions apply -/

theorem includes_reloaded (v : Validity) (today : String) :
    v.reloaded.includes today = v.includes today := by
  rw [Validity.includes, Validity.includes, Validity.reloaded]
  dsimp only
  -- a date that is absent is not compared, whichever way it is absent
  rcases orElse_null_cases v.start with hstart | ⟨habsent, hstart⟩ <;>
    rcases orElse_null_cases v.stop with hstop | ⟨habsent', hstop⟩
  · rw [hstart, hstop]
  · rw [hstart, hstop, habsent']
    rfl
  · rw [hstart, hstop, habsent]
    rfl
  · rw [hstart, hstop, habsent, habsent']
    rfl

theorem accepts_reloaded {e : Expression} (h : e.Typed) (row : Row) :
    e.reloaded.accepts row = e.accepts row := by
  rw [Expression.accepts, Expression.accepts, patternText_reloaded h]
  rfl

theorem groupAccepts_reloaded {group : List Expression} (h : ∀ e ∈ group, e.Typed) (row : Row) :
    groupAccepts (group.map Expression.reloaded) row = groupAccepts group row := by
  induction group with
  | nil => rfl
  | cons e r ih =>
      obtain ⟨he, hr⟩ := List.forall_mem_cons.mp h
      rw [List.map_cons, groupAccepts, groupAccepts, accepts_reloaded he, ih hr]

theorem someGroupAccepts_reloaded {rules : RuleSet} (h : ∀ group ∈ rules, ∀ e ∈ group, e.Typed) (row : Row) :
    someGroupAccepts (RuleSet.reloaded rules) row = someGroupAccepts rules row := by
  induction rules with
  | nil => rfl
  | cons group r ih =>
      obtain ⟨hgroup, hr⟩ := List.forall_mem_cons.mp h
      rw [RuleSet.reloaded] at ih
      rw [RuleSet.reloaded, List.map_cons, someGroupAccepts, someGroupAccepts, groupAccepts_reloaded hgroup,
        ih hr]

theorem Definition.Typed.applies_reloaded {d : Definition} (h : d.Typed) (row : Row) (today : String) :
    d.reloaded.applies row today = d.applies row today := by
  have hrules : RuleSet.accepts (RuleSet.reloaded d.rules) row = RuleSet.accepts d.rules row := by
    rw [RuleSet.accepts, RuleSet.accepts, someGroupAccepts_reloaded h.rules, RuleSet.reloaded,
      List.isEmpty_map]
  rw [Definition.applies, Definition.applies, Definition.reloaded]
  dsimp only
  rw [includes_reloaded, hrules]

/-! ## What they contribute -/

/-- A loop over changed items does what the loop over the items does, if every round does. -/
theorem foldlM_map_of_forall {α σ τ ε : Type} {f : σ → α → Except ε σ} {g : τ → α → Except ε τ}
    (change : α → α) (result : σ → τ) {items : List α}
    (h : ∀ a ∈ items, ∀ s, g (result s) (change a) = (f s a).map result) (s : σ) :
    (items.map change).foldlM g (result s) = (items.foldlM f s).map result := by
  induction items generalizing s with
  | nil => rfl
  | cons a r ih =>
      obtain ⟨ha, hr⟩ := List.forall_mem_cons.mp h
      rw [List.map_cons, List.foldlM_cons, List.foldlM_cons, ha]
      cases f s a with
      | error e => rfl
      | ok s' => exact ih hr s'

theorem foldlM_map_congr {α σ ε : Type} {f g : σ → α → Except ε σ} (change : α → α) {items : List α}
    (h : ∀ a ∈ items, ∀ s, g s (change a) = f s a) (s : σ) :
    (items.map change).foldlM g s = items.foldlM f s := by
  rw [List.foldlM_map]
  exact foldlM_congr h s

theorem extract_reloaded {a : Attribute} (h : a.Typed) (row : Row) :
    a.reloaded.extract row = a.extract row := by
  have hpattern : a.reloaded.expression.patternText = a.expression.patternText :=
    patternText_reloaded h.expression
  rw [Attribute.extract, Attribute.extract, hpattern]
  rfl

theorem extractAll_reloaded {attributes : List Attribute} (h : ∀ a ∈ attributes, a.Typed) (row : Row) :
    extractAll (attributes.map Attribute.reloaded) row = extractAll attributes row := by
  refine foldlM_map_congr Attribute.reloaded (fun a ha table => ?_) []
  rw [extract_reloaded (h a ha)]
  rfl

theorem verifyAll_reloaded {attributes : List Attribute} (h : ∀ a ∈ attributes, a.Typed)
    (extracted : TagTable Datum) :
    verifyAll (attributes.map Attribute.reloaded) extracted = verifyAll attributes extracted := by
  refine foldlM_map_congr Attribute.reloaded (fun a ha table => ?_) []
  have hpattern : a.reloaded.expression.pattern = a.expression.pattern :=
    (h a ha).expression.reloaded_pattern
  have hverify : a.reloaded.verify = a.verify.orElse .null := rfl
  have htag : a.reloaded.tag = a.tag := rfl
  rw [hpattern, hverify, htag]
  refine congrArg (TagTable.find extracted a.tag >>= ·) (funext fun value => ?_)
  exact ite_orElse_null a.verify
    (fun verify => TagTable.put table a.tag ((value.getD .null).same verify)) _

/-- The analysis with the definitions that it lists in normal form. -/
def Analysis.reloaded (a : Analysis) : Analysis :=
  { a with matched := a.matched.map Definition.reloaded }

theorem Definition.Typed.add_reloaded {d : Definition} (h : d.Typed) (a : Analysis) (row : Row) :
    a.reloaded.add d.reloaded row = (a.add d row).map Analysis.reloaded := by
  have hattributes : d.reloaded.attributes = d.attributes.map Attribute.reloaded := rfl
  have hmatched : a.reloaded.matched ++ [d.reloaded] = (a.matched ++ [d]).map Definition.reloaded := by
    rw [List.map_append]
    rfl
  rw [Analysis.add, Analysis.add, hattributes, extractAll_reloaded h.attributes]
  simp only [verifyAll_reloaded h.attributes, hmatched]
  -- the steps are now the same on both sides, so they fail on both sides or on none
  cases extractAll d.attributes row with
  | error f => rfl
  | ok extracted =>
      show (a.attributes.put d.tag extracted >>= _) = Except.map _ (a.attributes.put d.tag extracted >>= _)
      cases a.attributes.put d.tag extracted with
      | error f => rfl
      | ok attributes =>
          show (verifyAll d.attributes _ >>= _) = Except.map _ (verifyAll d.attributes _ >>= _)
          generalize verifyAll d.attributes _ = verified
          cases verified with
          | error f => rfl
          | ok checks =>
              show (a.verified.put d.tag checks >>= _) = Except.map _ (a.verified.put d.tag checks >>= _)
              cases a.verified.put d.tag checks with
              | error f => rfl
              | ok verified => rfl

theorem Library.Typed.addLibrary_reloaded {l : Library} (h : l.Typed) (today : String) (row : Row)
    (a : Analysis) : Analysis.addLibrary today row a.reloaded l.reloaded
      = (Analysis.addLibrary today row a l).map Analysis.reloaded := by
  have hcontext : l.reloaded.context = l.context := rfl
  rw [Analysis.addLibrary, Analysis.addLibrary, hcontext]
  split
  · refine foldlM_map_of_forall Definition.reloaded Analysis.reloaded (fun d hd a => ?_) a
    rw [(h.definitions d hd).applies_reloaded]
    cases d.applies row today with
    | error f => rfl
    | ok b =>
        cases b with
        | false => rfl
        | true => exact (h.definitions d hd).add_reloaded a row
  · rfl

/-- **The analysis of libraries in normal form** is that of the libraries. -/
theorem analyzeRow_reloaded {libraries : List Library} (h : ∀ l ∈ libraries, l.Typed) (today : String)
    (row : Row) : analyzeRow (libraries.map Library.reloaded) today row
      = (analyzeRow libraries today row).map Analysis.reloaded :=
  foldlM_map_of_forall Library.reloaded Analysis.reloaded
    (fun l hl a => (h l hl).addLibrary_reloaded today row a) {}

/-! ## Saving and loading -/

/-- What an analysis finds: tags, values, outcomes of checks, and the identifiers of the definitions that
apply. -/
structure Findings where
  tags : List Datum
  attributes : TagTable (TagTable (Option String))
  verified : TagTable (TagTable Bool)
  matchedIds : List Datum

/-- The findings of an analysis. -/
def Analysis.findings (a : Analysis) : Findings :=
  ⟨a.tags, a.attributes, a.verified, a.matched.map (·.id)⟩

theorem findings_reloaded (a : Analysis) : a.reloaded.findings = a.findings := by
  rw [Analysis.findings, Analysis.reloaded, List.map_map]
  rfl

/-- **A collection that is saved and loaded again does what it did**: every analysis has the same findings
or fails with the same fault. -/
theorem analysis_survives_saving {libraries : List Library} (h : ∀ l ∈ libraries, l.Typed) :
    ∃ loaded, Document.load (Document.render libraries) = .ok loaded
      ∧ ∀ today row, (analyzeRow loaded today row).map Analysis.findings
        = (analyzeRow libraries today row).map Analysis.findings := by
  refine ⟨_, Document.load_render fun l hl => (h l hl).keyed, fun today row => ?_⟩
  rw [analyzeRow_reloaded h]
  cases analyzeRow libraries today row with
  | error f => rfl
  | ok a => exact congrArg Except.ok (findings_reloaded a)

/-- Empty texts in all optional parts, and an empty group. -/
theorem analysis_survives_saving_empty_texts :
    let empty : Datum := .text ""
    let account : Attribute :=
      { tag := empty, expression := ⟨empty, empty, empty, empty, empty⟩, verify := empty,
        validation := empty, listTag := empty }
    let libraries : List Library :=
      [⟨[], [{ id := .int 7, tag := empty, validity := ⟨empty, empty⟩, rules := [[]],
               attributes := [account] }], empty⟩]
    ∃ loaded, Document.load (Document.render libraries) = .ok loaded
      ∧ ∀ today row, (analyzeRow loaded today row).map Analysis.findings
        = (analyzeRow libraries today row).map Analysis.findings := by
  intro empty account libraries
  have hempty : empty.IsText := ⟨"", rfl⟩
  have hexpression : account.expression.Typed := ⟨hempty, hempty, .inr hempty, .inr hempty, .inr hempty⟩
  have haccount : account.Typed :=
    ⟨hempty, hexpression, .inr hempty, ⟨false, rfl⟩, hempty, .inr hempty⟩
  refine analysis_survives_saving (List.forall_mem_singleton.mpr ⟨Or.inr (by decide), ?_⟩)
  refine List.forall_mem_singleton.mpr ⟨by decide, hempty, ⟨_, rfl⟩, ⟨_, rfl⟩, .inr hempty, .inr hempty,
    ?_, List.forall_mem_singleton.mpr haccount⟩
  exact List.forall_mem_singleton.mpr fun e he => absurd he List.not_mem_nil

end StatementTagging
