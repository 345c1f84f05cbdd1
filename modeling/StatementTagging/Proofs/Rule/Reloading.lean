import StatementTagging.Proofs.Datum
import StatementTagging.Proofs.Outcome
import StatementTagging.Rule.Definition

set_option autoImplicit false

/-! # Reading the datum of a rule

Writing a rule as a datum and reading it again always succeeds, and gives the rule in normal form: what
counts as absent becomes null, an absent pattern becomes the empty one, and a mandatory mark becomes a
truth value. The normal form is given part by part (`reloaded`), and `ofDatum_toDatum` says for each part
that it is what is read. Nothing is asked of the rule, so any data may stand in its parts. For the text of a rule
the keys of its data must be distinct (`Keyed`); its own keys always are.
-/

namespace StatementTagging

/-! ## Parts of data -/

theorem Datum.orElse_self (d : Datum) : d.orElse d = d := ite_self d

theorem Datum.orElse_assoc (a b c : Datum) : (a.orElse b).orElse c = a.orElse (b.orElse c) := by
  by_cases h : a.truthy = true
  · have ha : ∀ other, a.orElse other = a := fun _ => if_pos h
    rw [ha, ha, ha]
  · have ha : ∀ other, a.orElse other = other := fun _ => if_neg h
    rw [ha, ha]

theorem Datum.orElse_orElse (d other : Datum) : (d.orElse other).orElse other = d.orElse other := by
  rw [Datum.orElse_assoc, Datum.orElse_self]

theorem Datum.partsIfPresent_list (items : List Datum) :
    (Datum.list items).partsIfPresent = .ok items := by
  cases items with
  | nil => rfl
  | cons d r => rfl

/-! ## Expressions -/

theorem descriptionOf_detailsOf (description : Datum) :
    descriptionOf (detailsOf description) = .ok (description.orElse .null) := by
  rw [detailsOf, Datum.orElse]
  by_cases h : description.truthy = true
  · rw [if_pos h, if_pos h]
    have hpresent : ∀ d, (Datum.list [d]).truthy = true := fun _ => rfl
    have hsame : (Datum.text "en").same (.text "en") = true := by decide
    simp [descriptionOf, hpresent, Datum.parts, Datum.field, Datum.valueAt, List.lookup_cons, hsame, h,
      bind, Except.bind, pure, Except.pure]
  · rw [if_neg h, if_neg h]
    rfl

/-- The expression that is read from the datum of an expression. -/
def Expression.reloaded (e : Expression) : Expression :=
  { e with pattern := e.pattern.orElse (.text ""), description := e.description.orElse .null }

theorem Expression.ofDatum_entries (e : Expression) (others : List (String × Datum)) :
    Expression.ofDatum (.record (e.entries ++ others)) = .ok e.reloaded := by
  show (do
    let description ← descriptionOf (detailsOf e.description)
    return (⟨e.field, e.pattern.orElse (.text ""), e.id, description, e.prompt⟩ : Expression)) = _
  rw [descriptionOf_detailsOf]
  rfl

theorem Expression.ofDatum_toDatum (e : Expression) : Expression.ofDatum e.toDatum = .ok e.reloaded := by
  have h := e.ofDatum_entries []
  rwa [List.append_nil] at h

/-! ## Attributes -/

/-- The attribute that is read from the datum of an attribute. -/
def Attribute.reloaded (a : Attribute) : Attribute :=
  { a with
    expression := a.expression.reloaded
    verify := a.verify.orElse .null
    mandatory := .bool a.mandatory.truthy
    validation := a.validation.orElse (.text "STRING") }

theorem Attribute.expressionOfDatum_entries (a : Attribute) :
    Attribute.expressionOfDatum (.record (a.expression.entries
        ++ if a.verify.truthy then [("VerifyValue", a.verify)] else []))
      = .ok (a.expression.reloaded, a.verify.orElse .null) := by
  have hverify : (Datum.valueAt (a.expression.entries
      ++ if a.verify.truthy then [("VerifyValue", a.verify)] else []) "VerifyValue").orElse .null
      = a.verify.orElse .null := by
    by_cases h : a.verify.truthy = true
    · rw [if_pos h]
      rfl
    · rw [if_neg h, Datum.orElse, Datum.orElse, if_neg h]
      rfl
  rw [Attribute.expressionOfDatum, Expression.ofDatum_entries, ← hverify]
  rfl

theorem Attribute.ofDatum_toDatum (a : Attribute) : Attribute.ofDatum a.toDatum = .ok a.reloaded := by
  show (Attribute.expressionOfDatum (.record (a.expression.entries
    ++ if a.verify.truthy then [("VerifyValue", a.verify)] else [])) >>= _) = _
  rw [Attribute.expressionOfDatum_entries]
  rfl

/-! ## Contexts and rule sets -/

theorem Context.ofDatum_toDatum (c : Context) : Context.ofDatum c.toDatum = .ok c := by
  rw [Context.ofDatum, Context.toDatum, Datum.partsIfPresent_list]
  have hentry : ∀ e : ContextEntry, ContextEntry.ofDatum e.toDatum = .ok (id e) := fun _ => rfl
  exact (mapM_map hentry c).trans (congrArg Except.ok c.map_id)

/-- The rule set that is read from the datum of a rule set. -/
def RuleSet.reloaded (rules : RuleSet) : RuleSet := rules.map (·.map Expression.reloaded)

theorem RuleSet.ofDatum_toDatum (rules : RuleSet) : RuleSet.ofDatum rules.toDatum = .ok rules.reloaded := by
  rw [RuleSet.ofDatum, RuleSet.toDatum, Datum.partsIfPresent_list]
  have hgroup : ∀ group : List Expression,
      (do (← (Datum.list (group.map Expression.toDatum)).parts).mapM Expression.ofDatum)
        = .ok (group.map Expression.reloaded) :=
    mapM_map Expression.ofDatum_toDatum
  exact mapM_map hgroup rules

/-! ## Definitions and libraries -/

/-- The validity that is read from the datum of a validity. -/
def Validity.reloaded (v : Validity) : Validity := ⟨v.start.orElse .null, v.stop.orElse .null⟩

/-- The definition that is read from the datum of a definition. -/
def Definition.reloaded (d : Definition) : Definition :=
  { d with
    validity := d.validity.reloaded
    rules := RuleSet.reloaded d.rules
    attributes := d.attributes.map Attribute.reloaded }

theorem Definition.ofDatum_toDatum (d : Definition) :
    Definition.ofDatum d.toDatum = .ok d.reloaded := by
  show (do
    let context ← Context.ofDatum d.context.toDatum
    let rules ← RuleSet.ofDatum (RuleSet.toDatum d.rules)
    let items ← (Datum.list (d.attributes.map Attribute.toDatum)).partsIfPresent
    let attributes ← items.mapM Attribute.ofDatum
    return {
      id := d.id
      tag := d.tag
      context := context
      status := d.status
      certainty := d.certainty
      validity := d.validity.reloaded
      rules := rules
      attributes := attributes : Definition }) = _
  rw [Context.ofDatum_toDatum, RuleSet.ofDatum_toDatum, Datum.partsIfPresent_list]
  show (do
    let attributes ← (d.attributes.map Attribute.toDatum).mapM Attribute.ofDatum
    return { d.reloaded with attributes := attributes }) = _
  rw [mapM_map Attribute.ofDatum_toDatum]
  rfl

/-- The library that is read from the datum of a library. -/
def Library.reloaded (l : Library) : Library :=
  { l with definitions := l.definitions.map Definition.reloaded }

/-- **A library is read back from its datum**, in normal form. -/
theorem Library.ofDatum_toDatum (l : Library) : Library.ofDatum l.toDatum = .ok l.reloaded := by
  obtain ⟨context, definitions, id⟩ := l
  have hparts : Library.ofDatum (Library.toDatum ⟨context, definitions, id⟩) = (do
      let context ← Context.ofDatum context.toDatum
      let items ← (Datum.list (definitions.map Definition.toDatum)).partsIfPresent
      let definitions ← items.mapM Definition.ofDatum
      return ⟨context, definitions, id⟩) := by
    -- an identifier that is null is not written, and is read as null
    cases id <;> rfl
  rw [hparts, Context.ofDatum_toDatum, Datum.partsIfPresent_list]
  show (do
    let definitions ← (definitions.map Definition.toDatum).mapM Definition.ofDatum
    return (⟨context, definitions, id⟩ : Library)) = _
  rw [mapM_map Definition.ofDatum_toDatum]
  rfl

/-! ## Keys -/

theorem wellKeyed_detailsOf {description : Datum} (h : description.WellKeyed) :
    (detailsOf description).WellKeyed := by
  rw [detailsOf]
  split
  · refine .list (List.forall_mem_singleton.mpr (.record (by simp) ?_))
    exact List.forall_mem_cons.mpr ⟨.text _, List.forall_mem_singleton.mpr h⟩
  · exact .list fun _ hd => absurd hd List.not_mem_nil

theorem Context.wellKeyed_toDatum (c : Context) : c.toDatum.WellKeyed := by
  refine .list (List.forall_mem_map.mpr fun e _ => .record (by simp) ?_)
  exact List.forall_mem_cons.mpr ⟨.text _, List.forall_mem_singleton.mpr (.text _)⟩

/-- The data in an expression have distinct keys. -/
structure Expression.Keyed (e : Expression) : Prop where
  field : e.field.WellKeyed
  pattern : e.pattern.WellKeyed
  id : e.id.WellKeyed
  description : e.description.WellKeyed
  prompt : e.prompt.WellKeyed

theorem Expression.Keyed.entries {e : Expression} (h : e.Keyed) : ∀ p ∈ e.entries, p.2.WellKeyed := by
  simp only [Expression.entries, List.forall_mem_cons]
  exact ⟨h.field, h.prompt, h.id, h.pattern, wellKeyed_detailsOf h.description,
    fun _ hd => absurd hd List.not_mem_nil⟩

theorem Expression.Keyed.toDatum {e : Expression} (h : e.Keyed) : e.toDatum.WellKeyed :=
  .record (by simp [Expression.entries]) h.entries

/-- The data in an attribute have distinct keys. -/
structure Attribute.Keyed (a : Attribute) : Prop where
  tag : a.tag.WellKeyed
  expression : a.expression.Keyed
  verify : a.verify.WellKeyed
  mandatory : a.mandatory.WellKeyed
  validation : a.validation.WellKeyed
  listTag : a.listTag.WellKeyed

theorem Attribute.Keyed.toDatum {a : Attribute} (h : a.Keyed) : a.toDatum.WellKeyed := by
  have hexpression : (Datum.record (a.expression.entries
      ++ if a.verify.truthy then [("VerifyValue", a.verify)] else [])).WellKeyed := by
    split
    · exact .record (by simp [Expression.entries])
        (List.forall_mem_append.mpr ⟨h.expression.entries, List.forall_mem_singleton.mpr h.verify⟩)
    · rw [List.append_nil]
      exact h.expression.toDatum
  refine .record (by simp) ?_
  simp only [List.forall_mem_cons]
  exact ⟨h.tag, h.mandatory, h.listTag, h.validation, hexpression, fun _ hd => absurd hd List.not_mem_nil⟩

/-- The data in a definition have distinct keys. -/
structure Definition.Keyed (d : Definition) : Prop where
  id : d.id.WellKeyed
  tag : d.tag.WellKeyed
  status : d.status.WellKeyed
  certainty : d.certainty.WellKeyed
  start : d.validity.start.WellKeyed
  stop : d.validity.stop.WellKeyed
  rules : ∀ group ∈ d.rules, ∀ e ∈ group, e.Keyed
  attributes : ∀ a ∈ d.attributes, a.Keyed

theorem Definition.Keyed.toDatum {d : Definition} (h : d.Keyed) : d.toDatum.WellKeyed := by
  have hvalidity : d.validity.toDatum.WellKeyed :=
    .record (by simp) (List.forall_mem_cons.mpr ⟨h.start, List.forall_mem_singleton.mpr h.stop⟩)
  have hrules : (RuleSet.toDatum d.rules).WellKeyed :=
    .list (List.forall_mem_map.mpr fun group hgroup =>
      .list (List.forall_mem_map.mpr fun e he => (h.rules group hgroup e he).toDatum))
  have hattributes : (Datum.list (d.attributes.map Attribute.toDatum)).WellKeyed :=
    .list (List.forall_mem_map.mpr fun a ha => (h.attributes a ha).toDatum)
  refine .record (by simp) ?_
  simp only [List.forall_mem_cons]
  exact ⟨h.id, d.context.wellKeyed_toDatum, h.tag, h.status, h.certainty, hvalidity, hrules, hattributes,
    fun _ hd => absurd hd List.not_mem_nil⟩

/-- The data in a library have distinct keys. -/
structure Library.Keyed (l : Library) : Prop where
  id : l.id.WellKeyed
  definitions : ∀ d ∈ l.definitions, d.Keyed

theorem Library.Keyed.toDatum {l : Library} (h : l.Keyed) : l.toDatum.WellKeyed := by
  have hdefinitions : (Datum.list (l.definitions.map Definition.toDatum)).WellKeyed :=
    .list (List.forall_mem_map.mpr fun d hd => (h.definitions d hd).toDatum)
  have hparts : ∀ p ∈ [("Context", l.context.toDatum),
      ("TagSpecDefinitions", Datum.list (l.definitions.map Definition.toDatum))], p.2.WellKeyed :=
    List.forall_mem_cons.mpr ⟨l.context.wellKeyed_toDatum, List.forall_mem_singleton.mpr hdefinitions⟩
  rw [Library.toDatum]
  split
  · exact .record (by simp) hparts
  · exact .record (by simp) (List.forall_mem_cons.mpr ⟨h.id, hparts⟩)

end StatementTagging
