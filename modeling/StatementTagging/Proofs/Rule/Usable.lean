import StatementTagging.Analysis
import StatementTagging.Proofs.Rule.Loading

set_option autoImplicit false

/-! # Rules that an analysis can use

A document is accepted with data of any kind in most places, and loading does not look at the kinds of
fields, patterns, tags and dates. An analysis does: a pattern that is a number cannot be compiled, a tag
that is a list cannot be looked up. Where these parts of the active definitions are of a usable kind, an
analysis may still fail, but never with a fault about the form of a part (`analyzeRow_of_usable`); where
they are not, it can (`number_pattern_is_loaded`).
-/

namespace StatementTagging

/-! ## Usable parts -/

/-- The field can be looked up, and the pattern is a text if the field can be there. -/
structure Expression.Usable (e : Expression) : Prop where
  field : e.field.isCompound = false
  pattern : e.field.IsText → e.pattern.IsText

/-- The tag can be looked up, and the expression is usable. -/
structure Attribute.Usable (a : Attribute) : Prop where
  tag : a.tag.isCompound = false
  expression : a.expression.Usable

/-- The tag can be looked up, dates that are present are texts, and the parts are usable. -/
structure Definition.Usable (d : Definition) : Prop where
  tag : d.tag.isCompound = false
  start : d.validity.start.truthy = true → d.validity.start.IsText
  stop : d.validity.stop.truthy = true → d.validity.stop.IsText
  rules : ∀ group ∈ d.rules, ∀ e ∈ group, e.Usable
  attributes : ∀ a ∈ d.attributes, a.Usable

/-- The active definitions are usable; the others are passed over before their parts are looked at. -/
def Library.Usable (l : Library) : Prop :=
  ∀ d ∈ l.definitions, d.status.same (.text "ACTIVE") = true → d.Usable

/-! ## Tests -/

/-- The fault is not about the form of a part. -/
abbrev Fault.Other (f : Fault) : Prop := ¬ f.AboutForm

theorem tame_compilePattern (source : List Char) : Tame Fault.Other (compilePattern source) := by
  rw [compilePattern]
  split
  · trivial
  · trivial
  all_goals rintro ⟨cause, ⟨⟩⟩

theorem tame_number? (d : Datum) : Tame Fault.Other d.number? := by
  cases d with
  | int n =>
      rw [Datum.number?]
      split
      · trivial
      · rintro ⟨cause, ⟨⟩⟩
  | _ => trivial

theorem tame_criterion (c : Criterion) (value : Datum) : Tame Fault.Other (c.accepts value) := by
  cases c with
  | pattern source =>
      refine (tame_compilePattern source).bind fun p _ => ?_
      cases p with
      | some p => trivial
      | none => trivial
  | comparison c threshold =>
      refine (tame_number? value).bind fun number _ => ?_
      split <;> trivial

/-- A field that cannot be there gives null. -/
theorem outcome_fieldOf {name : Datum} (h : name.isCompound = false) (row : Row) :
    Outcome (fun value => value = .null ∨ name.IsText) Fault.Other (fieldOf row name) := by
  cases name with
  | text key => exact Or.inr ⟨key, rfl⟩
  | list items => cases h
  | record es => cases h
  | _ => exact Or.inl rfl

theorem tame_patternText {e : Expression} (h : e.pattern.IsText) : Tame Fault.Other e.patternText := by
  obtain ⟨s, hs⟩ := h
  rw [Expression.patternText, hs]
  trivial

theorem tame_accepts {e : Expression} (h : e.Usable) (row : Row) : Tame Fault.Other (e.accepts row) := by
  rw [Expression.accepts]
  refine (outcome_fieldOf h.field row).bind fun value hvalue => ?_
  refine Outcome.ite (fun _ => trivial) fun hpresent => ?_
  -- only a text can name a field that is there, so the pattern is looked at only then
  have hfield : e.field.IsText := hvalue.resolve_left fun hnull => hpresent (hnull ▸ rfl)
  exact (tame_patternText (h.pattern hfield)).bind fun source _ => tame_criterion _ value

theorem tame_groupAccepts {group : List Expression} (h : ∀ e ∈ group, e.Usable) (row : Row) :
    Tame Fault.Other (groupAccepts group row) := by
  induction group with
  | nil => trivial
  | cons e r ih =>
      obtain ⟨he, hr⟩ := List.forall_mem_cons.mp h
      rw [groupAccepts]
      exact (tame_accepts he row).bind fun passed _ => Outcome.ite (fun _ => ih hr) fun _ => trivial

theorem tame_someGroupAccepts {rules : RuleSet} (h : ∀ group ∈ rules, ∀ e ∈ group, e.Usable) (row : Row) :
    Tame Fault.Other (someGroupAccepts rules row) := by
  induction rules with
  | nil => trivial
  | cons group r ih =>
      obtain ⟨hgroup, hr⟩ := List.forall_mem_cons.mp h
      rw [someGroupAccepts]
      exact (tame_groupAccepts hgroup row).bind fun accepted _ =>
        Outcome.ite (fun _ => trivial) fun _ => ih hr

theorem tame_includes {v : Validity} (hstart : v.start.truthy = true → v.start.IsText)
    (hstop : v.stop.truthy = true → v.stop.IsText) (today : String) :
    Tame Fault.Other (v.includes today) := by
  have hbefore : v.start.truthy = true → Tame Fault.Other (textBefore today v.start) := by
    intro h
    obtain ⟨s, hs⟩ := hstart h
    rw [hs]
    trivial
  have hafter : v.stop.truthy = true → Tame Fault.Other (textAfter today v.stop) := by
    intro h
    obtain ⟨s, hs⟩ := hstop h
    rw [hs]
    trivial
  have hlater : Tame Fault.Other (do
      if v.stop.truthy then
        if ← textAfter today v.stop then return false
      return true) := by
    refine Outcome.ite (fun h => ?_) fun _ => trivial
    exact (hafter h).bind fun after _ => Outcome.ite (fun _ => trivial) fun _ => trivial
  rw [Validity.includes]
  refine Outcome.ite (fun h => ?_) fun _ => hlater
  exact (hbefore h).bind fun before _ => Outcome.ite (fun _ => trivial) fun _ => hlater

/-- A definition that applies is active, so it is usable. -/
theorem outcome_applies {d : Definition} (h : d.status.same (.text "ACTIVE") = true → d.Usable) (row : Row)
    (today : String) :
    Outcome (fun applies => applies = true → d.Usable) Fault.Other (d.applies row today) := by
  rw [Definition.applies]
  cases hactive : d.status.same (.text "ACTIVE") with
  | false => exact fun happlies => absurd happlies Bool.false_ne_true
  | true =>
      have husable := h hactive
      have hrules : Tame Fault.Other (RuleSet.accepts d.rules row) :=
        Outcome.ite (fun _ => trivial) fun _ => tame_someGroupAccepts husable.rules row
      refine Outcome.mono (P := fun _ => True) ?_ fun _ _ _ => husable
      refine (tame_includes husable.start husable.stop today).bind fun inForce _ => ?_
      exact Outcome.ite (fun _ => trivial) fun _ => Outcome.ite (fun _ => trivial) fun _ => hrules

/-! ## Contributions -/

theorem tame_put {α : Type} (table : TagTable α) {tag : Datum} (h : tag.isCompound = false) (value : α) :
    Tame Fault.Other (TagTable.put table tag value) := by
  rw [TagTable.put, h]
  trivial

theorem tame_find {α : Type} (table : TagTable α) {tag : Datum} (h : tag.isCompound = false) :
    Tame Fault.Other (TagTable.find table tag) := by
  rw [TagTable.find, h]
  trivial

theorem tame_extract {a : Attribute} (h : a.Usable) (row : Row) : Tame Fault.Other (a.extract row) := by
  rw [Attribute.extract]
  refine (outcome_fieldOf h.expression.field row).bind fun value hvalue => ?_
  refine Outcome.ite (fun _ => trivial) fun hpresent => ?_
  have hfield : a.expression.field.IsText := hvalue.resolve_left fun hnull => hpresent (hnull ▸ rfl)
  refine (tame_patternText (h.expression.pattern hfield)).bind fun source _ => ?_
  refine (tame_compilePattern source).bind fun p _ => ?_
  cases p with
  | some p => trivial
  | none => trivial

theorem tame_extractAll {attributes : List Attribute} (h : ∀ a ∈ attributes, a.Usable) (row : Row) :
    Tame Fault.Other (extractAll attributes row) :=
  Outcome.foldlM (fun table _ a ha =>
    (tame_extract (h a ha) row).bind fun value _ => tame_put table (h a ha).tag value) trivial

theorem tame_verifyAll {attributes : List Attribute} (h : ∀ a ∈ attributes, a.Usable)
    (extracted : TagTable Datum) : Tame Fault.Other (verifyAll attributes extracted) := by
  refine Outcome.foldlM (fun table _ a ha => ?_) trivial
  refine (tame_find extracted (h a ha).tag).bind fun value _ => ?_
  refine Outcome.ite (fun _ => tame_put table (h a ha).tag _) fun _ => ?_
  split
  · exact Outcome.ite (fun _ => tame_put table (h a ha).tag _) fun _ => trivial
  · trivial

theorem tame_add {d : Definition} (h : d.Usable) (a : Analysis) (row : Row) :
    Tame Fault.Other (a.add d row) := by
  rw [Analysis.add]
  refine (tame_extractAll h.attributes row).bind fun extracted _ => ?_
  refine (tame_put _ h.tag extracted).bind fun attributes _ => ?_
  refine (tame_verifyAll h.attributes _).bind fun checks _ => ?_
  exact (tame_put _ h.tag checks).bind fun verified _ => trivial

theorem tame_addLibrary {l : Library} (h : l.Usable) (today : String) (row : Row) (a : Analysis) :
    Tame Fault.Other (a.addLibrary today row l) := by
  rw [Analysis.addLibrary]
  refine Outcome.ite (fun _ => ?_) fun _ => trivial
  refine Outcome.foldlM (fun a _ d hd => ?_) trivial
  exact (outcome_applies (h d hd) row today).bind fun applies husable =>
    Outcome.ite (fun happlies => tame_add (husable happlies) a row) fun _ => trivial

/-- **The analysis of usable rules never fails with a fault about their form.** -/
theorem analyzeRow_of_usable {libraries : List Library} (h : ∀ l ∈ libraries, l.Usable) (today : String)
    (row : Row) {f : Fault} (hf : analyzeRow libraries today row = .error f) : ¬ f.AboutForm := by
  have htame : Tame Fault.Other (analyzeRow libraries today row) :=
    Outcome.foldlM (fun a _ l hl => tame_addLibrary (h l hl) today row a) trivial
  exact htame.fault hf

/-- A usable pattern that repeats something too often makes an analysis fail, with another fault. -/
theorem analyzeRow_of_usable_large_repetition :
    let e : Expression := { field := .text "Details", pattern := .text "E\x7b9999999999\x7d" }
    let libraries : List Library := [{ definitions := [{ id := .int 1, tag := .text "Fee", rules := [[e]] }] }]
    ∃ f, analyzeRow libraries "2024-06-01" [("Details", .text "FEE")] = .error f ∧ ¬ f.AboutForm := by
  intro e libraries
  have he : e.Usable := ⟨rfl, fun _ => ⟨_, rfl⟩⟩
  have hlibrary : ∀ l ∈ libraries, l.Usable := by
    refine List.forall_mem_singleton.mpr (List.forall_mem_singleton.mpr fun _ => ⟨rfl, ?_, ?_, ?_, ?_⟩)
    · exact fun h => absurd h Bool.false_ne_true
    · exact fun h => absurd h Bool.false_ne_true
    · exact List.forall_mem_singleton.mpr (List.forall_mem_singleton.mpr he)
    · exact fun a ha => absurd ha List.not_mem_nil
  have hrow : analyzeRow libraries "2024-06-01" [("Details", .text "FEE")]
      = .error .repetitionTooLarge := rfl
  exact ⟨_, hrow, analyzeRow_of_usable hlibrary _ _ hrow⟩

/-! ## Rules that are loaded without being usable -/

/-- A document with a definition whose pattern is a number. -/
def numberPattern : String :=
  "[\x7b\"Context\": [], \"TagSpecDefinitions\": [\x7b\"Id\": \"1\", \"Tag\": \"Fee\", "
    ++ "\"TagRuleExpressions\": [[\x7b\"SourceField\": \"Details\", \"Regex\": 5\x7d]]\x7d]\x7d]"

/-- The document is loaded, and the analysis of a row with the field fails with a fault about form. -/
theorem number_pattern_is_loaded : ∃ libraries f, Document.load numberPattern = .ok libraries
    ∧ analyzeRow libraries "2024-06-01" [("Details", .text "BANK FEE")] = .error f ∧ f.AboutForm := by
  have hrun : (match Document.load numberPattern with
      | .error _ => false
      | .ok libraries =>
        match analyzeRow libraries "2024-06-01" [("Details", .text "BANK FEE")] with
        | .error f => (Document.malformation? f).isSome
        | .ok _ => false) = true := by
    decide +kernel
  cases hload : Document.load numberPattern with
  | error f =>
      rw [hload] at hrun
      cases hrun
  | ok libraries =>
      rw [hload] at hrun
      dsimp only at hrun
      cases hrow : analyzeRow libraries "2024-06-01" [("Details", .text "BANK FEE")] with
      | ok a =>
          rw [hrow] at hrun
          cases hrun
      | error f =>
          rw [hrow] at hrun
          exact ⟨libraries, f, rfl, hrow, Option.isSome_iff_exists.mp hrun⟩

end StatementTagging
