import StatementTagging.Proofs.Json.Reading
import StatementTagging.Proofs.Json.Writing
import StatementTagging.Proofs.Rule.Reloading
import StatementTagging.Rule.Document

set_option autoImplicit false

/-! # Loading rule documents

A document is loaded by converters, one for each kind of part, that take data of any kind apart. What
they do is stated once for each: a fault is one about the form of a part, and a rule that comes out is
settled, that is reading its datum gives it back. From the faults it follows that loading either succeeds
or reports a document fault (`load_total`), from the settled rules that saving a loaded document
and loading it again changes nothing (`load_render_of_load`).
-/

namespace StatementTagging

/-- The fault is about the form of a part: an entry is missing, or a value is of the wrong kind. -/
def Fault.AboutForm (f : Fault) : Prop := ∃ cause, Document.malformation? f = some cause

theorem Fault.aboutForm_missingEntry (key : String) : (Fault.missingEntry key).AboutForm := ⟨_, rfl⟩

theorem Fault.aboutForm_wrongType : Fault.wrongType.AboutForm := ⟨_, rfl⟩

theorem Fault.aboutForm_lacksMember : Fault.lacksMember.AboutForm := ⟨_, rfl⟩

/-! ## Taking data apart -/

section Access

open Datum

variable {d : Datum}

theorem outcome_entry (h : d.WellKeyed) (key : String) :
    Outcome WellKeyed Fault.AboutForm (d.entry key) := by
  cases d with
  | record es =>
      rw [entry]
      cases hlookup : es.lookup key with
      | some v =>
          have hv := h.getD_lookup .null key
          rwa [hlookup] at hv
      | none => exact Fault.aboutForm_missingEntry key
  | _ => exact Fault.aboutForm_wrongType

theorem outcome_fieldOr (h : d.WellKeyed) (key : String) {other : Datum} (hother : other.WellKeyed) :
    Outcome WellKeyed Fault.AboutForm (d.fieldOr key other) := by
  cases d with
  | record es => exact h.getD_lookup hother key
  | _ => exact Fault.aboutForm_lacksMember

theorem outcome_field (h : d.WellKeyed) (key : String) :
    Outcome WellKeyed Fault.AboutForm (d.field key) := by
  cases d with
  | record es => exact h.valueAt key
  | _ => exact Fault.aboutForm_lacksMember

theorem outcome_parts (h : d.WellKeyed) :
    Outcome (fun items => ∀ item ∈ items, item.WellKeyed) Fault.AboutForm d.parts := by
  cases hparts : d.parts with
  | ok items => exact h.parts hparts
  | error f =>
      cases d with
      | list _ => cases hparts
      | record _ => cases hparts
      | text _ => cases hparts
      | _ =>
          cases hparts
          exact Fault.aboutForm_wrongType

theorem outcome_partsIfPresent (h : d.WellKeyed) :
    Outcome (fun items => ∀ item ∈ items, item.WellKeyed) Fault.AboutForm d.partsIfPresent :=
  Outcome.ite (fun _ => outcome_parts h) fun _ => fun _ hitem => absurd hitem List.not_mem_nil

end Access

/-! ## Settled rules -/

/-- The expression is read back from its datum. -/
structure Expression.Settled (e : Expression) : Prop where
  keyed : e.Keyed
  reloaded : e.reloaded = e

/-- The attribute is read back from its datum. -/
structure Attribute.Settled (a : Attribute) : Prop where
  keyed : a.Keyed
  reloaded : a.reloaded = a

/-- The definition is read back from its datum. -/
structure Definition.Settled (d : Definition) : Prop where
  keyed : d.Keyed
  reloaded : d.reloaded = d

/-- The library is read back from its datum. -/
structure Library.Settled (l : Library) : Prop where
  keyed : l.Keyed
  reloaded : l.reloaded = l

theorem map_reloaded {α : Type} {f : α → α} {items : List α} (h : ∀ a ∈ items, f a = a) :
    items.map f = items :=
  (List.map_congr_left h).trans items.map_id

/-! ## Converters -/

theorem outcome_descriptionOf {details : Datum} (h : details.WellKeyed) :
    Outcome (fun d => d.WellKeyed ∧ d.orElse .null = d) Fault.AboutForm (descriptionOf details) := by
  have hnull : Datum.null.WellKeyed ∧ Datum.null.orElse .null = .null := ⟨.null, rfl⟩
  rw [descriptionOf]
  refine Outcome.ite (fun _ => hnull) fun _ => ?_
  refine (outcome_parts h).bind fun items hitems => ?_
  -- a description that the loop has found is present
  refine Outcome.bind (P := fun s => ∀ d, s.1 = some d → d.WellKeyed ∧ d.orElse .null = d)
    (Outcome.forIn (fun item hitem s hs => ?_) fun d hd => by cases hd) fun s hs => ?_
  · refine (outcome_field (hitems item hitem) _).bind fun language _ => ?_
    refine Outcome.ite (fun _ => ?_) fun _ => Outcome.pure fun d hd => by cases hd
    refine (outcome_field (hitems item hitem) _).bind fun description hdescription => ?_
    refine Outcome.ite (fun hpresent => Outcome.pure ?_) fun _ => Outcome.pure fun d hd => by cases hd
    rintro d ⟨⟩
    exact ⟨hdescription, if_pos hpresent⟩
  · obtain ⟨found, ⟨⟩⟩ := s
    cases found with
    | some d => exact hs d rfl
    | none =>
        cases items with
        | nil => exact hnull
        | cons first r =>
            refine (outcome_field (hitems first List.mem_cons_self) _).bind fun description hd => ?_
            exact Outcome.pure ⟨hd.orElse .null, Datum.orElse_orElse _ _⟩

theorem outcome_expression {d : Datum} (h : d.WellKeyed) :
    Outcome Expression.Settled Fault.AboutForm (Expression.ofDatum d) := by
  rw [Expression.ofDatum]
  refine (outcome_entry h _).bind fun field hfield => ?_
  refine (outcome_field h _).bind fun pattern hpattern => ?_
  refine (outcome_field h _).bind fun id hid => ?_
  refine (outcome_field h _).bind fun details hdetails => ?_
  refine (outcome_descriptionOf hdetails).bind fun description hdescription => ?_
  refine (outcome_field h _).bind fun prompt hprompt => ?_
  refine Outcome.pure ⟨⟨hfield, hpattern.orElse (.text _), hid, hdescription.1, hprompt⟩, ?_⟩
  rw [Expression.reloaded, Datum.orElse_orElse, hdescription.2]

theorem outcome_attribute {d : Datum} (h : d.WellKeyed) :
    Outcome Attribute.Settled Fault.AboutForm (Attribute.ofDatum d) := by
  rw [Attribute.ofDatum]
  refine (outcome_field h _).bind fun rule hrule => ?_
  refine (outcome_field h _).bind fun dataType hdataType => ?_
  refine (outcome_entry h _).bind fun tag htag => ?_
  refine (outcome_entry h _).bind fun inner hinner => ?_
  have hexpression : Outcome (fun p => p.1.Settled ∧ p.2.WellKeyed ∧ p.2.orElse .null = p.2)
      Fault.AboutForm (Attribute.expressionOfDatum inner) := by
    rw [Attribute.expressionOfDatum]
    refine (outcome_field hinner _).bind fun verify hverify => ?_
    refine (outcome_expression hinner).bind fun e he => ?_
    exact Outcome.pure ⟨he, hverify.orElse .null, Datum.orElse_orElse _ _⟩
  refine hexpression.bind fun p hp => ?_
  obtain ⟨expression, verify⟩ := p
  obtain ⟨he, hverify, hpresent⟩ := hp
  refine (outcome_field h _).bind fun mandatory hmandatory => ?_
  refine (outcome_field h _).bind fun listTag hlistTag => ?_
  refine Outcome.pure ⟨⟨htag, he.keyed, hverify, .bool _, ?_, hlistTag⟩, ?_⟩
  · exact hrule.orElse (hdataType.orElse (.text _))
  · rw [Attribute.reloaded, he.reloaded, hpresent, Datum.orElse_assoc, Datum.orElse_orElse]
    rfl

theorem outcome_context {d : Datum} (h : d.WellKeyed) :
    Tame Fault.AboutForm (Context.ofDatum d) := by
  refine (outcome_partsIfPresent h).bind fun items hitems => ?_
  refine (Outcome.mapM (R := fun _ => True) fun item hitem => ?_).mono fun _ _ => trivial
  rw [ContextEntry.ofDatum]
  refine (outcome_entry (hitems item hitem) _).bind fun key _ => ?_
  exact (outcome_field (hitems item hitem) _).bind fun value _ => Outcome.pure trivial

theorem outcome_ruleSet {d : Datum} (h : d.WellKeyed) :
    Outcome (fun rules => ∀ group ∈ rules, ∀ e ∈ group, e.Settled) Fault.AboutForm
      (RuleSet.ofDatum d) := by
  refine (outcome_partsIfPresent h).bind fun items hitems => ?_
  refine Outcome.mapM fun group hgroup => ?_
  refine (outcome_parts (hitems group hgroup)).bind fun parts hparts => ?_
  exact Outcome.mapM fun part hpart => outcome_expression (hparts part hpart)

theorem outcome_validity {d : Datum} (h : d.WellKeyed) :
    Outcome (fun v => v.start.WellKeyed ∧ v.stop.WellKeyed ∧ v.reloaded = v) Fault.AboutForm
      (Validity.ofDatum d) := by
  have hd : (d.orElse (.record [])).WellKeyed :=
    h.orElse (.record List.nodup_nil fun _ he => absurd he List.not_mem_nil)
  rw [Validity.ofDatum]
  refine (outcome_field hd _).bind fun start hstart => ?_
  refine (outcome_field hd _).bind fun stop hstop => ?_
  refine Outcome.pure ⟨hstart.orElse .null, hstop.orElse .null, ?_⟩
  rw [Validity.reloaded, Datum.orElse_orElse, Datum.orElse_orElse]

/-- Older documents are read by way of a list of entries. -/
theorem wellKeyed_contextItems {d : Datum} (h : d.WellKeyed) :
    (Definition.contextItems d).WellKeyed := by
  cases d with
  | record es =>
      refine .list (List.forall_mem_map.mpr fun e he => .record (by simp) ?_)
      exact List.forall_mem_cons.mpr ⟨.text _, List.forall_mem_singleton.mpr (h.entries e he)⟩
  | _ => exact h

theorem outcome_definition {d : Datum} (h : d.WellKeyed) :
    Outcome Definition.Settled Fault.AboutForm (Definition.ofDatum d) := by
  rw [Definition.ofDatum]
  refine (outcome_field h _).bind fun rawContext hrawContext => ?_
  refine (outcome_entry h _).bind fun id hid => ?_
  refine (outcome_entry h _).bind fun tag htag => ?_
  refine (outcome_context (wellKeyed_contextItems hrawContext)).bind fun context _ => ?_
  refine (outcome_fieldOr h _ (.text _)).bind fun status hstatus => ?_
  refine (outcome_fieldOr h _ (.text _)).bind fun certainty hcertainty => ?_
  refine (outcome_field h _).bind fun rawValidity hrawValidity => ?_
  refine (outcome_validity hrawValidity).bind fun validity hvalidity => ?_
  refine (outcome_field h _).bind fun rawRules hrawRules => ?_
  refine (outcome_ruleSet hrawRules).bind fun rules hrules => ?_
  refine (outcome_field h _).bind fun rawAttributes hrawAttributes => ?_
  refine (outcome_partsIfPresent hrawAttributes).bind fun items hitems => ?_
  refine (Outcome.mapM fun item hitem => outcome_attribute (hitems item hitem)).bind
    fun attributes hattributes => ?_
  obtain ⟨hstart, hstop, hvalidity⟩ := hvalidity
  refine Outcome.pure ⟨⟨hid, htag, hstatus, hcertainty, hstart, hstop,
    fun group hgroup e he => (hrules group hgroup e he).keyed, fun a ha => (hattributes a ha).keyed⟩, ?_⟩
  have hgroups : RuleSet.reloaded rules = rules :=
    map_reloaded fun group hgroup => map_reloaded fun e he => (hrules group hgroup e he).reloaded
  rw [Definition.reloaded, hvalidity, hgroups, map_reloaded fun a ha => (hattributes a ha).reloaded]

theorem outcome_library {d : Datum} (h : d.WellKeyed) :
    Outcome Library.Settled Fault.AboutForm (Library.ofDatum d) := by
  rw [Library.ofDatum]
  refine (outcome_field h _).bind fun rawContext hrawContext => ?_
  refine (outcome_context hrawContext).bind fun context _ => ?_
  refine (outcome_field h _).bind fun rawDefinitions hrawDefinitions => ?_
  refine (outcome_partsIfPresent hrawDefinitions).bind fun items hitems => ?_
  refine (Outcome.mapM fun item hitem => outcome_definition (hitems item hitem)).bind
    fun definitions hdefinitions => ?_
  refine (outcome_field h _).bind fun id hid => ?_
  refine Outcome.pure ⟨⟨hid, fun d hd => (hdefinitions d hd).keyed⟩, ?_⟩
  rw [Library.reloaded, map_reloaded fun d hd => (hdefinitions d hd).reloaded]

/-! ## Documents -/

namespace Document

theorem outcome_checked {d : Datum} (h : d.WellKeyed) :
    Outcome (fun items => ∀ item ∈ items, item.WellKeyed) (fun _ => True) (checked d) := by
  cases d with
  | list items =>
      exact Outcome.map (P := fun _ => True) (by cases checkLibraries 0 items <;> trivial)
        fun _ _ => h.items
  | _ => exact trivial

/-- Loading gives settled libraries or a document fault. -/
theorem outcome_load (text : String) :
    Outcome (fun libraries => ∀ l ∈ libraries, l.Settled) (fun f => ∃ cause, f = .document cause)
      (load text) := by
  have hread : Outcome Datum.WellKeyed (fun _ => True) (Json.read text) := by
    cases h : Json.read text with
    | ok d => exact Json.wellKeyed_of_read h
    | error f => exact trivial
  rw [load]
  refine (hread.mapError fun f _ => ⟨_, rfl⟩).bind fun d hd => ?_
  refine ((outcome_checked hd).mapError fun f _ => ⟨_, rfl⟩).bind fun items hitems => ?_
  refine (Outcome.mapM fun item hitem => outcome_library (hitems item hitem)).mapError fun f hf => ?_
  obtain ⟨cause, hcause⟩ := hf
  exact ⟨.malformed cause, by rw [reported, hcause]⟩

/-- **Loading a text gives libraries or reports a fault of the document**, whatever the text. -/
theorem load_total (text : String) :
    (∃ libraries, load text = .ok libraries) ∨ ∃ cause, load text = .error (.document cause) := by
  cases h : load text with
  | ok libraries => exact Or.inl ⟨libraries, rfl⟩
  | error f =>
      obtain ⟨cause, rfl⟩ := (outcome_load text).fault h
      exact Or.inr ⟨cause, rfl⟩

/-! ## Saving and loading again -/

theorem checkDefinitions_toDatum (library index : Nat) (definitions : List Definition) :
    checkDefinitions library index (definitions.map Definition.toDatum) = .ok () := by
  induction definitions generalizing index with
  | nil => rfl
  | cons d r ih => exact ih (index + 1)

theorem checkLibraries_toDatum (index : Nat) (libraries : List Library) :
    checkLibraries index (libraries.map Library.toDatum) = .ok () := by
  induction libraries generalizing index with
  | nil => rfl
  | cons l r ih =>
      obtain ⟨context, definitions, id⟩ := l
      have hstep : checkLibraries index (List.map Library.toDatum (⟨context, definitions, id⟩ :: r)) = (do
          checkDefinitions index 0 (definitions.map Definition.toDatum)
          checkLibraries (index + 1) (r.map Library.toDatum)) := by
        -- the entries that are checked come after an identifier only if there is one
        cases id <;> rfl
      rw [hstep, checkDefinitions_toDatum]
      exact ih (index + 1)

/-- **What is saved is loaded**, in normal form. -/
theorem load_render {libraries : List Library} (h : ∀ l ∈ libraries, l.Keyed) :
    load (render libraries) = .ok (libraries.map Library.reloaded) := by
  have hkeyed : (Datum.list (libraries.map Library.toDatum)).WellKeyed :=
    .list (List.forall_mem_map.mpr fun l hl => (h l hl).toDatum)
  have hchecked : checked (.list (libraries.map Library.toDatum))
      = .ok (libraries.map Library.toDatum) := by
    rw [checked, checkLibraries_toDatum]
    rfl
  rw [load, render, Json.read_write hkeyed]
  show (do
    let items ← (checked (.list (libraries.map Library.toDatum))).mapError Fault.document
    (items.mapM Library.ofDatum).mapError reported) = _
  rw [hchecked]
  show ((libraries.map Library.toDatum).mapM Library.ofDatum).mapError reported = _
  rw [mapM_map Library.ofDatum_toDatum]
  rfl

/-- **Saving a loaded document and loading it again gives the same libraries**, hence the same text. -/
theorem load_render_of_load {text : String} {libraries : List Library}
    (h : load text = .ok libraries) : load (render libraries) = .ok libraries := by
  have hsettled := (outcome_load text).value h
  rw [load_render fun l hl => (hsettled l hl).keyed, map_reloaded fun l hl => (hsettled l hl).reloaded]

/-- **Loading and saving is idempotent**: the text that comes out of it is loaded, and saved as the
same text. -/
theorem render_load_idempotent {text out : String} (h : (load text).map render = .ok out) :
    (load out).map render = .ok out := by
  cases hload : load text with
  | error f =>
      rw [hload] at h
      cases h
  | ok libraries =>
      rw [hload] at h
      obtain rfl := Except.ok.inj h
      rw [load_render_of_load hload]
      rfl

/-- An older document: its context is a record, and the value of the context is no text. -/
def olderDocument : String :=
  "[\x7b\"Context\": [], \"TagSpecDefinitions\": [\x7b\"Id\": 1, \"Tag\": \"Fee\", "
    ++ "\"Context\": \x7b\"Side\": true\x7d\x7d]\x7d]"

theorem render_load_idempotent_older :
    ∃ out, (load olderDocument).map render = .ok out ∧ (load out).map render = .ok out := by
  have hloaded : (load olderDocument).toBool = true := by decide +kernel
  cases hload : load olderDocument with
  | error f =>
      rw [hload] at hloaded
      cases hloaded
  | ok libraries =>
      have hout : (load olderDocument).map render = .ok (render libraries) := by
        rw [hload]
        rfl
      exact ⟨render libraries, rfl, render_load_idempotent hout⟩

end Document

end StatementTagging
