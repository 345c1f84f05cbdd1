import StatementTagging.Proofs.Cells
import StatementTagging.Proofs.Rule.Evaluation

set_option autoImplicit false

/-! # An analysis as a comprehension

An analysis goes through the libraries and the definitions in them, leaves some of them early, and puts four
results together on the way. `Analysis.Comprehends` says what comes out without going through anything: the
definitions that qualify in the libraries that match, in order, their tags, and under each tag what the
last of them with the tag gives. The tables are two cases of one notion, `TagTable.Latest`, which one step
of the loop keeps (`TagTable.Latest.append`).

The main result is that an analysis gives a result exactly if no definition fails that it comes to, and that
the result is the comprehension (`analyzeRow_comprehends`).
-/

namespace StatementTagging

variable {today : String} {row : Row}

/-! ## Definitions that qualify -/

/-- The day is not before the first day nor after the last one, where these are given. Days are compared as
texts. -/
structure Validity.Spans (v : Validity) (today : String) : Prop where
  start : v.start.truthy = true → ∃ s, v.start = .text s ∧ ¬ today < s
  stop : v.stop.truthy = true → ∃ s, v.stop = .text s ∧ ¬ s < today

theorem textBefore_eq_false_iff (d : Datum) :
    textBefore today d = .ok false ↔ ∃ s, d = .text s ∧ ¬ today < s := by
  cases d <;> simp [textBefore]

theorem textAfter_eq_false_iff (d : Datum) :
    textAfter today d = .ok false ↔ ∃ s, d = .text s ∧ ¬ s < today := by
  cases d <;> simp [textAfter]

/-- A test that is made only if its bound is given, before the rest. -/
theorem guard_eq_true_iff (given : Bool) (x rest : Except Fault Bool) :
    (if given = true then do
        if ← x then return false
        rest
      else rest) = .ok true
      ↔ (given = true → x = .ok false) ∧ rest = .ok true := by
  cases given with
  | false => simp
  | true => rcases x with f | _ | _ <;> simp [bind, Except.bind, pure, Except.pure]

theorem includes_eq_true_iff (v : Validity) : v.includes today = .ok true ↔ v.Spans today := by
  rw [Validity.includes, guard_eq_true_iff, guard_eq_true_iff, textBefore_eq_false_iff,
    textAfter_eq_false_iff]
  exact ⟨fun h => ⟨h.1, h.2.1⟩, fun h => ⟨h.start, h.stop, rfl⟩⟩

/-- **What a definition must be like** to count for a row: it is active and in force on the day, its context
matches, and it has no rules or a group of tests that the row passes. -/
structure Definition.Qualifies (d : Definition) (row : Row) (today : String) : Prop where
  active : d.status = .text "ACTIVE"
  inForce : d.validity.Spans today
  context : d.context.matchesRow row = true
  rules : d.rules = [] ∨ ∃ group ∈ d.rules, ∀ e ∈ group, e.accepts row = .ok true

/-- A definition that can be tried on the row applies exactly if it qualifies. -/
theorem applies_result {d : Definition} {b : Bool} (h : d.applies row today = .ok b) :
    b = true ↔ d.Qualifies row today := by
  constructor
  · rintro rfl
    obtain ⟨hactive, hinForce, hcontext, hrules⟩ := (applies_eq_true_iff d row today).mp h
    exact ⟨(Datum.same_text_iff _ _).mp hactive, (includes_eq_true_iff _).mp hinForce, hcontext,
      (ruleSet_result hrules).mp rfl⟩
  · rintro ⟨hactive, hinForce, hcontext, hrules⟩
    have hrun : d.applies row today = RuleSet.accepts d.rules row := by
      unfold Definition.applies
      rw [(Datum.same_text_iff _ _).mpr hactive, (includes_eq_true_iff _).mpr hinForce, hcontext]
      rfl
    rw [hrun] at h
    exact (ruleSet_result h).mpr hrules

/-- Whether a test of a row has come out true. -/
instance (x : Except Fault Bool) : Decidable (x = .ok true) :=
  match x with
  | .ok true => .isTrue rfl
  | .ok false => .isFalse (nomatch ·)
  | .error _ => .isFalse (nomatch ·)

instance (d : Definition) (row : Row) (today : String) : Decidable (d.Qualifies row today) :=
  decidable_of_iff (d.status.same (.text "ACTIVE") = true ∧ d.validity.includes today = .ok true
      ∧ d.context.matchesRow row = true
      ∧ (d.rules = [] ∨ ∃ group ∈ d.rules, ∀ e ∈ group, e.accepts row = .ok true)) <| by
    rw [Datum.same_text_iff, includes_eq_true_iff]
    exact ⟨fun h => ⟨h.1, h.2.1, h.2.2.1, h.2.2.2⟩, fun h => ⟨h.active, h.inForce, h.context, h.rules⟩⟩

/-! ## Definitions that can be evaluated -/

/-- Nothing fails when the definition is tried on the row: it can be said whether it applies, and if it does,
each of its attributes can be extracted. -/
structure Definition.Evaluates (d : Definition) (row : Row) (today : String) : Prop where
  applies : ∃ b, d.applies row today = .ok b
  extracts : d.applies row today = .ok true → ∀ a ∈ d.attributes, ∃ v, a.extract row = .ok v

/-- Checks do not fail. -/
theorem verifyAll_isOk {attributes : List Attribute} (h : ∀ a ∈ attributes, a.tag.IsText)
    (extracted : TagTable Datum) : ∃ checks, verifyAll attributes extracted = .ok checks := by
  have hrun : Tame (fun _ => False) (verifyAll attributes extracted) := by
    refine Outcome.foldlM (fun table _ a ha => ?_) trivial
    obtain ⟨tag, htag⟩ := h a ha
    rw [htag, TagTable.find_text]
    refine Outcome.ite (fun _ => trivial) fun _ => ?_
    split
    · exact Outcome.ite (fun _ => trivial) fun _ => trivial
    · trivial
  cases hchecks : verifyAll attributes extracted with
  | ok checks => exact ⟨checks, rfl⟩
  | error f => exact (hrun.fault hchecks).elim

theorem Analysis.add_isOk_iff {d : Definition} (htag : d.tag.IsText)
    (hnames : ∀ a ∈ d.attributes, a.tag.IsText) (a : Analysis) :
    (∃ a', a.add d row = .ok a') ↔ ∀ x ∈ d.attributes, ∃ v, x.extract row = .ok v := by
  rw [← extractAll_isOk hnames row []]
  constructor
  · rintro ⟨a', h⟩
    obtain ⟨-, extracted, -, hextracted, -⟩ := (add_eq_ok_iff a a' d row).mp h
    exact ⟨extracted, hextracted⟩
  · rintro ⟨extracted, hextracted⟩
    obtain ⟨checks, hchecks⟩ := verifyAll_isOk hnames _
    obtain ⟨tag, htag⟩ := htag
    exact ⟨_, (add_eq_ok_iff a _ d row).mpr ⟨by rw [htag]; rfl, extracted, checks, hextracted,
      hchecks, rfl⟩⟩

theorem Analysis.addEntry_isOk_iff {p : Context × Definition} (htag : p.2.tag.IsText)
    (hnames : ∀ a ∈ p.2.attributes, a.tag.IsText) (a : Analysis) :
    (∃ a', addEntry today row a p = .ok a')
      ↔ (p.1.matchesRow row = true → p.2.Evaluates row today) := by
  rw [addEntry]
  by_cases hcontext : p.1.matchesRow row = true
  · rw [if_pos hcontext]
    cases happlies : p.2.applies row today with
    | error f =>
        refine iff_of_false not_isOk_error fun h => ?_
        obtain ⟨b, hb⟩ := (h hcontext).applies
        cases happlies.symm.trans hb
    | ok b =>
        cases b with
        | false =>
            refine iff_of_true ⟨a, rfl⟩ fun _ => ⟨⟨false, happlies⟩, fun h => ?_⟩
            cases happlies.symm.trans h
        | true =>
            refine (add_isOk_iff htag hnames a).trans ⟨fun h _ => ⟨⟨true, happlies⟩, fun _ => h⟩, ?_⟩
            exact fun h => (h hcontext).extracts happlies
  · rw [if_neg hcontext]
    exact iff_of_true ⟨a, rfl⟩ fun h => absurd h hcontext

/-! ## Tables of what the last one gives -/

section Latest

variable {α β : Type}

namespace TagTable

/-- The table has the tags of the items for its keys, each once, and under each tag what the last item with the
tag gives. -/
structure Latest (items : List β) (tag : β → Datum) (Gives : β → α → Prop) (table : TagTable α) : Prop where
  keyed : table.Keyed
  keys : ∀ t, t ∈ table.map Prod.fst ↔ t ∈ items.map tag
  latest : ∀ before x after, items = before ++ x :: after → (∀ y ∈ after, tag y ≠ tag x) →
    ∃ v, Gives x v ∧ table.find (tag x) = .ok (some v)

theorem Latest.nil (tag : β → Datum) (Gives : β → α → Prop) : Latest [] tag Gives [] where
  keyed := .nil
  keys _ := Iff.rfl
  latest before _ _ h := absurd h (by simp)

/-- **One more item** comes after all others, so what it gives replaces what is under its tag. -/
theorem Latest.append {items : List β} {tag : β → Datum} {Gives : β → α → Prop} {table : TagTable α}
    (h : Latest items tag Gives table) {x : β} {s : String} (hx : tag x = .text s) {v : α}
    (hv : Gives x v) : Latest (items ++ [x]) tag Gives (upsert Datum.same (.text s) v table) where
  keyed := h.keyed.upsert s v
  keys t := by
    rw [mem_keys_upsert h.keyed, h.keys, List.map_append, List.mem_append, List.map_singleton,
      List.mem_singleton, hx]
  latest before y after heq hafter := by
    rcases List.eq_nil_or_concat after with rfl | ⟨after, z, rfl⟩
    · obtain ⟨rfl, hlast⟩ := List.append_inj' heq rfl
      obtain rfl := (List.cons.inj hlast).1
      refine ⟨v, hv, ?_⟩
      rw [hx, find_text, under_upsert_self]
    · -- the new item is not `y`, and its tag is another one
      have hsplit : items ++ [x] = (before ++ y :: after) ++ [z] := by
        rw [heq, List.append_assoc, List.cons_append, List.concat_eq_append]
      obtain ⟨rfl, hlast⟩ := List.append_inj' hsplit rfl
      obtain rfl := (List.cons.inj hlast).1
      obtain ⟨w, hw, hfind⟩ := h.latest before y after rfl fun u hu =>
        hafter u (by simp [hu])
      obtain ⟨t, ht⟩ := h.keyed.isText_of_mem ((h.keys (tag y)).mpr (List.mem_map_of_mem (by simp)))
      refine ⟨w, hw, ?_⟩
      have hne : s ≠ t := by
        rintro rfl
        exact hafter x (by simp) (hx.trans ht.symm)
      rw [ht, find_text] at hfind ⊢
      rw [under_upsert, if_neg hne, Except.ok.inj hfind]

end TagTable

end Latest

/-! ## The comprehension -/

/-- The definitions that count for a row, in the order of the libraries and of the definitions in them. -/
def qualifying (libraries : List Library) (row : Row) (today : String) : List Definition :=
  (libraries.filter fun l => l.context.matchesRow row).flatMap fun l =>
    l.definitions.filter fun d => d.Qualifies row today

/-- What the definition extracts. -/
def Definition.Extracts (row : Row) (d : Definition) (table : TagTable (Option String)) : Prop :=
  extractAll d.attributes row = .ok table

/-- What the checks of the definition say about the values that it extracts. -/
def Definition.Verifies (row : Row) (d : Definition) (checks : TagTable Bool) : Prop :=
  ∃ table, d.Extracts row table
    ∧ verifyAll d.attributes (table.map fun (tag, v) => (tag, valueDatum v)) = .ok checks

/-- **The analysis is the comprehension** over the libraries. -/
structure Analysis.Comprehends (a : Analysis) (libraries : List Library) (row : Row) (today : String) :
    Prop where
  matched : a.matched = qualifying libraries row today
  tags : a.tags = a.matched.map (·.tag)
  attributes : a.attributes.Latest a.matched (·.tag) (Definition.Extracts row)
  verified : a.verified.Latest a.matched (·.tag) (Definition.Verifies row)

theorem qualifying_cons (l : Library) (libraries : List Library) :
    qualifying (l :: libraries) row today
      = (if l.context.matchesRow row = true then l.definitions.filter fun d => d.Qualifies row today else [])
        ++ qualifying libraries row today := by
  rw [qualifying, List.filter_cons]
  split
  · rfl
  · rfl

/-- If no definition fails that the analysis comes to, those that apply are those that qualify. -/
theorem filter_entriesOf_eq_qualifying {libraries : List Library}
    (h : ∀ p ∈ Collection.entriesOf libraries, p.1.matchesRow row = true → p.2.Evaluates row today) :
    ((Collection.entriesOf libraries).filter
      fun p => p.1.matchesRow row = true ∧ p.2.Applies row today).map (·.2)
      = qualifying libraries row today := by
  induction libraries with
  | nil => rfl
  | cons l r ih =>
      rw [Collection.entriesOf_cons] at h ⊢
      rw [List.filter_append, List.map_append, ih fun p hp => h p (List.mem_append_right _ hp),
        qualifying_cons]
      congr 1
      rw [List.filter_map, List.map_map]
      show ((l.definitions.filter _).map id) = _
      rw [List.map_id]
      split
      · next hcontext =>
          refine List.filter_congr fun d hd => ?_
          obtain ⟨b, hb⟩ := (h (l.context, d) (List.mem_append_left _ (List.mem_map_of_mem hd))
            hcontext).applies
          have happlies : d.Applies row today ↔ d.Qualifies row today := by
            rw [← applies_result hb, ← applies_eq_true_iff, hb, Except.ok.injEq]
          simp [hcontext, happlies]
      · next hcontext => simp [hcontext]

/-- **An analysis is the comprehension.** With texts for tags, the analysis of a row gives a result exactly if
no definition fails that it comes to. What it gives are the definitions that qualify in the libraries that
match, in order and with repetitions, their tags, and under each tag what the last of them with the tag
extracts and verifies. -/
theorem analyzeRow_comprehends {libraries : List Library} (hlabels : Labelled libraries) (row : Row)
    (today : String) :
    ((∃ a, analyzeRow libraries today row = .ok a)
        ↔ ∀ l ∈ libraries, l.context.matchesRow row = true → ∀ d ∈ l.definitions, d.Evaluates row today)
      ∧ ∀ a, analyzeRow libraries today row = .ok a → a.Comprehends libraries row today := by
  have hlabel : ∀ p ∈ Collection.entriesOf libraries,
      p.2.tag.IsText ∧ ∀ a ∈ p.2.attributes, a.tag.IsText := by
    rintro ⟨context, d⟩ hp
    obtain ⟨l, hl, -, hd⟩ := (Collection.mem_entriesOf_iff libraries context d).mp hp
    exact hlabels l hl d hd
  have hok : (∃ a, analyzeRow libraries today row = .ok a)
      ↔ ∀ p ∈ Collection.entriesOf libraries, p.1.matchesRow row = true → p.2.Evaluates row today := by
    rw [analyzeRow_eq, Analysis.foldlM_isOk_iff]
    exact forall₂_congr fun p hp => Analysis.addEntry_isOk_iff (hlabel p hp).1 (hlabel p hp).2 {}
  refine ⟨hok.trans ⟨?_, ?_⟩, fun a ha => ?_⟩
  · exact fun h l hl hcontext d hd => h (l.context, d)
      ((Collection.mem_entriesOf_iff libraries _ d).mpr ⟨l, hl, rfl, hd⟩) hcontext
  · rintro h ⟨context, d⟩ hp hcontext
    obtain ⟨l, hl, rfl, hd⟩ := (Collection.mem_entriesOf_iff libraries context d).mp hp
    exact h l hl hcontext d hd
  · have htables : a.attributes.Latest a.matched (·.tag) (Definition.Extracts row)
        ∧ a.verified.Latest a.matched (·.tag) (Definition.Verifies row) := by
      refine analyzeRow_induction (P := fun a =>
        a.attributes.Latest a.matched (·.tag) (Definition.Extracts row)
          ∧ a.verified.Latest a.matched (·.tag) (Definition.Verifies row)) ⟨.nil _ _, .nil _ _⟩ ?_ ha
      rintro a d a' ⟨hattributes, hverified⟩ ⟨l, hl, hd⟩ hadded
      obtain ⟨tag, htag⟩ := (hlabels l hl d hd).1
      obtain ⟨-, extracted, checks, hextracted, hchecks, rfl⟩ :=
        (Analysis.add_eq_ok_iff a a' d row).mp hadded
      dsimp only
      rw [htag]
      exact ⟨hattributes.append htag hextracted, hverified.append htag ⟨extracted, hextracted, hchecks⟩⟩
    exact {
      matched := (matched_of_analyzeRow ha).trans (filter_entriesOf_eq_qualifying (hok.mp ⟨a, ha⟩))
      tags := (tags_of_analyzeRow ha).1
      attributes := htables.1
      verified := htables.2 }

/-- Two libraries give a row the same tag; what the second one extracts replaces what the first one does. -/
theorem analyzeRow_comprehends_replaced :
    let fee : Nat → String → Definition := fun id pattern => {
      id := .int id
      tag := .text "FEE"
      validity := { start := .text "2024-01-01" }
      rules := [[{ field := .text "Details", pattern := .text "FEE" }]]
      attributes :=
        [{ tag := .text "NUMBER", expression := { field := .text "Details", pattern := .text pattern } }] }
    let libraries : List Library := [{ definitions := [fee 1 "(\\d+)"] }, { definitions := [fee 2 "(\\w+)"] }]
    let row : Row := [("Details", .text "FEE 12")]
    Labelled libraries ∧ ∃ a, analyzeRow libraries "2024-06-01" row = .ok a
      ∧ a.Comprehends libraries row "2024-06-01" := by
  intro fee libraries row
  have hlabels : Labelled libraries := by
    have hfee : ∀ id pattern, (fee id pattern).tag.IsText
        ∧ ∀ a ∈ (fee id pattern).attributes, a.tag.IsText := fun id pattern =>
      ⟨⟨_, rfl⟩, List.forall_mem_singleton.mpr ⟨_, rfl⟩⟩
    exact List.forall_mem_cons.mpr ⟨List.forall_mem_singleton.mpr (hfee _ _),
      List.forall_mem_singleton.mpr (List.forall_mem_singleton.mpr (hfee _ _))⟩
  obtain ⟨a, ha⟩ : ∃ a, analyzeRow libraries "2024-06-01" row = .ok a :=
    isOk_of_toOption (by decide +kernel :
      (analyzeRow libraries "2024-06-01" row).toOption.isSome = true)
  exact ⟨hlabels, a, ha, (analyzeRow_comprehends hlabels row "2024-06-01").2 a ha⟩

end StatementTagging
