import StatementTagging.Proofs.Analysis
import StatementTagging.Proofs.Rule.Ledger

set_option autoImplicit false

/-! # Grouping does not change tagging

A definition is saved under a context, but an analysis never sees that context: it sees the one of the
library that the definition has come to lie in. The two are the same up to order, and a row does not
tell such contexts apart. So an analysis collects what can be read off the ledger
(`analysis_ignores_grouping`).
-/

namespace StatementTagging

open Collection
open Analysis (addEntry)

variable {row : Row} {today : String}

/-! ## From libraries to the ledger -/

namespace Ledger

/-- The definitions in a ledger whose context, as it was given last, matches the row, and that
apply. -/
def tagging (m : Ledger) (row : Row) (today : String) : Multiset Definition :=
  (m.entries.filter fun s => s.2.1.matchesRow row = true ∧ s.2.2.Applies row today).map
    fun s => s.2.2

/-- The definition stands in the ledger under its identifier, with a context that matches the row. -/
def Admits (m : Ledger) (row : Row) (d : Definition) : Prop :=
  ∃ context, m.lookup d.id.key = some (context, d) ∧ context.matchesRow row = true

end Ledger

namespace Lists

variable {m : Ledger} {es : List (Context × Definition)}

/-- The context of a library matches the row exactly if the one that was given does. -/
theorem matchesRow_iff (h : Lists m es) {p : Context × Definition} (hp : p ∈ es) :
    p.1.matchesRow row = true ↔ m.Admits row p.2 := by
  obtain ⟨context, hlookup, hsame⟩ := h.sound p hp
  rw [matchesRow_congr hsame row]
  constructor
  · exact fun hmatches => ⟨context, hlookup, hmatches⟩
  · rintro ⟨context', hlookup', hmatches⟩
    rw [hlookup] at hlookup'
    rw [(Prod.mk.inj (Option.some.inj hlookup')).1]
    exact hmatches

/-- What a ledger admits is what stands in it with a context that matches. -/
theorem admits_iff (h : Lists m es) {s : Sigma fun _ : Key => Context × Definition}
    (hs : s ∈ m.entries) : m.Admits row s.2.2 ↔ s.2.1.matchesRow row = true := by
  have hlookup : m.lookup s.1 = some s.2 := Finmap.lookup_eq_some_iff.mpr hs
  obtain ⟨hkey, -⟩ := h.complete s.1 s.2.1 s.2.2 hlookup
  rw [Ledger.Admits, hkey, hlookup]
  constructor
  · rintro ⟨context, heq, hmatches⟩
    rw [Option.some.inj heq]
    exact hmatches
  · exact fun hmatches => ⟨s.2.1, rfl, hmatches⟩

/-- **The entries that contribute** hold the definitions that the ledger says. -/
theorem matched_eq_tagging (h : Lists m es) :
    (↑((es.filter fun p => p.1.matchesRow row = true ∧ p.2.Applies row today).map (·.2))
      : Multiset Definition) = m.tagging row today := by
  classical
  let q : Definition → Prop := fun d => m.Admits row d ∧ d.Applies row today
  have hentries : (es.filter fun p => p.1.matchesRow row = true ∧ p.2.Applies row today)
      = es.filter fun p => q p.2 := by
    refine List.filter_congr fun p hp => ?_
    rw [decide_eq_decide, h.matchesRow_iff hp]
  have hledger : (m.entries.filter fun s => s.2.1.matchesRow row = true ∧ s.2.2.Applies row today)
      = m.entries.filter fun s => q s.2.2 := by
    refine Multiset.filter_congr fun s hs => ?_
    rw [← h.admits_iff hs]
  calc (↑((es.filter fun p => p.1.matchesRow row = true ∧ p.2.Applies row today).map (·.2))
        : Multiset Definition)
      = ↑((es.map (·.2)).filter fun d => q d) := by rw [hentries, List.filter_map]; rfl
    _ = (m.entries.map fun s => s.2.2).filter q := by
        rw [← Multiset.filter_coe, h.definitions, Ledger.definitions]
    _ = m.tagging row today := by rw [Multiset.filter_map, Ledger.tagging, hledger]; rfl

/-- Something holds of all admitted entries exactly if it holds of all that the ledger admits. -/
theorem forall_mem_iff (h : Lists m es) (P : Definition → Prop) :
    (∀ p ∈ es, p.1.matchesRow row = true → P p.2)
      ↔ ∀ k context d, m.lookup k = some (context, d) → context.matchesRow row = true → P d := by
  constructor
  · intro hall k context d hlookup hmatches
    obtain ⟨hkey, x, hx⟩ := h.complete k context d hlookup
    refine hall (x, d) hx ((h.matchesRow_iff hx).mpr ⟨context, ?_, hmatches⟩)
    rw [hkey]
    exact hlookup
  · intro hall p hp hmatches
    obtain ⟨context, hlookup, hcontext⟩ := (h.matchesRow_iff hp).mp hmatches
    exact hall _ context p.2 hlookup hcontext

end Lists

/-! ## Contexts in another order -/

/-- All that an analysis of the row sees of an entry. -/
def seenBy (row : Row) (p : Context × Definition) : Bool × Definition := (p.1.matchesRow row, p.2)

theorem analyzeRow_congr {ls ls' : List Library}
    (h : (entriesOf ls).map (seenBy row) = (entriesOf ls').map (seenBy row)) :
    analyzeRow ls today row = analyzeRow ls' today row := by
  let step (a : Analysis) (s : Bool × Definition) : Except Fault Analysis :=
    if s.1 then do if ← s.2.applies row today then a.add s.2 row else return a else .ok a
  have hstep : ∀ es : List (Context × Definition),
      es.foldlM (addEntry today row) {} = (es.map (seenBy row)).foldlM step {} := by
    intro es
    rw [List.foldlM_map]
    rfl
  rw [analyzeRow_eq, analyzeRow_eq, hstep, hstep, h]

section Rearranged

variable (c : Collection) {context context' : Context} (d : Definition)

theorem seenBy_append (h : context.same context' = true) :
    (c.append context d).2.entries.map (seenBy row)
      = (c.append context' d).2.entries.map (seenBy row) := by
  have htest : (fun l : Library => l.context.same context) = fun l => l.context.same context' := by
    funext l
    exact Context.same_congr l.context h
  rw [append, append, htest]
  cases c.libraries.find? fun l => l.context.same context' with
  | some l => rfl
  | none =>
      show (entriesOf (c.libraries ++ [⟨context, [d], _⟩])).map (seenBy row)
        = (entriesOf (c.libraries ++ [⟨context', [d], _⟩])).map (seenBy row)
      rw [entriesOf_append, entriesOf_append, List.map_append, List.map_append]
      show _ ++ [(context.matchesRow row, d)] = _ ++ [(context'.matchesRow row, d)]
      rw [matchesRow_congr h]

/-- Adding under a context in another order. -/
theorem analyzeRow_add_congr (h : context.same context' = true) :
    analyzeRow (c.edited (.add context d)).libraries today row
      = analyzeRow (c.edited (.add context' d)).libraries today row := by
  refine analyzeRow_congr ?_
  cases hfind : c.find d.id with
  | some f =>
      rw [edited_of_error (bind_of_error (add_eq_error context hfind) _),
        edited_of_error (bind_of_error (add_eq_error context' hfind) _)]
  | none =>
      rw [edited_of_ok (bind_of_ok (add_of_new context hfind) _),
        edited_of_ok (bind_of_ok (add_of_new context' hfind) _)]
      exact seenBy_append c d h

/-- Replacing under a context in another order. -/
theorem analyzeRow_update_congr (h : context.same context' = true) :
    analyzeRow (c.edited (.update context d)).libraries today row
      = analyzeRow (c.edited (.update context' d)).libraries today row := by
  refine analyzeRow_congr ?_
  cases hfind : c.find d.id with
  | none =>
      rw [edited_of_error (bind_of_error (update_eq_error context hfind) _),
        edited_of_error (bind_of_error (update_eq_error context' hfind) _)]
  | some f =>
      have hcontexts := Context.same_congr f.1.context h
      by_cases hstays : f.1.context.same context = true
      · rw [edited_of_ok (bind_of_ok (update_of_same context hfind hstays) _),
          edited_of_ok (bind_of_ok (update_of_same context' hfind (hcontexts ▸ hstays)) _)]
      · rw [edited_of_ok (bind_of_ok (update_of_moved context hfind hstays) _),
          edited_of_ok (bind_of_ok (update_of_moved context' hfind (hcontexts ▸ hstays)) _)]
        show (dropEmpty _).entries.map (seenBy row) = (dropEmpty _).entries.map (seenBy row)
        rw [entries_dropEmpty, entries_dropEmpty]
        exact seenBy_append _ d h

end Rearranged

/-! ## The main result -/

/-- **Grouping does not change tagging.** Whatever edits have been made from the start, an analysis of a
row succeeds exactly if each definition can be tried out on the row whose context, as it was given
last, matches. It collects, each once, the definitions for which that context matches and that apply.
Saving a definition under a context in another order leads to the same analysis. -/
theorem analysis_ignores_grouping (newId : Nat → String) (edits : List Edit)
    (hedits : ∀ e ∈ edits, e.IsNamed) (row : Row) (today : String) :
    let c := Collection.editedAll (.empty newId) edits
    let m := Ledger.editedAll ∅ edits
    ((∃ a, analyzeRow c.libraries today row = .ok a)
      ↔ ∀ k context d, m.lookup k = some (context, d) → context.matchesRow row = true →
          ∃ a, analyzeRow [previewLibrary d] today row = .ok a)
    ∧ (∀ a, analyzeRow c.libraries today row = .ok a →
        (↑a.matched : Multiset Definition) = m.tagging row today)
    ∧ ∀ (context context' : Context) (d : Definition), context.same context' = true →
        analyzeRow (c.edited (.add context d)).libraries today row
          = analyzeRow (c.edited (.add context' d)).libraries today row
        ∧ analyzeRow (c.edited (.update context d)).libraries today row
          = analyzeRow (c.edited (.update context' d)).libraries today row := by
  intro c m
  have hlists : Lists m c.entries := Lists.empty.editedAll (wellFormed_empty newId) hedits
  refine ⟨?_, ?_, ?_⟩
  · rw [analyzeRow_isOk_iff]
    exact hlists.forall_mem_iff fun d => ∃ a, analyzeRow [previewLibrary d] today row = .ok a
  · intro a ha
    rw [matched_of_analyzeRow ha]
    exact hlists.matched_eq_tagging
  · intro context context' d h
    exact ⟨analyzeRow_add_congr c d h, analyzeRow_update_congr c d h⟩

/-- The second definition joins a library whose context lists the same entries in another order; the third
one lies in a library that does not match. -/
theorem analysis_ignores_grouping_rearranged :
    let d (id : Datum) : Definition := { id := id, tag := .text "T" }
    let near : Context := [⟨"bank", "A"⟩, ⟨"kind", "fee"⟩]
    let edits : List Edit :=
      [.add near (d (.text "x")), .add near.reverse (d (.int 7)), .add [⟨"bank", "B"⟩] (d (.text "y"))]
    let row : Row := [("bank", .text "A"), ("kind", .text "fee")]
    let c := Collection.editedAll (.empty fun n => "L" ++ toString n) edits
    (∀ e ∈ edits, e.IsNamed)
    ∧ ∃ a, analyzeRow c.libraries "2024-05-01" row = .ok a
      ∧ a.matched = [d (.text "x"), d (.int 7)]
      ∧ (↑a.matched : Multiset Definition)
        = (Ledger.editedAll ∅ edits).tagging row "2024-05-01" := by
  intro d near edits row c
  have hedits : ∀ e ∈ edits, e.IsNamed := by decide
  obtain ⟨-, hmatched, -⟩ := analysis_ignores_grouping _ edits hedits row "2024-05-01"
  refine ⟨hedits, ?_⟩
  cases ha : analyzeRow c.libraries "2024-05-01" row with
  | error f =>
      have hok : (analyzeRow c.libraries "2024-05-01" row).toBool = true := by decide +kernel
      rw [ha] at hok
      cases hok
  | ok a => exact ⟨a, rfl, (matched_of_analyzeRow ha).trans rfl, hmatched a ha⟩

end StatementTagging
