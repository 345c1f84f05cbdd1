import Mathlib.Data.Finmap
import StatementTagging.Proofs.Rule.Collection

set_option autoImplicit false

/-! # A collection as a finite map

A *ledger* is what an editor thinks of when it saves definitions: under each identifier the context
given last, and the definition. A collection keeps the same things in lists of lists. The two
go together through any sequence of edits (`collection_simulates_ledger`): an edit fails on the one
exactly if it fails on the other, and what is found and listed is the same.

The relation between the two is stated on the entries of the collection (`Lists`). It is kept when an
entry is put in (`Lists.put`) and when one is taken out (`Lists.take`), and every edit is made of
these two.
-/

namespace StatementTagging

open Collection

/-- Under the key of each identifier, the context given last and the definition. -/
abbrev Ledger := Finmap fun _ : Key => Context × Definition

namespace Ledger

/-! ## Edits of a ledger -/

/-- Puts down a definition under a context, in the place of what was there. -/
def save (m : Ledger) (context : Context) (d : Definition) : Ledger :=
  m.insert d.id.key (context, d)

/-- Puts down the definitions of libraries one after the other. -/
def saveAll (m : Ledger) (ps : List (Context × Definition)) : Ledger :=
  ps.foldl (fun m p => m.save p.1 p.2) m

/-- An edit of a ledger. What is to be added must not be there, what is to be replaced or removed
must be. -/
def run (m : Ledger) : Edit → Except Fault Ledger
  | .add context d =>
    if d.id.key ∈ m then .error (.duplicateDefinition d.id.display) else .ok (m.save context d)
  | .update context d =>
    if d.id.key ∈ m then .ok (m.save context d) else .error (.unknownDefinition d.id.display)
  | .delete id =>
    if id.key ∈ m then .ok (m.erase id.key) else .error (.unknownDefinition id.display)
  | .importAll libraries => .ok (m.saveAll (entriesOf libraries))

/-- The ledger after an edit; one that fails leaves it as it was. -/
def edited (m : Ledger) (e : Edit) : Ledger :=
  match m.run e with
  | .ok m' => m'
  | .error _ => m

/-- The ledger after several edits. -/
def editedAll (m : Ledger) (edits : List Edit) : Ledger := edits.foldl edited m

/-- The definitions in a ledger. -/
def definitions (m : Ledger) : Multiset Definition := m.entries.map fun s => s.2.2

theorem edited_of_ok {m m' : Ledger} {e : Edit} (h : m.run e = .ok m') : m.edited e = m' := by
  rw [edited, h]

theorem edited_of_error {m : Ledger} {e : Edit} {f : Fault} (h : m.run e = .error f) :
    m.edited e = m := by
  rw [edited, h]

/-- Putting down what has been taken out. -/
theorem insert_erase {m : Ledger} {k : Key} {v : Context × Definition} (h : m.lookup k = some v) :
    (m.erase k).insert k v = m := by
  refine Finmap.ext_lookup fun j => ?_
  by_cases hj : j = k
  · rw [hj, Finmap.lookup_insert, h]
  · rw [Finmap.lookup_insert_of_ne _ hj, Finmap.lookup_erase_ne hj]

/-- Putting something down in the place of what was there. -/
theorem insert_eq_insert_erase (m : Ledger) (k : Key) (v : Context × Definition) :
    m.insert k v = (m.erase k).insert k v := by
  refine Finmap.ext_lookup fun j => ?_
  by_cases hj : j = k
  · rw [hj, Finmap.lookup_insert, Finmap.lookup_insert]
  · rw [Finmap.lookup_insert_of_ne _ hj, Finmap.lookup_insert_of_ne _ hj, Finmap.lookup_erase_ne hj]

theorem definitions_insert {m : Ledger} {k : Key} (v : Context × Definition) (h : k ∉ m) :
    definitions (m.insert k v) = v.2 ::ₘ definitions m := by
  rw [definitions, Finmap.entries_insert_of_notMem h, Multiset.map_cons]
  rfl

end Ledger

/-! ## The relation -/

/-- **The ledger lists the entries**: each entry under its key, with a context that is the same, and
nothing else. -/
structure Lists (m : Ledger) (es : List (Context × Definition)) : Prop where
  sound : ∀ p ∈ es, ∃ context, m.lookup p.2.id.key = some (context, p.2)
    ∧ p.1.same context = true
  complete : ∀ k context d, m.lookup k = some (context, d) → d.id.key = k ∧ ∃ x, (x, d) ∈ es
  definitions : (↑(es.map (·.2)) : Multiset Definition) = m.definitions

namespace Lists

variable {m : Ledger} {A B es es' : List (Context × Definition)} {context x : Context}
  {d e : Definition}

theorem empty : Lists ∅ [] where
  sound := fun _ hp => absurd hp List.not_mem_nil
  complete := by
    intro k context d h
    rw [Finmap.lookup_empty] at h
    cases h
  definitions := rfl

theorem coe_middle : (↑((A ++ (x, e) :: B).map (·.2)) : Multiset Definition)
    = e ::ₘ ↑((A ++ B).map (·.2)) := by
  rw [Multiset.cons_coe, Multiset.coe_eq_coe, List.map_append, List.map_append, List.map_cons]
  exact List.perm_middle

theorem mem_iff (h : Lists m es) (k : Key) : k ∈ m ↔ k ∈ keysOf es := by
  rw [Finmap.mem_iff, mem_keysOf_iff]
  constructor
  · rintro ⟨⟨context, d⟩, hlookup⟩
    obtain ⟨hk, x, hx⟩ := h.complete k context d hlookup
    exact ⟨(x, d), hx, hk⟩
  · rintro ⟨p, hp, rfl⟩
    obtain ⟨context, hlookup, -⟩ := h.sound p hp
    exact ⟨_, hlookup⟩

/-- **Putting in** an entry under a new key. -/
theorem put (h : Lists m (A ++ B)) (hnew : d.id.key ∉ keysOf (A ++ B))
    (hx : x.same context = true) : Lists (m.save context d) (A ++ (x, d) :: B) where
  sound := by
    intro p hp
    rcases mem_middle_iff.mp hp with rfl | hp
    · exact ⟨context, Finmap.lookup_insert m, hx⟩
    · obtain ⟨c, hlookup, hc⟩ := h.sound p hp
      have hkey : p.2.id.key ≠ d.id.key := fun heq => hnew (mem_keysOf_iff.mpr ⟨p, hp, heq⟩)
      exact ⟨c, (Finmap.lookup_insert_of_ne m hkey).trans hlookup, hc⟩
  complete := by
    intro k c e hlookup
    by_cases hk : k = d.id.key
    · rw [Ledger.save, hk, Finmap.lookup_insert] at hlookup
      obtain ⟨rfl, rfl⟩ := Prod.mk.inj (Option.some.inj hlookup)
      exact ⟨hk.symm, x, mem_middle_iff.mpr (Or.inl rfl)⟩
    · rw [Ledger.save, Finmap.lookup_insert_of_ne m hk] at hlookup
      obtain ⟨hkey, y, hy⟩ := h.complete k c e hlookup
      exact ⟨hkey, y, mem_middle_iff.mpr (Or.inr hy)⟩
  definitions := by
    have hnotMem : d.id.key ∉ m := fun hmem => hnew ((h.mem_iff _).mp hmem)
    rw [Ledger.save, Ledger.definitions_insert _ hnotMem, ← h.definitions, coe_middle]

/-- **Taking out** an entry. -/
theorem take (h : Lists m (A ++ (x, e) :: B)) (hkeyed : Keyed (A ++ (x, e) :: B)) :
    Lists (m.erase e.id.key) (A ++ B) := by
  obtain ⟨-, hother, -⟩ := keyed_middle_iff.mp hkeyed
  obtain ⟨context, hlookup, -⟩ := h.sound (x, e) (mem_middle_iff.mpr (Or.inl rfl))
  refine ⟨?_, ?_, ?_⟩
  · intro p hp
    obtain ⟨c, hp', hc⟩ := h.sound p (mem_middle_iff.mpr (Or.inr hp))
    have hkey : p.2.id.key ≠ e.id.key := fun heq => hother (mem_keysOf_iff.mpr ⟨p, hp, heq⟩)
    exact ⟨c, (Finmap.lookup_erase_ne hkey).trans hp', hc⟩
  · intro k c d hd
    have hk : k ≠ e.id.key := by
      rintro rfl
      rw [Finmap.lookup_erase] at hd
      cases hd
    rw [Finmap.lookup_erase_ne hk] at hd
    obtain ⟨hkey, y, hy⟩ := h.complete k c d hd
    refine ⟨hkey, y, (mem_middle_iff.mp hy).resolve_left ?_⟩
    rintro ⟨⟩
    exact hk hkey.symm
  · have hall := h.definitions
    rw [← Ledger.insert_erase hlookup, Ledger.definitions_insert _ Finmap.notMem_erase_self,
      coe_middle] at hall
    exact (Multiset.cons_inj_right e).mp hall

/-- Saving. -/
theorem save (h : Lists m es) (hs : Saves context d es es') (hd : d.id.IsName)
    (hkeyed : Keyed es) : Lists (m.save context d) es' := by
  cases hs with
  | new same fresh => exact h.put ((hkeyed.key_notMem_iff hd).mpr fresh) same
  | again same hid others =>
      obtain ⟨he, hother, -⟩ := keyed_middle_iff.mp hkeyed
      have hkey := (hasId_iff hd he).mp hid
      have htaken := h.take hkeyed
      rw [others, hkey] at htaken
      rw [others, hkey] at hother
      rw [Ledger.save, Ledger.insert_eq_insert_erase]
      exact htaken.put hother same

/-- Saving one after the other. -/
theorem saveAll {ps : List (Context × Definition)} (h : Lists m es) (hs : SavesAll ps es es')
    (hps : ∀ p ∈ ps, p.2.id.IsName) (hkeyed : Keyed es) : Lists (m.saveAll ps) es' := by
  induction hs generalizing m with
  | nil es => exact h
  | @cons p ps es es₁ es₂ first rest ih =>
      have hp : p.2.id.IsName := hps p List.mem_cons_self
      exact ih (h.save first hp hkeyed) (fun q hq => hps q (List.mem_cons_of_mem p hq))
        (first.keyed hkeyed hp)

/-- Removing. -/
theorem remove {id : Datum} (h : Lists m es) (hr : Removes id e es es') (hid : id.IsName)
    (hkeyed : Keyed es) : Lists (m.erase id.key) es' := by
  cases hr with
  | intro hsame =>
      obtain ⟨he, -, -⟩ := keyed_middle_iff.mp hkeyed
      rw [← (hasId_iff hid he).mp hsame]
      exact h.take hkeyed

/-! ## What is found -/

variable {c : Collection} {id : Datum}

theorem find_eq_none_iff (h : Lists m c.entries) (hc : c.WellFormed) (hid : id.IsName) :
    c.find id = none ↔ id.key ∉ m := by
  rw [h.mem_iff, hc.keyed.key_notMem_iff hid]
  exact findIn_eq_none_iff id c.libraries

theorem mem_of_find_eq_some (h : Lists m c.entries) (hc : c.WellFormed) (hid : id.IsName)
    {f : Library × Definition} (hfind : c.find id = some f) : id.key ∈ m := by
  by_contra hnot
  rw [(h.find_eq_none_iff hc hid).mpr hnot] at hfind
  cases hfind

/-- What stands under an identifier is found, in a library whose context is the same. -/
theorem exists_find (h : Lists m c.entries) (hc : c.WellFormed) (hid : id.IsName)
    (hlookup : m.lookup id.key = some (context, d)) :
    ∃ l ∈ c.libraries, c.find id = some (l, d) ∧ d ∈ l.definitions
      ∧ l.context.same context = true := by
  have hmem : id.key ∈ m := Finmap.mem_iff.mpr ⟨_, hlookup⟩
  cases hfind : c.find id with
  | none => exact absurd hmem ((h.find_eq_none_iff hc hid).mp hfind)
  | some f =>
      obtain ⟨l, e⟩ := f
      obtain ⟨hl, he, hsame⟩ := mem_of_find hfind
      have hentry : (l.context, e) ∈ c.entries := (mem_entriesOf_iff _ _ _).mpr ⟨l, hl, rfl, he⟩
      have hkey : e.id.key = id.key := (hasId_iff hid (hc.keyed.named _ hentry)).mp hsame
      -- what is found stands under the same key, so it is what stands there
      obtain ⟨context', hlookup', hcontext⟩ := h.sound (l.context, e) hentry
      rw [hkey, hlookup] at hlookup'
      obtain ⟨rfl, rfl⟩ := Prod.mk.inj (Option.some.inj hlookup')
      exact ⟨l, hl, rfl, he, hcontext⟩

/-! ## One edit, several edits -/

/-- **One edit** either leads to a collection and a ledger that go together, or fails on both for the
same reason. -/
theorem run (h : Lists m c.entries) (hc : c.WellFormed) {e : Edit} (he : e.IsNamed) :
    (∃ c' m', e.perform.run c = .ok () c' ∧ m.run e = .ok m' ∧ Lists m' c'.entries)
      ∨ ∃ f, e.perform.run c = .error f c ∧ m.run e = .error f := by
  have heffect := effect_perform hc he
  generalize e.perform.run c = r at heffect
  cases heffect with
  | @duplicate context d f hfind =>
      have hd : d.id.IsName := he d.id List.mem_cons_self
      exact Or.inr ⟨_, rfl, if_pos (h.mem_of_find_eq_some hc hd hfind)⟩
  | @added context d c' hfind hc' hs =>
      have hd : d.id.IsName := he d.id List.mem_cons_self
      exact Or.inl ⟨c', m.save context d, rfl, if_neg ((h.find_eq_none_iff hc hd).mp hfind),
        h.save hs hd hc.keyed⟩
  | @unknown context d hfind =>
      have hd : d.id.IsName := he d.id List.mem_cons_self
      exact Or.inr ⟨_, rfl, if_neg ((h.find_eq_none_iff hc hd).mp hfind)⟩
  | @updated context d c' f hfind hc' hs =>
      have hd : d.id.IsName := he d.id List.mem_cons_self
      exact Or.inl ⟨c', m.save context d, rfl, if_pos (h.mem_of_find_eq_some hc hd hfind),
        h.save hs hd hc.keyed⟩
  | @missing id hfind =>
      have hid : id.IsName := he id List.mem_cons_self
      exact Or.inr ⟨_, rfl, if_neg ((h.find_eq_none_iff hc hid).mp hfind)⟩
  | @deleted id c' f hfind hc' hr =>
      have hid : id.IsName := he id List.mem_cons_self
      exact Or.inl ⟨c', m.erase id.key, rfl, if_pos (h.mem_of_find_eq_some hc hid hfind),
        h.remove hr hid hc.keyed⟩
  | @imported libraries c' hc' hs =>
      exact Or.inl ⟨c', m.saveAll (entriesOf libraries), rfl, rfl,
        h.saveAll hs (named_importAll he) hc.keyed⟩

/-- One edit, failed or not, keeps the relation. -/
theorem edited (h : Lists m c.entries) (hc : c.WellFormed) {e : Edit} (he : e.IsNamed) :
    Lists (m.edited e) (c.edited e).entries := by
  rcases h.run hc he with ⟨c', m', hrun, hrun', h'⟩ | ⟨f, hrun, hrun'⟩
  · rw [edited_of_ok hrun, Ledger.edited_of_ok hrun']
    exact h'
  · rw [edited_of_error hrun, Ledger.edited_of_error hrun']
    exact h

/-- **Several edits** keep the relation. -/
theorem editedAll (h : Lists m c.entries) (hc : c.WellFormed) {edits : List Edit}
    (hedits : ∀ e ∈ edits, e.IsNamed) : Lists (m.editedAll edits) (c.editedAll edits).entries := by
  induction edits generalizing m c with
  | nil => exact h
  | cons e r ih =>
      have he : e.IsNamed := hedits e List.mem_cons_self
      exact ih (h.edited hc he) (hc.edited he) fun e' he' => hedits e' (List.mem_cons_of_mem e he')

end Lists

/-! ## The order of what is not named -/

namespace Edit

/-- The edit names the definition. -/
def names (e : Edit) (d : Definition) : Bool := e.ids.any (hasId · d)

/-- The definitions of a collection that an edit does not name, in order. -/
def spares (e : Edit) (c : Collection) : List Definition :=
  c.definitions.filter fun d => !e.names d

end Edit

section Order

variable {keep : Definition → Bool} {es es' : List (Context × Definition)}

/-- Saving keeps the order of whatever has another identifier. -/
theorem filter_of_saves {context : Context} {d : Definition} (hs : Saves context d es es')
    (hd : d.id.IsName) (hkeep : ∀ e, hasId d.id e = true → keep e = false) :
    (es'.map (·.2)).filter keep = (es.map (·.2)).filter keep := by
  have hself : keep d = false := hkeep d ((hasId_iff hd hd).mpr rfl)
  cases hs with
  | @new A B x same fresh => simp [hself]
  | @again A B A' B' x x' e same hid others =>
      have hmap := congrArg (fun es => (es.map (·.2)).filter keep) others
      simp only [List.map_append, List.filter_append] at hmap
      simp [hself, hkeep e hid, hmap]

theorem filter_of_savesAll {ps : List (Context × Definition)} (hs : SavesAll ps es es')
    (hps : ∀ p ∈ ps, p.2.id.IsName)
    (hkeep : ∀ p ∈ ps, ∀ e, hasId p.2.id e = true → keep e = false) :
    (es'.map (·.2)).filter keep = (es.map (·.2)).filter keep := by
  induction hs with
  | nil es => rfl
  | @cons p ps es es₁ es₂ first rest ih =>
      have hfirst := filter_of_saves first (hps p List.mem_cons_self) (hkeep p List.mem_cons_self)
      have hrest := ih (fun q hq => hps q (List.mem_cons_of_mem p hq))
        fun q hq => hkeep q (List.mem_cons_of_mem p hq)
      exact hrest.trans hfirst

theorem filter_of_removes {id : Datum} {d : Definition} (hr : Removes id d es es')
    (hkeep : ∀ e, hasId id e = true → keep e = false) :
    (es'.map (·.2)).filter keep = (es.map (·.2)).filter keep := by
  cases hr with
  | @intro A B x hid => simp [hkeep d hid]

/-- **Definitions that an edit does not name** stay, in their order. -/
theorem spares_edited {c : Collection} (hc : c.WellFormed) {e : Edit} (he : e.IsNamed) :
    e.spares (c.edited e) = e.spares c := by
  have hkeep : ∀ id ∈ e.ids, ∀ d, hasId id d = true → (!e.names d) = false := by
    intro id hid d hd
    rw [Edit.names, Bool.not_eq_false', List.any_eq_true]
    exact ⟨id, hid, hd⟩
  have heffect := effect_perform hc he
  rw [Edit.spares, Edit.spares, definitions_eq, definitions_eq, Collection.edited]
  generalize e.perform.run c = r at heffect
  cases heffect with
  | duplicate _ => rfl
  | unknown _ => rfl
  | missing _ => rfl
  | @added context d c' hfind hc' hs =>
      exact filter_of_saves hs (he d.id List.mem_cons_self) (hkeep d.id List.mem_cons_self)
  | @updated context d c' f hfind hc' hs =>
      exact filter_of_saves hs (he d.id List.mem_cons_self) (hkeep d.id List.mem_cons_self)
  | @deleted id c' f hfind hc' hr => exact filter_of_removes hr (hkeep id List.mem_cons_self)
  | @imported libraries c' hc' hs =>
      refine filter_of_savesAll hs (named_importAll he) fun p hp => hkeep p.2.id ?_
      refine List.mem_map_of_mem ?_
      rw [← map_snd_entriesOf]
      exact List.mem_map_of_mem hp

end Order

/-! ## The simulation -/

/-- **A collection represents a ledger**: what the ledger has under an identifier is what is found
under it, in a library with the same context up to order, and the definitions are those of the
ledger. -/
structure Represents (c : Collection) (m : Ledger) : Prop where
  absent : ∀ id : Datum, id.IsName → m.lookup id.key = none → c.find id = none
  present : ∀ (id : Datum) (context : Context) (d : Definition), id.IsName →
    m.lookup id.key = some (context, d) → ∃ l ∈ c.libraries, c.find id = some (l, d)
      ∧ d ∈ l.definitions ∧ l.context.same context = true
  definitions : (↑c.definitions : Multiset Definition) = m.definitions

theorem represents_of_lists {c : Collection} {m : Ledger} (h : Lists m c.entries)
    (hc : c.WellFormed) : Represents c m where
  absent := by
    intro id hid hlookup
    exact (h.find_eq_none_iff hc hid).mpr (Finmap.lookup_eq_none.mp hlookup)
  present := fun _ _ _ hid hlookup => h.exists_find hc hid hlookup
  definitions := by
    rw [definitions_eq]
    exact h.definitions

/-- **A collection is a finite map** from identifiers to contexts and definitions. Whatever edits have
been made from the start, what is found and listed is what the ledger says. The next edit fails
exactly if it fails on the ledger, for the same reason, and then leaves the collection as it was. It keeps the
order of the definitions it does not name. An import succeeds and gives the number of definitions in it. -/
theorem collection_simulates_ledger (newId : Nat → String) (edits : List Edit)
    (hedits : ∀ e ∈ edits, e.IsNamed) :
    let c := Collection.editedAll (.empty newId) edits
    let m := Ledger.editedAll ∅ edits
    Represents c m
    ∧ (∀ e : Edit, e.IsNamed →
        outcome (e.perform.run c) = (m.run e).map (fun _ => ())
        ∧ (∀ f c', e.perform.run c = .error f c' → c' = c)
        ∧ e.spares (c.edited e) = e.spares c)
    ∧ ∀ libraries, (Edit.importAll libraries).IsNamed →
        ∃ c', (importLibraries libraries).run c
          = .ok (libraries.flatMap (·.definitions)).length c' := by
  intro c m
  have hc : c.WellFormed := (wellFormed_empty newId).editedAll hedits
  have hlists : Lists m c.entries := Lists.empty.editedAll (wellFormed_empty newId) hedits
  refine ⟨represents_of_lists hlists hc, ?_, ?_⟩
  · intro e he
    refine ⟨?_, fun f c' hf => eq_of_perform_eq_error hc he hf, spares_edited hc he⟩
    rcases hlists.run hc he with ⟨c', m', hrun, hrun', -⟩ | ⟨f, hrun, hrun'⟩
    · rw [hrun, hrun']
      rfl
    · rw [hrun, hrun']
      rfl
  · intro libraries hlibraries
    obtain ⟨c', himport, -⟩ := importLibraries_eq_ok hc (named_importAll hlibraries)
    exact ⟨c', himport⟩

/-- Two definitions are put into one library, whose context is written in two orders, and one of them is
moved out and back. -/
theorem collection_simulates_ledger_move :
    let d (id : Datum) : Definition := { id := id, tag := .text "T" }
    let near : Context := [⟨"bank", "A"⟩, ⟨"kind", "fee"⟩]
    let edits : List Edit :=
      [.add near (d (.text "x")), .add near.reverse (d (.int 7)), .update [] (d (.text "x")),
        .add near (d (.int 7)), .delete (.text "y")]
    let c := Collection.editedAll (.empty fun n => "L" ++ toString n) edits
    let m := Ledger.editedAll ∅ edits
    (∀ e ∈ edits, e.IsNamed)
    ∧ Represents c m
    ∧ (∃ l ∈ c.libraries, c.find (.int 7) = some (l, d (.int 7)) ∧ l.context.same near = true)
    ∧ outcome ((Edit.update near (d (.text "x"))).perform.run c)
        = (m.run (.update near (d (.text "x")))).map (fun _ => ()) := by
  intro d near edits c m
  have hedits : ∀ e ∈ edits, e.IsNamed := by decide
  obtain ⟨hrepresents, hrun, -⟩ := collection_simulates_ledger _ edits hedits
  have hlookup : m.lookup (.number 7) = some (near.reverse, d (.int 7)) := rfl
  obtain ⟨l, hl, hfind, -, hcontext⟩ := hrepresents.present (.int 7) _ _ (by decide) hlookup
  refine ⟨hedits, hrepresents, ⟨l, hl, hfind, ?_⟩, (hrun _ (by decide)).1⟩
  exact (context_same_iff _ _).mpr
    (((context_same_iff _ _).mp hcontext).trans (List.reverse_perm near))

end StatementTagging
