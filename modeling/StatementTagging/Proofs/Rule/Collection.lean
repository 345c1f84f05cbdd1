import Mathlib.Data.List.Nodup
import StatementTagging.Proofs.Rule.Sameness
import StatementTagging.Rule.Collection

set_option autoImplicit false

/-! # What edits do to a collection

A collection is looked at through its *entries*: its definitions in order, each with the context of its
library. Every way of saving a definition comes to the same on the entries (`Saves`): an entry with
its identifier is taken out, if there is one, and an entry for it is put in at some place, under a
context that is the same as the one given. Whether it stays in its place, moves, opens a library or
empties one makes no difference.

An edit is located twice, first by the identifier and then by equality with the definition found. Both
lead to the same entry, since equal definitions have the same identifier (`entriesOf_changed`).

What an edit can do is said once (`effect_perform`). The main result here is that no sequence of edits
breaks the layout of a collection (`wellFormed_after_edits`): identifiers differ, contexts differ, and
no library is empty.
-/

namespace StatementTagging.Collection

/-! ## One step after the other -/

section Steps

variable {α β : Type} {x : Editing α} {c c' : Collection}

theorem bind_of_ok {a : α} (h : x.run c = .ok a c') (g : α → Editing β) :
    (x >>= g).run c = (g a).run c' := by
  show EStateM.bind x g c = _
  rw [EStateM.run] at h
  rw [EStateM.bind, h, EStateM.run]

theorem bind_of_error {f : Fault} (h : x.run c = .error f c') (g : α → Editing β) :
    (x >>= g).run c = .error f c' := by
  show EStateM.bind x g c = _
  rw [EStateM.run] at h
  rw [EStateM.bind, h]

/-- What depends on the collection. -/
theorem run_get_bind (g : Collection → Editing β) (c : Collection) : (get >>= g).run c = (g c).run c := rfl

end Steps

/-! ## Entries -/

theorem mem_middle_iff {α : Type} {A B : List α} {p q : α} : p ∈ A ++ q :: B ↔ p = q ∨ p ∈ A ++ B :=
  List.perm_middle.mem_iff.trans List.mem_cons

/-- The definitions of libraries, each with the context of its library. -/
def entriesOf (libraries : List Library) : List (Context × Definition) :=
  libraries.flatMap fun l => l.definitions.map (l.context, ·)

/-- The definitions of a collection, each with the context of its library. -/
def entries (c : Collection) : List (Context × Definition) := entriesOf c.libraries

theorem entriesOf_cons (l : Library) (r : List Library) :
    entriesOf (l :: r) = l.definitions.map (l.context, ·) ++ entriesOf r :=
  List.flatMap_cons

theorem entriesOf_append (a b : List Library) : entriesOf (a ++ b) = entriesOf a ++ entriesOf b :=
  List.flatMap_append

theorem map_snd_entriesOf (libraries : List Library) :
    (entriesOf libraries).map (·.2) = libraries.flatMap (·.definitions) := by
  induction libraries with
  | nil => rfl
  | cons l r ih =>
      rw [entriesOf_cons, List.map_append, ih, List.map_map, List.flatMap_cons]
      congr 1
      exact List.map_id _

theorem definitions_eq (c : Collection) : c.definitions = c.entries.map (·.2) :=
  (map_snd_entriesOf c.libraries).symm

theorem mem_entriesOf_iff (libraries : List Library) (x : Context) (d : Definition) :
    (x, d) ∈ entriesOf libraries ↔ ∃ l ∈ libraries, l.context = x ∧ d ∈ l.definitions := by
  rw [entriesOf, List.mem_flatMap]
  constructor
  · rintro ⟨l, hl, h⟩
    obtain ⟨e, he, heq⟩ := List.mem_map.mp h
    obtain ⟨rfl, rfl⟩ := Prod.mk.inj heq
    exact ⟨l, hl, rfl, he⟩
  · rintro ⟨l, hl, rfl, hd⟩
    exact ⟨l, hl, List.mem_map.mpr ⟨d, hd, rfl⟩⟩

/-! ## Finding -/

/-- The library in which a definition is found is the first that holds its identifier. -/
theorem exists_split_of_findIn {id : Datum} {libraries : List Library} {l : Library} {d : Definition}
    (h : findIn id libraries = some (l, d)) :
    ∃ as bs, libraries = as ++ l :: bs ∧ (∀ a ∈ as, holds id a = false)
      ∧ l.definitions.find? (hasId id) = some d := by
  induction libraries with
  | nil => cases h
  | cons k r ih =>
      rw [findIn] at h
      cases hk : k.definitions.find? (hasId id) with
      | some e =>
          rw [hk] at h
          obtain ⟨rfl, rfl⟩ := Prod.mk.inj (Option.some.inj h)
          exact ⟨[], r, rfl, fun a ha => absurd ha List.not_mem_nil, hk⟩
      | none =>
          rw [hk] at h
          obtain ⟨as, bs, rfl, has, hd⟩ := ih h
          refine ⟨k :: as, bs, rfl, ?_, hd⟩
          intro a ha
          rcases List.mem_cons.mp ha with rfl | ha
          · rw [holds, List.any_eq_false]
            exact List.find?_eq_none.mp hk
          · exact has a ha

theorem findIn_eq_none_iff (id : Datum) (libraries : List Library) :
    findIn id libraries = none ↔ ∀ p ∈ entriesOf libraries, hasId id p.2 = false := by
  induction libraries with
  | nil => exact ⟨fun _ p hp => absurd hp List.not_mem_nil, fun _ => rfl⟩
  | cons l r ih =>
      rw [findIn, entriesOf_cons]
      cases hl : l.definitions.find? (hasId id) with
      | some d =>
          have hd := List.mem_of_find?_eq_some hl
          have hid := List.find?_some hl
          refine ⟨fun h => absurd h (by simp), fun h => ?_⟩
          have hfalse := h (l.context, d) (by simp [hd])
          rw [hid] at hfalse
          cases hfalse
      | none =>
          have hall := List.find?_eq_none.mp hl
          simp only [ih, List.mem_append, List.mem_map]
          constructor
          · rintro h p (⟨d, hd, rfl⟩ | hp)
            · exact Bool.eq_false_iff.mpr (hall d hd)
            · exact h p hp
          · exact fun h p hp => h p (Or.inr hp)

/-- What is found is in the collection and has the identifier. -/
theorem mem_of_findIn {libraries : List Library} {id : Datum} {l : Library} {d : Definition}
    (h : findIn id libraries = some (l, d)) :
    l ∈ libraries ∧ d ∈ l.definitions ∧ hasId id d = true := by
  obtain ⟨as, bs, rfl, -, hd⟩ := exists_split_of_findIn h
  exact ⟨List.mem_append_right as List.mem_cons_self, List.mem_of_find?_eq_some hd, List.find?_some hd⟩

theorem mem_of_find {c : Collection} {id : Datum} {l : Library} {d : Definition}
    (h : c.find id = some (l, d)) : l ∈ c.libraries ∧ d ∈ l.definitions ∧ hasId id d = true :=
  mem_of_findIn h

/-! ## Changing one library -/

theorem changeFirst_split (test : Library → Bool) (change : Library → Library) {as : List Library}
    {l : Library} (bs : List Library) (has : ∀ a ∈ as, test a = false) (hl : test l = true) :
    changeFirst test change (as ++ l :: bs) = as ++ change l :: bs := by
  induction as with
  | nil =>
      show (if test l = true then change l :: bs else _) = _
      rw [if_pos hl]
      rfl
  | cons a as ih =>
      have ha : ¬ test a = true := by
        rw [has a List.mem_cons_self]
        exact Bool.false_ne_true
      show (if test a = true then _ else a :: changeFirst test change (as ++ l :: bs)) = _
      rw [if_neg ha, ih fun b hb => has b (List.mem_cons_of_mem a hb)]
      rfl

theorem map_context_changeFirst (test : Library → Bool) {change : Library → Library}
    (h : ∀ l, (change l).context = l.context) (libraries : List Library) :
    (changeFirst test change libraries).map (·.context) = libraries.map (·.context) := by
  induction libraries with
  | nil => rfl
  | cons l r ih =>
      rw [changeFirst]
      by_cases hl : test l = true
      · rw [if_pos hl, List.map_cons, List.map_cons, h]
      · rw [if_neg hl, List.map_cons, List.map_cons, ih]

theorem mem_changeFirst {test : Library → Bool} {change : Library → Library}
    {libraries : List Library} {l : Library} (h : l ∈ changeFirst test change libraries) :
    l ∈ libraries ∨ ∃ k ∈ libraries, l = change k := by
  induction libraries with
  | nil => cases h
  | cons k r ih =>
      rw [changeFirst] at h
      by_cases hk : test k = true
      · rw [if_pos hk] at h
        rcases List.mem_cons.mp h with rfl | h
        · exact Or.inr ⟨k, List.mem_cons_self, rfl⟩
        · exact Or.inl (List.mem_cons_of_mem k h)
      · rw [if_neg hk] at h
        rcases List.mem_cons.mp h with rfl | h
        · exact Or.inl List.mem_cons_self
        · rcases ih h with h | ⟨j, hj, rfl⟩
          · exact Or.inl (List.mem_cons_of_mem k h)
          · exact Or.inr ⟨j, List.mem_cons_of_mem k hj, rfl⟩

/-! ## Changing one definition -/

/-- Looking for the definition found, or one equal to it, leads to the definition found. -/
theorem changeDefinition_split {id : Datum} {found : Definition} {ds : List Definition}
    (h : ds.find? (hasId id) = some found)
    (hequal : ∀ d ∈ ds, d.same found = true → hasId id d = true) :
    ∃ as bs, ds = as ++ found :: bs
      ∧ ∀ change, changeDefinition id found change ds = as ++ change found ++ bs := by
  obtain ⟨hfound, as, bs, rfl, has⟩ := List.find?_eq_some_iff_append.mp h
  refine ⟨as, bs, rfl, fun change => ?_⟩
  clear h
  induction as with
  | nil =>
      show (if (hasId id found || found.same found) = true then change found ++ bs else _) = _
      rw [hfound, Bool.true_or, if_pos rfl]
      rfl
  | cons a as ih =>
      have ha : hasId id a = false := by simpa using has a List.mem_cons_self
      have hne : a.same found = false := by
        rw [Bool.eq_false_iff]
        intro hsame
        have htrue := hequal a List.mem_cons_self hsame
        rw [ha] at htrue
        cases htrue
      have hrest := ih (fun b hb => has b (List.mem_cons_of_mem a hb))
        (fun d hd => hequal d (List.mem_cons_of_mem a hd))
      show (if (hasId id a || a.same found) = true then _
        else a :: changeDefinition id found change (as ++ found :: bs)) = _
      rw [ha, hne, Bool.or_false, if_neg Bool.false_ne_true, hrest]
      rfl

/-- **A change at the definition found** touches its entry and no other. -/
theorem entriesOf_changed {id : Datum} {libraries : List Library} {l : Library} {found : Definition}
    (h : findIn id libraries = some (l, found))
    (hequal : ∀ p ∈ entriesOf libraries, p.2.same found = true → hasId id p.2 = true) :
    ∃ A B, entriesOf libraries = A ++ (l.context, found) :: B
      ∧ ∀ change, entriesOf (changed id found change libraries)
          = A ++ (change found).map (l.context, ·) ++ B := by
  obtain ⟨as, bs, rfl, has, hfound⟩ := exists_split_of_findIn h
  have hl : holds id l = true :=
    List.any_eq_true.mpr ⟨found, List.mem_of_find?_eq_some hfound, List.find?_some hfound⟩
  obtain ⟨ds, es, hds, hchange⟩ := changeDefinition_split hfound fun d hd =>
    hequal (l.context, d) ((mem_entriesOf_iff _ _ _).mpr ⟨l, by simp, rfl, hd⟩)
  refine ⟨entriesOf as ++ ds.map (l.context, ·), es.map (l.context, ·) ++ entriesOf bs, ?_, ?_⟩
  · rw [entriesOf_append, entriesOf_cons, hds]
    simp
  · intro change
    rw [changed, changeFirst_split _ _ bs has hl, entriesOf_append, entriesOf_cons, hchange]
    simp

/-! ## Appending and dropping -/

/-- A definition is put at the end of the first library with the context, or into one that is opened. -/
theorem append_cases (c : Collection) (context : Context) (d : Definition) :
    (∃ as l bs, c.libraries = as ++ l :: bs ∧ (∀ a ∈ as, a.context.same context = false)
        ∧ l.context.same context = true
        ∧ (c.append context d).2.libraries = as ++ { l with definitions := l.definitions ++ [d] } :: bs)
      ∨ ∃ id, (∀ a ∈ c.libraries, a.context.same context = false)
        ∧ (c.append context d).2.libraries = c.libraries ++ [⟨context, [d], id⟩] := by
  rw [append]
  cases hfind : c.libraries.find? (·.context.same context) with
  | some l =>
      obtain ⟨hl, as, bs, hlibraries, has⟩ := List.find?_eq_some_iff_append.mp hfind
      have has' : ∀ a ∈ as, a.context.same context = false := fun a ha => by simpa using has a ha
      refine Or.inl ⟨as, l, bs, hlibraries, has', hl, ?_⟩
      show changeFirst _ _ c.libraries = _
      rw [hlibraries, changeFirst_split _ _ bs has' hl]
  | none =>
      have hnone := List.find?_eq_none.mp hfind
      exact Or.inr ⟨_, fun a ha => Bool.eq_false_iff.mpr (hnone a ha), rfl⟩

/-- Saving at the end of a library puts in one entry, under the same context. -/
theorem entries_append (c : Collection) (context : Context) (d : Definition) :
    ∃ A B x, c.entries = A ++ B ∧ (c.append context d).2.entries = A ++ (x, d) :: B
      ∧ x.same context = true := by
  rcases append_cases c context d with ⟨as, l, bs, hbefore, -, hl, hafter⟩ | ⟨id, -, hafter⟩
  · refine ⟨entriesOf as ++ l.definitions.map (l.context, ·), entriesOf bs, l.context, ?_, ?_, hl⟩
    · rw [entries, hbefore, entriesOf_append, entriesOf_cons, List.append_assoc]
    · rw [entries, hafter, entriesOf_append, entriesOf_cons]
      simp
  · refine ⟨c.entries, [], context, (List.append_nil _).symm, ?_, Context.same_refl context⟩
    rw [entries, hafter, entriesOf_append]
    rfl

theorem entries_dropEmpty (c : Collection) : c.dropEmpty.entries = c.entries := by
  show entriesOf (c.libraries.filter fun l => !l.definitions.isEmpty) = entriesOf c.libraries
  induction c.libraries with
  | nil => rfl
  | cons l r ih =>
      rw [List.filter_cons, entriesOf_cons]
      cases hl : l.definitions with
      | nil => simpa using ih
      | cons d ds => simp [entriesOf_cons, hl, ih]

/-! ## The layout -/

/-- The contexts of libraries differ from each other. -/
def ContextsDiffer (libraries : List Library) : Prop :=
  libraries.Pairwise fun a b => a.context.same b.context = false

/-- No library is empty. -/
def Occupied (libraries : List Library) : Prop := ∀ l ∈ libraries, l.definitions ≠ []

/-- **The layout of a collection**: identifiers are texts or integers and differ from each other, the
contexts of libraries differ from each other, and no library is empty. -/
structure WellFormed (c : Collection) : Prop where
  named : ∀ d ∈ c.definitions, d.id.IsName
  ids : c.definitions.Pairwise fun a b => a.id.same b.id = false
  contexts : ContextsDiffer c.libraries
  occupied : Occupied c.libraries

theorem wellFormed_empty (newId : Nat → String) : WellFormed (empty newId) where
  named := fun _ hd => absurd hd List.not_mem_nil
  ids := List.Pairwise.nil
  contexts := List.Pairwise.nil
  occupied := fun _ hl => absurd hl List.not_mem_nil

theorem contextsDiffer_iff (libraries : List Library) : ContextsDiffer libraries
    ↔ (libraries.map (·.context)).Pairwise fun a b => a.same b = false := by
  rw [List.pairwise_map]
  rfl

theorem contextsDiffer_changeFirst {test : Library → Bool} {change : Library → Library}
    (h : ∀ l, (change l).context = l.context) {libraries : List Library}
    (hdiffer : ContextsDiffer libraries) : ContextsDiffer (changeFirst test change libraries) := by
  rw [contextsDiffer_iff] at hdiffer ⊢
  rw [map_context_changeFirst test h]
  exact hdiffer

theorem contextsDiffer_append {c : Collection} (context : Context) (d : Definition)
    (hdiffer : ContextsDiffer c.libraries) :
    ContextsDiffer (c.append context d).2.libraries := by
  rcases append_cases c context d with ⟨as, l, bs, hbefore, -, -, hafter⟩ | ⟨id, hnew, hafter⟩
  · rw [contextsDiffer_iff, hbefore] at hdiffer
    rw [contextsDiffer_iff, hafter]
    simpa using hdiffer
  · rw [hafter]
    refine List.pairwise_append.mpr ⟨hdiffer, List.pairwise_singleton _ _, ?_⟩
    intro a ha b hb
    rw [List.mem_singleton.mp hb]
    exact hnew a ha

theorem occupied_append {c : Collection} (context : Context) (d : Definition)
    (hoccupied : Occupied c.libraries) : Occupied (c.append context d).2.libraries := by
  rcases append_cases c context d with ⟨as, l, bs, hbefore, -, -, hafter⟩ | ⟨id, -, hafter⟩
  · intro k hk
    rw [hafter] at hk
    rcases mem_middle_iff.mp hk with rfl | hk
    · exact List.append_ne_nil_of_right_ne_nil _ (List.cons_ne_nil d [])
    · rw [Occupied, hbefore] at hoccupied
      exact hoccupied k (mem_middle_iff.mpr (Or.inr hk))
  · intro k hk
    rw [hafter] at hk
    rcases List.mem_append.mp hk with hk | hk
    · exact hoccupied k hk
    · rw [List.mem_singleton.mp hk]
      exact List.cons_ne_nil d []

theorem changeDefinition_ne_nil {id : Datum} {found : Definition}
    {change : Definition → List Definition} (hchange : ∀ e, change e ≠ []) {ds : List Definition}
    (h : ds ≠ []) : changeDefinition id found change ds ≠ [] := by
  cases ds with
  | nil => exact absurd rfl h
  | cons e r =>
      rw [changeDefinition]
      by_cases he : (hasId id e || e.same found) = true
      · rw [if_pos he]
        exact List.append_ne_nil_of_left_ne_nil (hchange e) r
      · rw [if_neg he]
        exact List.cons_ne_nil e _

theorem occupied_replaced {id : Datum} {found d : Definition} {libraries : List Library}
    (hoccupied : Occupied libraries) : Occupied (replaced id found d libraries) := by
  intro l hl
  rcases mem_changeFirst hl with hl | ⟨k, hk, rfl⟩
  · exact hoccupied l hl
  · exact changeDefinition_ne_nil (fun _ => List.cons_ne_nil d []) (hoccupied k hk)

theorem occupied_dropEmpty (c : Collection) : Occupied c.dropEmpty.libraries := by
  intro l hl
  have hne := (List.mem_filter.mp hl).2
  simpa using hne

theorem contextsDiffer_dropEmpty {c : Collection} (hdiffer : ContextsDiffer c.libraries) :
    ContextsDiffer c.dropEmpty.libraries :=
  List.Pairwise.filter _ hdiffer

/-! ## Saving and removing, on entries -/

/-- **Saving a definition** under a context: an entry with its identifier is taken out, if there is one,
and an entry for it is put in at some place. -/
inductive Saves (context : Context) (d : Definition) :
    List (Context × Definition) → List (Context × Definition) → Prop where
  | new {A B : List (Context × Definition)} {x : Context} (same : x.same context = true)
      (fresh : ∀ p ∈ A ++ B, hasId d.id p.2 = false) : Saves context d (A ++ B) (A ++ (x, d) :: B)
  | again {A B A' B' : List (Context × Definition)} {x x' : Context} {e : Definition}
      (same : x'.same context = true) (hid : hasId d.id e = true) (others : A ++ B = A' ++ B') :
      Saves context d (A ++ (x, e) :: B) (A' ++ (x', d) :: B')

/-- Saving several definitions one after the other. -/
inductive SavesAll : List (Context × Definition) → List (Context × Definition) →
    List (Context × Definition) → Prop where
  | nil (es : List (Context × Definition)) : SavesAll [] es es
  | cons {p : Context × Definition} {ps es es' es'' : List (Context × Definition)}
      (first : Saves p.1 p.2 es es') (rest : SavesAll ps es' es'') : SavesAll (p :: ps) es es''

/-- Removing the definition with an identifier. -/
inductive Removes (id : Datum) (d : Definition) :
    List (Context × Definition) → List (Context × Definition) → Prop where
  | intro {A B : List (Context × Definition)} {x : Context} (hid : hasId id d = true) :
      Removes id d (A ++ (x, d) :: B) (A ++ B)

/-- The keys of entries. -/
def keysOf (es : List (Context × Definition)) : List Key := es.map (·.2.id.key)

/-- Entries that can be told apart: their identifiers are texts or integers, and differ. -/
structure Keyed (es : List (Context × Definition)) : Prop where
  named : ∀ p ∈ es, p.2.id.IsName
  keys : (keysOf es).Nodup

section Keys

variable {es A B : List (Context × Definition)} {x : Context} {e : Definition} {id : Datum}

theorem mem_keysOf_iff {k : Key} : k ∈ keysOf es ↔ ∃ p ∈ es, p.2.id.key = k :=
  List.mem_map

theorem hasId_iff (hid : id.IsName) (he : e.id.IsName) : hasId id e = true ↔ e.id.key = id.key :=
  same_iff_key_eq he hid

/-- An identifier is new exactly if its key is. -/
theorem Keyed.key_notMem_iff (h : Keyed es) (hid : id.IsName) :
    id.key ∉ keysOf es ↔ ∀ p ∈ es, hasId id p.2 = false := by
  rw [mem_keysOf_iff, not_exists]
  refine forall_congr' fun p => ?_
  rw [not_and]
  refine forall_congr' fun hp => ?_
  exact (same_eq_false_iff_key_ne (h.named p hp) hid).symm

/-- Putting an entry in keeps the others apart exactly if its key is new. -/
theorem keyed_middle_iff :
    Keyed (A ++ (x, e) :: B) ↔ e.id.IsName ∧ e.id.key ∉ keysOf (A ++ B) ∧ Keyed (A ++ B) := by
  have hkeys : (keysOf (A ++ (x, e) :: B)).Nodup
      ↔ e.id.key ∉ keysOf (A ++ B) ∧ (keysOf (A ++ B)).Nodup := by
    rw [keysOf, keysOf, List.map_append, List.map_append, List.map_cons, List.nodup_middle,
      List.nodup_cons]
  constructor
  · rintro ⟨hnamed, hnodup⟩
    obtain ⟨hnew, hrest⟩ := hkeys.mp hnodup
    refine ⟨hnamed (x, e) (mem_middle_iff.mpr (Or.inl rfl)), hnew, ?_, hrest⟩
    exact fun p hp => hnamed p (mem_middle_iff.mpr (Or.inr hp))
  · rintro ⟨he, hnew, hnamed, hrest⟩
    refine ⟨?_, hkeys.mpr ⟨hnew, hrest⟩⟩
    intro p hp
    rcases mem_middle_iff.mp hp with rfl | hp
    · exact he
    · exact hnamed p hp

theorem Keyed.of_append_left (h : Keyed (A ++ B)) : Keyed A where
  named := fun p hp => h.named p (List.mem_append_left B hp)
  keys := h.keys.sublist ((List.sublist_append_left A B).map _)

/-- What is equal to a definition found has its identifier. -/
theorem Keyed.hasId_of_same {libraries : List Library} (h : Keyed (entriesOf libraries))
    (hid : id.IsName) {l : Library} {found : Definition} (hfound : findIn id libraries = some (l, found)) :
    ∀ p ∈ entriesOf libraries, p.2.same found = true → hasId id p.2 = true := by
  intro p hp hsame
  obtain ⟨hl, hd, hfoundId⟩ := mem_of_findIn hfound
  have hp' : p.2.id.IsName := h.named p hp
  have hfound' : found.id.IsName :=
    h.named (l.context, found) ((mem_entriesOf_iff _ _ _).mpr ⟨l, hl, rfl, hd⟩)
  rw [hasId_iff hid hp']
  calc p.2.id.key
      = found.id.key := (same_iff_key_eq hp' hfound').mp (Definition.id_same_of_same hsame)
    _ = id.key := (hasId_iff hid hfound').mp hfoundId

/-- An identifier is that of one entry. -/
theorem Keyed.eq_of_hasId (h : Keyed es) (hid : id.IsName) {p q : Context × Definition} (hp : p ∈ es)
    (hq : q ∈ es) (hpid : hasId id p.2 = true) (hqid : hasId id q.2 = true) : p = q := by
  refine List.inj_on_of_nodup_map h.keys hp hq ?_
  rw [(hasId_iff hid (h.named p hp)).mp hpid, (hasId_iff hid (h.named q hq)).mp hqid]

/-- The definitions of entries have identifiers that differ exactly if their keys do. -/
theorem ids_differ_iff (hnamed : ∀ p ∈ es, p.2.id.IsName) :
    (es.map (·.2)).Pairwise (fun a b => a.id.same b.id = false) ↔ (keysOf es).Nodup := by
  rw [List.pairwise_map, keysOf, List.Nodup, List.pairwise_map]
  refine List.Pairwise.iff_of_mem fun {a b} ha hb => ?_
  exact same_eq_false_iff_key_ne (hnamed a ha) (hnamed b hb)

end Keys

/-- Saving keeps identifiers different. -/
theorem Saves.keyed {context : Context} {d : Definition} {es es' : List (Context × Definition)}
    (hs : Saves context d es es') (h : Keyed es) (hd : d.id.IsName) : Keyed es' := by
  cases hs with
  | new same fresh => exact keyed_middle_iff.mpr ⟨hd, (h.key_notMem_iff hd).mpr fresh, h⟩
  | again same hid others =>
      obtain ⟨he, hnew, hrest⟩ := keyed_middle_iff.mp h
      rw [(hasId_iff hd he).mp hid, others] at hnew
      rw [others] at hrest
      exact keyed_middle_iff.mpr ⟨hd, hnew, hrest⟩

/-- So does removing. -/
theorem Removes.keyed {id : Datum} {d : Definition} {es es' : List (Context × Definition)}
    (hr : Removes id d es es') (h : Keyed es) : Keyed es' := by
  cases hr with
  | intro hid => exact (keyed_middle_iff.mp h).2.2

namespace WellFormed

variable {c : Collection}

theorem keyed (h : c.WellFormed) : Keyed c.entries := by
  have hnamed : ∀ p ∈ c.entries, p.2.id.IsName := by
    intro p hp
    refine h.named p.2 ?_
    rw [definitions_eq]
    exact List.mem_map_of_mem hp
  refine ⟨hnamed, ?_⟩
  rw [← ids_differ_iff hnamed, ← definitions_eq]
  exact h.ids

/-- The layout, from the keys of the entries. -/
theorem of_keyed (h : Keyed c.entries) (hcontexts : ContextsDiffer c.libraries)
    (hoccupied : Occupied c.libraries) : c.WellFormed where
  named := by
    intro d hd
    rw [definitions_eq] at hd
    obtain ⟨p, hp, rfl⟩ := List.mem_map.mp hd
    exact h.named p hp
  ids := by
    rw [definitions_eq, ids_differ_iff h.named]
    exact h.keys
  contexts := hcontexts
  occupied := hoccupied

/-- What is equal to a definition found has its identifier. -/
theorem hasId_of_same (h : c.WellFormed) {id : Datum} (hid : id.IsName) {l : Library}
    {found : Definition} (hfound : c.find id = some (l, found)) :
    ∀ p ∈ entriesOf c.libraries, p.2.same found = true → hasId id p.2 = true :=
  h.keyed.hasId_of_same hid hfound

end WellFormed

/-! ## The operations -/

section Operations

variable {c : Collection} (context : Context) {d e : Definition} {l : Library} {id : Datum}

theorem located_eq_error (hnone : c.find id = none) :
    (located id).run c = .error (.unknownDefinition id.display) c := by
  rw [located, run_get_bind, hnone]
  rfl

theorem located_eq_ok {f : Library × Definition} (hfound : c.find id = some f) :
    (located id).run c = .ok f c := by
  rw [located, run_get_bind, hfound]
  rfl

theorem add_eq_error {f : Library × Definition} (hfound : c.find d.id = some f) :
    (add context d).run c = .error (.duplicateDefinition d.id.display) c := by
  rw [add, run_get_bind, hfound]
  rfl

/-- A new definition is appended. -/
theorem add_of_new (hnone : c.find d.id = none) :
    (add context d).run c = .ok (c.append context d).1 (c.append context d).2 := by
  rw [add, run_get_bind, hnone]
  rfl

theorem update_eq_error (hnone : c.find d.id = none) :
    (update context d).run c = .error (.unknownDefinition d.id.display) c :=
  bind_of_error (located_eq_error hnone) _

/-- The definition stays in its place. -/
theorem update_of_same (hfound : c.find d.id = some (l, e)) (hsame : l.context.same context = true) :
    (update context d).run c = .ok l.id { c with libraries := replaced d.id e d c.libraries } := by
  rw [update, bind_of_ok (located_eq_ok hfound)]
  dsimp only
  rw [if_pos hsame]
  rfl

/-- The definition is taken out and saved elsewhere, and empty libraries are dropped. -/
theorem update_of_moved (hfound : c.find d.id = some (l, e)) (hmoved : ¬ l.context.same context = true) :
    let moved := append context d { c with libraries := removed d.id e c.libraries }
    (update context d).run c = .ok moved.1 moved.2.dropEmpty := by
  intro moved
  rw [update, bind_of_ok (located_eq_ok hfound)]
  dsimp only
  rw [if_neg hmoved]
  rfl

theorem delete_eq_error (hnone : c.find id = none) :
    (delete id).run c = .error (.unknownDefinition id.display) c :=
  bind_of_error (located_eq_error hnone) _

/-- The definition is taken out, and empty libraries are dropped. -/
theorem delete_of_found (hfound : c.find id = some (l, e)) :
    (delete id).run c = .ok e (dropEmpty { c with libraries := removed id e c.libraries }) := by
  rw [delete, bind_of_ok (located_eq_ok hfound)]
  rfl

theorem upsert_of_new (hnone : c.find d.id = none) :
    (upsert context d).run c = (add context d).run c := by
  rw [upsert, run_get_bind, hnone]

theorem upsert_of_found {f : Library × Definition} (hfound : c.find d.id = some f) :
    (upsert context d).run c = (update context d).run c := by
  rw [upsert, run_get_bind, hfound]

theorem add_eq_ok (h : c.WellFormed) (hd : d.id.IsName) (hnone : c.find d.id = none) :
    ∃ i c', (add context d).run c = .ok i c' ∧ c'.WellFormed ∧ Saves context d c.entries c'.entries := by
  obtain ⟨A, B, x, hbefore, hafter, hx⟩ := entries_append c context d
  have hs : Saves context d c.entries (c.append context d).2.entries := by
    have hfresh : ∀ p ∈ c.entries, hasId d.id p.2 = false := (findIn_eq_none_iff _ _).mp hnone
    rw [hbefore] at hfresh ⊢
    rw [hafter]
    exact Saves.new hx hfresh
  refine ⟨_, _, add_of_new context hnone, ?_, hs⟩
  exact WellFormed.of_keyed (hs.keyed h.keyed hd) (contextsDiffer_append context d h.contexts)
    (occupied_append context d h.occupied)

/-- The libraries of a collection with a changed definition have the same contexts. -/
theorem contextsDiffer_changed {id : Datum} {found : Definition}
    {change : Definition → List Definition} {libraries : List Library}
    (h : ContextsDiffer libraries) : ContextsDiffer (changed id found change libraries) := by
  have hcontext : ∀ l : Library, ({ l with
      definitions := changeDefinition id found change l.definitions } : Library).context = l.context :=
    fun _ => rfl
  exact contextsDiffer_changeFirst hcontext h

theorem update_eq_ok (h : c.WellFormed) (hd : d.id.IsName) (hfound : c.find d.id = some (l, e)) :
    ∃ i c', (update context d).run c = .ok i c' ∧ c'.WellFormed
      ∧ Saves context d c.entries c'.entries := by
  obtain ⟨A, B, hentries, hchange⟩ := entriesOf_changed hfound (h.hasId_of_same hd hfound)
  have hid : hasId d.id e = true := (mem_of_find hfound).2.2
  by_cases hsame : l.context.same context = true
  · -- the definition stays in its place
    have hs : Saves context d c.entries (entriesOf (replaced d.id e d c.libraries)) := by
      rw [entries, hentries, replaced, hchange]
      show Saves context d _ (A ++ [(l.context, d)] ++ B)
      rw [List.append_assoc]
      exact Saves.again hsame hid rfl
    refine ⟨_, _, update_of_same context hfound hsame, ?_, hs⟩
    exact WellFormed.of_keyed (hs.keyed h.keyed hd) (contextsDiffer_changed h.contexts)
      (occupied_replaced h.occupied)
  · -- it is taken out, saved elsewhere, and an empty library is dropped
    have hmoved := entries_append { c with libraries := removed d.id e c.libraries } context d
    obtain ⟨A', B', x, hbefore, hafter, hx⟩ := hmoved
    have hrest : A ++ B = A' ++ B' := by
      rw [← hbefore, entries, removed, hchange]
      simp
    have hs : Saves context d c.entries
        (append context d { c with libraries := removed d.id e c.libraries }).2.dropEmpty.entries := by
      rw [entries_dropEmpty, hafter, entries, hentries]
      exact Saves.again hx hid hrest
    refine ⟨_, _, update_of_moved context hfound hsame, ?_, hs⟩
    refine WellFormed.of_keyed (hs.keyed h.keyed hd) (contextsDiffer_dropEmpty ?_)
      (occupied_dropEmpty _)
    exact contextsDiffer_append context d (contextsDiffer_changed h.contexts)

theorem delete_eq_ok (h : c.WellFormed) (hid : id.IsName) (hfound : c.find id = some (l, e)) :
    ∃ c', (delete id).run c = .ok e c' ∧ c'.WellFormed ∧ Removes id e c.entries c'.entries := by
  obtain ⟨A, B, hentries, hchange⟩ := entriesOf_changed hfound (h.hasId_of_same hid hfound)
  have hafter : (dropEmpty { c with libraries := removed id e c.libraries }).entries = A ++ B := by
    rw [entries_dropEmpty, entries, removed, hchange]
    simp
  have hr : Removes id e c.entries
      (dropEmpty { c with libraries := removed id e c.libraries }).entries := by
    rw [hafter, entries, hentries]
    exact Removes.intro (mem_of_find hfound).2.2
  refine ⟨_, delete_of_found hfound, ?_, hr⟩
  exact WellFormed.of_keyed (hr.keyed h.keyed)
    (contextsDiffer_dropEmpty (contextsDiffer_changed h.contexts)) (occupied_dropEmpty _)

/-- **Adding or replacing** never fails. -/
theorem upsert_eq_ok (h : c.WellFormed) (hd : d.id.IsName) :
    ∃ i c', (upsert context d).run c = .ok i c' ∧ c'.WellFormed
      ∧ Saves context d c.entries c'.entries := by
  cases hfind : c.find d.id with
  | none =>
      rw [upsert_of_new context hfind]
      exact add_eq_ok context h hd hfind
  | some f =>
      rw [upsert_of_found context hfind]
      exact update_eq_ok context h hd hfind

end Operations

/-! ## Imports -/

/-- Saves the definition of an entry under its context, after `count` others. -/
def saveNext (count : Nat) (p : Context × Definition) : Editing Nat := importNext p.1 count p.2

/-- Going through the libraries is going through their entries. -/
theorem importLibraries_eq (libraries : List Library) :
    importLibraries libraries = (entriesOf libraries).foldlM saveNext 0 := by
  rw [importLibraries]
  generalize 0 = count
  induction libraries generalizing count with
  | nil => rfl
  | cons l r ih =>
      rw [List.foldlM_cons, entriesOf_cons, List.foldlM_append, List.foldlM_map]
      exact congrArg _ (funext ih)

/-- An entry is saved by itself. -/
theorem saveNext_of_upsert {c c' : Collection} {p : Context × Definition} {i : Datum}
    (h : (upsert p.1 p.2).run c = .ok i c') (count : Nat) :
    (saveNext count p).run c = .ok (count + 1) c' := by
  rw [saveNext, importNext, bind_of_ok h]
  rfl

theorem foldlM_saveNext_eq_ok (ps : List (Context × Definition)) (count : Nat) {c : Collection}
    (h : c.WellFormed) (hnamed : ∀ p ∈ ps, p.2.id.IsName) :
    ∃ c', (ps.foldlM saveNext count).run c = .ok (count + ps.length) c'
      ∧ c'.WellFormed ∧ SavesAll ps c.entries c'.entries := by
  induction ps generalizing c count with
  | nil => exact ⟨c, rfl, h, SavesAll.nil _⟩
  | cons p ps ih =>
      obtain ⟨i, c₁, hupsert, h₁, hs⟩ := upsert_eq_ok p.1 h (hnamed p List.mem_cons_self)
      obtain ⟨c₂, hrest, h₂, hall⟩ := ih (count + 1) h₁ fun q hq => hnamed q (List.mem_cons_of_mem p hq)
      refine ⟨c₂, ?_, h₂, SavesAll.cons hs hall⟩
      rw [List.foldlM_cons, bind_of_ok (saveNext_of_upsert hupsert count), hrest, List.length_cons,
        Nat.add_right_comm, Nat.add_assoc]

theorem length_entriesOf (libraries : List Library) :
    (entriesOf libraries).length = (libraries.flatMap (·.definitions)).length := by
  rw [← map_snd_entriesOf, List.length_map]

/-- **An import** never fails, and gives the number of definitions it has saved. -/
theorem importLibraries_eq_ok {c : Collection} (h : c.WellFormed) {libraries : List Library}
    (hnamed : ∀ p ∈ entriesOf libraries, p.2.id.IsName) :
    ∃ c', (importLibraries libraries).run c = .ok (libraries.flatMap (·.definitions)).length c'
      ∧ c'.WellFormed ∧ SavesAll (entriesOf libraries) c.entries c'.entries := by
  have hall := foldlM_saveNext_eq_ok (entriesOf libraries) 0 h hnamed
  rwa [← importLibraries_eq, Nat.zero_add, length_entriesOf] at hall

end StatementTagging.Collection

namespace StatementTagging

/-! ## Edits -/

/-- A change that an editor asks for. -/
inductive Edit where
  | add (context : Context) (d : Definition)
  | update (context : Context) (d : Definition)
  | delete (id : Datum)
  | importAll (libraries : List Library)

namespace Edit

/-- The identifiers that an edit names. -/
def ids : Edit → List Datum
  | add _ d => [d.id]
  | update _ d => [d.id]
  | delete id => [id]
  | importAll libraries => (libraries.flatMap (·.definitions)).map (·.id)

/-- All identifiers of the edit are texts or integers. -/
def IsNamed (e : Edit) : Prop := ∀ id ∈ e.ids, id.IsName

instance : DecidablePred IsNamed := fun e =>
  inferInstanceAs (Decidable (∀ id ∈ e.ids, id.IsName))

/-- What an edit does. -/
def perform : Edit → Collection.Editing Unit
  | add context d => do let _ ← Collection.add context d
  | update context d => do let _ ← Collection.update context d
  | delete id => do let _ ← Collection.delete id
  | importAll libraries => do let _ ← Collection.importLibraries libraries

end Edit

namespace Collection

/-- The collection that work on one leaves, whether it fails or not. -/
def left {α : Type} : EStateM.Result Fault Collection α → Collection
  | .ok _ c => c
  | .error _ c => c

/-- How work on a collection ends. -/
def outcome {α : Type} : EStateM.Result Fault Collection α → Except Fault α
  | .ok a _ => .ok a
  | .error f _ => .error f

/-- The collection after an edit. -/
def edited (c : Collection) (e : Edit) : Collection := left (e.perform.run c)

/-- The collection after several edits. -/
def editedAll (c : Collection) (edits : List Edit) : Collection := edits.foldl edited c

theorem named_importAll {libraries : List Library} (h : (Edit.importAll libraries).IsNamed) :
    ∀ p ∈ entriesOf libraries, p.2.id.IsName := by
  intro p hp
  refine h p.2.id (List.mem_map_of_mem ?_)
  rw [← map_snd_entriesOf]
  exact List.mem_map_of_mem hp

/-- **What an edit does**: either it fails, because of the identifier it names, and leaves the collection as it
was; or it leads to a well-formed collection with the entries that it is to have. -/
inductive Effect (c : Collection) : Edit → EStateM.Result Fault Collection Unit → Prop where
  | duplicate {context : Context} {d : Definition} {f : Library × Definition}
      (hfind : c.find d.id = some f) :
      Effect c (.add context d) (.error (.duplicateDefinition d.id.display) c)
  | added {context : Context} {d : Definition} {c' : Collection} (hfind : c.find d.id = none)
      (h : c'.WellFormed) (hs : Saves context d c.entries c'.entries) :
      Effect c (.add context d) (.ok () c')
  | unknown {context : Context} {d : Definition} (hfind : c.find d.id = none) :
      Effect c (.update context d) (.error (.unknownDefinition d.id.display) c)
  | updated {context : Context} {d : Definition} {c' : Collection} {f : Library × Definition}
      (hfind : c.find d.id = some f) (h : c'.WellFormed)
      (hs : Saves context d c.entries c'.entries) : Effect c (.update context d) (.ok () c')
  | missing {id : Datum} (hfind : c.find id = none) :
      Effect c (.delete id) (.error (.unknownDefinition id.display) c)
  | deleted {id : Datum} {c' : Collection} {f : Library × Definition} (hfind : c.find id = some f)
      (h : c'.WellFormed) (hr : Removes id f.2 c.entries c'.entries) :
      Effect c (.delete id) (.ok () c')
  | imported {libraries : List Library} {c' : Collection} (h : c'.WellFormed)
      (hs : SavesAll (entriesOf libraries) c.entries c'.entries) :
      Effect c (.importAll libraries) (.ok () c')

theorem effect_perform {c : Collection} (h : c.WellFormed) {e : Edit} (he : e.IsNamed) :
    Effect c e (e.perform.run c) := by
  cases e with
  | add context d =>
      have hd : d.id.IsName := he d.id List.mem_cons_self
      cases hfind : c.find d.id with
      | none =>
          obtain ⟨i, c', hadd, h', hs⟩ := add_eq_ok context h hd hfind
          rw [Edit.perform, bind_of_ok hadd]
          exact Effect.added hfind h' hs
      | some f =>
          rw [Edit.perform, bind_of_error (add_eq_error context hfind)]
          exact Effect.duplicate hfind
  | update context d =>
      have hd : d.id.IsName := he d.id List.mem_cons_self
      cases hfind : c.find d.id with
      | none =>
          rw [Edit.perform, bind_of_error (update_eq_error context hfind)]
          exact Effect.unknown hfind
      | some f =>
          obtain ⟨i, c', hupdate, h', hs⟩ := update_eq_ok context h hd hfind
          rw [Edit.perform, bind_of_ok hupdate]
          exact Effect.updated hfind h' hs
  | delete id =>
      have hid : id.IsName := he id List.mem_cons_self
      cases hfind : c.find id with
      | none =>
          rw [Edit.perform, bind_of_error (delete_eq_error hfind)]
          exact Effect.missing hfind
      | some f =>
          obtain ⟨c', hdelete, h', hr⟩ := delete_eq_ok h hid hfind
          rw [Edit.perform, bind_of_ok hdelete]
          exact Effect.deleted hfind h' hr
  | importAll libraries =>
      obtain ⟨c', himport, h', hs⟩ := importLibraries_eq_ok h (named_importAll he)
      rw [Edit.perform, bind_of_ok himport]
      exact Effect.imported h' hs

/-- **An edit that fails** has changed nothing. -/
theorem eq_of_perform_eq_error {c c' : Collection} (h : c.WellFormed) {e : Edit} (he : e.IsNamed)
    {f : Fault} (hrun : e.perform.run c = .error f c') : c' = c := by
  have heffect := effect_perform h he
  rw [hrun] at heffect
  cases heffect <;> rfl

theorem edited_of_ok {c c' : Collection} {e : Edit} (h : e.perform.run c = .ok () c') :
    c.edited e = c' := by
  rw [edited, h]
  rfl

theorem edited_of_error {c c' : Collection} {e : Edit} {f : Fault} (h : e.perform.run c = .error f c') :
    c.edited e = c' := by
  rw [edited, h]
  rfl

/-- One edit keeps the layout. -/
theorem WellFormed.edited {c : Collection} (h : c.WellFormed) {e : Edit} (he : e.IsNamed) :
    (c.edited e).WellFormed := by
  have heffect := effect_perform h he
  rw [Collection.edited]
  generalize e.perform.run c = r at heffect
  cases heffect with
  | duplicate _ => exact h
  | added _ h' _ => exact h'
  | unknown _ => exact h
  | updated _ h' _ => exact h'
  | missing _ => exact h
  | deleted _ h' _ => exact h'
  | imported h' _ => exact h'

/-- Edits keep the layout. -/
theorem WellFormed.editedAll {c : Collection} (h : c.WellFormed) {edits : List Edit}
    (hedits : ∀ e ∈ edits, e.IsNamed) : (c.editedAll edits).WellFormed := by
  induction edits generalizing c with
  | nil => exact h
  | cons e r ih =>
      exact ih (h.edited (hedits e List.mem_cons_self))
        fun e' he' => hedits e' (List.mem_cons_of_mem e he')

/-- **The layout is never broken.** It holds of a collection without libraries, and whatever edits are made to a
collection of which it holds, failed ones included, it holds of what they lead to. -/
theorem wellFormed_after_edits :
    (∀ newId, WellFormed (empty newId)) ∧ ∀ (c : Collection) (edits : List Edit), c.WellFormed →
      (∀ e ∈ edits, e.IsNamed) → (c.editedAll edits).WellFormed :=
  ⟨wellFormed_empty, fun _ _ h hedits => h.editedAll hedits⟩

/-- The last definition of a library moves away, one that is there is added again, and an import
replaces and adds. -/
theorem wellFormed_after_edits_move :
    let d (id : Datum) : Definition := { id := id, tag := .text "T" }
    let near : Context := [⟨"bank", "A"⟩, ⟨"kind", "fee"⟩]
    let c : Collection := { libraries := [⟨near, [d (.text "x")], .text "L"⟩], newId := fun n => "M" ++ toString n }
    let edits : List Edit :=
      [.update [] (d (.text "x")), .add near (d (.text "x")),
        .importAll [⟨near.reverse, [d (.int 7), d (.text "x")], .null⟩], .delete (.bool true)]
    c.WellFormed ∧ (∀ e ∈ edits, e.IsNamed) ∧ (c.editedAll edits).WellFormed := by
  intro d near c edits
  have hc : c.WellFormed :=
    { named := by decide
      ids := List.pairwise_singleton _ _
      contexts := List.pairwise_singleton _ _
      occupied := fun l hl => by rw [List.mem_singleton.mp hl]; exact List.cons_ne_nil _ _ }
  have hedits : ∀ e ∈ edits, e.IsNamed := by decide
  exact ⟨hc, hedits, wellFormed_after_edits.2 c edits hc hedits⟩

end Collection

end StatementTagging
