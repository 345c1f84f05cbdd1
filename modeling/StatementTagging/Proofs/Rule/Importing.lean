import StatementTagging.Proofs.Rule.Collection

set_option autoImplicit false

/-! # Importing what is there

An import saves the entries of libraries one after the other. A definition that lies under its context already
is replaced by itself, in its place (`saveNext_of_contains`), so an import of such
definitions changes nothing at all. Two imports are of this kind: one that is made a second time, since the
first has put every definition under its context and none has been moved by a later one
(`importLibraries_again`), and one of a definition that was exported.

An import into an empty collection opens a library for each context. From the libraries of a collection,
whose contexts and identifiers differ, it makes the same libraries in the same order, and only their own
identifiers are new (`importLibraries_restores`).
-/

namespace StatementTagging.Collection

variable {c : Collection}

/-! ## What is in its place -/

/-- The definition lies in a library with the context. -/
def Contains (c : Collection) (p : Context × Definition) : Prop :=
  ∃ l, c.find p.2.id = some (l, p.2) ∧ l.context.same p.1 = true

theorem ContextsDiffer.eq_of_context_eq {libraries : List Library} (h : ContextsDiffer libraries)
    {k l : Library} (hk : k ∈ libraries) (hl : l ∈ libraries) (heq : k.context = l.context) : k = l := by
  have hnodup : (libraries.map (·.context)).Nodup := by
    refine ((contextsDiffer_iff libraries).mp h).imp fun {a b} hdiffer heq => ?_
    rw [heq, Context.same_refl] at hdiffer
    cases hdiffer
  exact List.inj_on_of_nodup_map hnodup hk hl heq

/-- A definition in a library is found there. -/
theorem WellFormed.find_eq_some (h : c.WellFormed) {l : Library} {d : Definition} (hl : l ∈ c.libraries)
    (hd : d ∈ l.definitions) : c.find d.id = some (l, d) := by
  have hentry : (l.context, d) ∈ c.entries := (mem_entriesOf_iff _ _ _).mpr ⟨l, hl, rfl, hd⟩
  have hname : d.id.IsName := h.keyed.named _ hentry
  have hself : hasId d.id d = true := (hasId_iff hname hname).mpr rfl
  cases hfind : c.find d.id with
  | none =>
      have hnot := (findIn_eq_none_iff _ _).mp hfind _ hentry
      rw [hself] at hnot
      cases hnot
  | some f =>
      obtain ⟨k, e⟩ := f
      obtain ⟨hk, he, hid⟩ := mem_of_find hfind
      have heq := h.keyed.eq_of_hasId hname (p := (k.context, e))
        ((mem_entriesOf_iff _ _ _).mpr ⟨k, hk, rfl, he⟩) hentry hid hself
      obtain ⟨hcontext, rfl⟩ := Prod.mk.inj heq
      rw [h.contexts.eq_of_context_eq hk hl hcontext]

theorem WellFormed.contains_iff (h : c.WellFormed) {p : Context × Definition} :
    c.Contains p ↔ ∃ x, (x, p.2) ∈ c.entries ∧ x.same p.1 = true := by
  constructor
  · rintro ⟨l, hfind, hsame⟩
    obtain ⟨hl, hd, -⟩ := mem_of_find hfind
    exact ⟨l.context, (mem_entriesOf_iff _ _ _).mpr ⟨l, hl, rfl, hd⟩, hsame⟩
  · rintro ⟨x, hentry, hsame⟩
    obtain ⟨l, hl, rfl, hd⟩ := (mem_entriesOf_iff _ _ _).mp hentry
    exact ⟨l, h.find_eq_some hl hd, hsame⟩

/-- Replacing a definition by itself. -/
theorem WellFormed.replaced_self (h : c.WellFormed) {l : Library} {d : Definition}
    (hfind : c.find d.id = some (l, d)) : replaced d.id d d c.libraries = c.libraries := by
  obtain ⟨hl, hd, -⟩ := mem_of_find hfind
  have hname : d.id.IsName := h.keyed.named _ ((mem_entriesOf_iff _ _ _).mpr ⟨l, hl, rfl, hd⟩)
  obtain ⟨as, bs, hlibraries, has, hfound⟩ := exists_split_of_findIn hfind
  have hholds : holds d.id l = true :=
    List.any_eq_true.mpr ⟨d, List.mem_of_find?_eq_some hfound, List.find?_some hfound⟩
  obtain ⟨ds, es, hds, hchange⟩ := changeDefinition_split hfound fun e he =>
    h.hasId_of_same hname hfind (l.context, e) ((mem_entriesOf_iff _ _ _).mpr ⟨l, hl, rfl, he⟩)
  have hsame : changeDefinition d.id d (fun _ => [d]) l.definitions = l.definitions := by
    rw [hchange, hds, List.append_assoc, List.singleton_append]
  rw [replaced, changed, hlibraries, changeFirst_split _ _ bs has hholds, hsame]

/-- **What is in its place stays as it is** when it is saved. -/
theorem WellFormed.saveNext_of_contains (h : c.WellFormed) {p : Context × Definition}
    (hp : c.Contains p) (count : Nat) : (saveNext count p).run c = .ok (count + 1) c := by
  obtain ⟨l, hfind, hsame⟩ := hp
  refine saveNext_of_upsert (i := l.id) ?_ count
  rw [upsert_of_found _ hfind, update_of_same _ hfind hsame, h.replaced_self hfind]

theorem WellFormed.foldlM_saveNext_of_contains (h : c.WellFormed) {ps : List (Context × Definition)}
    (hall : ∀ p ∈ ps, c.Contains p) (count : Nat) :
    (ps.foldlM saveNext count).run c = .ok (count + ps.length) c := by
  induction ps generalizing count with
  | nil => rfl
  | cons p ps ih =>
      obtain ⟨hp, hps⟩ := List.forall_mem_cons.mp hall
      rw [List.foldlM_cons, bind_of_ok (h.saveNext_of_contains hp count), ih hps, List.length_cons,
        Nat.add_right_comm, Nat.add_assoc]

/-- An import of what is in its place changes nothing. -/
theorem WellFormed.importLibraries_of_contains (h : c.WellFormed) {libraries : List Library}
    (hall : ∀ p ∈ entriesOf libraries, c.Contains p) :
    (importLibraries libraries).run c = .ok (libraries.flatMap (·.definitions)).length c := by
  rw [importLibraries_eq, h.foldlM_saveNext_of_contains hall, Nat.zero_add, length_entriesOf]

/-! ## Importing twice -/

section Saved

variable {context : Context} {d : Definition} {p : Context × Definition}
  {ps es es' : List (Context × Definition)}

theorem Saves.mem_saved (hs : Saves context d es es') : ∃ x, (x, d) ∈ es' ∧ x.same context = true := by
  cases hs with
  | @new A B x same _ => exact ⟨x, mem_middle_iff.mpr (Or.inl rfl), same⟩
  | @again A B A' B' x x' e same _ _ => exact ⟨x', mem_middle_iff.mpr (Or.inl rfl), same⟩

/-- Saving leaves alone what has another identifier. -/
theorem Saves.mem_of_mem (hs : Saves context d es es') (hp : p ∈ es) (hid : hasId d.id p.2 = false) :
    p ∈ es' := by
  cases hs with
  | new _ _ => exact mem_middle_iff.mpr (Or.inr hp)
  | again _ hsame others =>
      refine mem_middle_iff.mpr (Or.inr ?_)
      rw [← others]
      refine (mem_middle_iff.mp hp).resolve_left ?_
      rintro rfl
      rw [hsame] at hid
      cases hid

theorem SavesAll.mem_of_mem (hs : SavesAll ps es es') (hp : p ∈ es)
    (hids : ∀ q ∈ ps, hasId q.2.id p.2 = false) : p ∈ es' := by
  induction hs with
  | nil es => exact hp
  | cons first _ ih =>
      obtain ⟨hfirst, hrest⟩ := List.forall_mem_cons.mp hids
      exact ih (first.mem_of_mem hp hfirst) hrest

/-- **What is saved is there in the end** if nothing that is saved later has its identifier. -/
theorem SavesAll.mem_saved (hs : SavesAll ps es es')
    (hdiffer : ps.Pairwise fun p q => hasId q.2.id p.2 = false) :
    ∀ p ∈ ps, ∃ x, (x, p.2) ∈ es' ∧ x.same p.1 = true := by
  induction hs with
  | nil es => exact fun p hp => absurd hp List.not_mem_nil
  | cons first rest ih =>
      obtain ⟨hhead, htail⟩ := List.pairwise_cons.mp hdiffer
      obtain ⟨x, hx, hsame⟩ := first.mem_saved
      exact List.forall_mem_cons.mpr ⟨⟨x, rest.mem_of_mem hx hhead, hsame⟩, ih htail⟩

end Saved

/-- The identifiers in libraries differ. -/
def IdsDiffer (libraries : List Library) : Prop :=
  (libraries.flatMap (·.definitions)).Pairwise fun a b => a.id.same b.id = false

instance (libraries : List Library) : Decidable (IdsDiffer libraries) :=
  inferInstanceAs (Decidable (List.Pairwise _ _))

/-- **Importing again changes nothing.** Whatever edits have been made from the start, an import of
libraries with different identifiers succeeds, and a second one right after it leaves the collection as it
is, with the order of libraries and definitions and the identifiers of libraries, and counts as many. -/
theorem importLibraries_again (newId : Nat → String) (edits : List Edit) (hedits : ∀ e ∈ edits, e.IsNamed)
    (libraries : List Library) (hnamed : (Edit.importAll libraries).IsNamed)
    (hdiffer : IdsDiffer libraries) :
    ∃ c' count, (importLibraries libraries).run (editedAll (empty newId) edits) = .ok count c'
      ∧ (importLibraries libraries).run c' = .ok count c' := by
  obtain ⟨c', himport, h', hsaved⟩ :=
    importLibraries_eq_ok ((wellFormed_empty newId).editedAll hedits) (named_importAll hnamed)
  have hpairs : (entriesOf libraries).Pairwise fun p q => hasId q.2.id p.2 = false := by
    rw [IdsDiffer, ← map_snd_entriesOf, List.pairwise_map] at hdiffer
    exact hdiffer
  refine ⟨c', _, himport, h'.importLibraries_of_contains fun p hp => ?_⟩
  exact h'.contains_iff.mpr (hsaved.mem_saved hpairs p hp)

/-- The import moves both definitions that are there, which empties their libraries, and adds a third one to a
library that it has opened under the same context in another order. -/
theorem importLibraries_again_moved :
    let d (id : Datum) : Definition := { id := id, tag := .text "T" }
    let near : Context := [⟨"bank", "A"⟩, ⟨"kind", "fee"⟩]
    let newId (n : Nat) : String := "L" ++ toString n
    let edits : List Edit := [.add near (d (.text "x")), .add [] (d (.int 7))]
    let libraries : List Library :=
      [⟨[⟨"bank", "B"⟩], [d (.text "x")], .null⟩, ⟨near, [d (.int 7)], .null⟩,
        ⟨near.reverse, [d (.text "y")], .null⟩]
    (∀ e ∈ edits, e.IsNamed) ∧ (Edit.importAll libraries).IsNamed ∧ IdsDiffer libraries
      ∧ ∃ c' count, (importLibraries libraries).run (editedAll (empty newId) edits) = .ok count c'
        ∧ (importLibraries libraries).run c' = .ok count c' := by
  intro d near newId edits libraries
  have hedits : ∀ e ∈ edits, e.IsNamed := by decide
  have hnamed : (Edit.importAll libraries).IsNamed := by decide
  have hdiffer : IdsDiffer libraries := by decide
  exact ⟨hedits, hnamed, hdiffer, importLibraries_again newId edits hedits libraries hnamed hdiffer⟩

/-! ## Importing what was exported -/

/-- An exported definition is in its place. -/
theorem WellFormed.importLibraries_exported (h : c.WellFormed) {id : Datum} {f : Library × Definition}
    (hfind : c.find id = some f) : ∃ exported, (exportDefinition id).run c = .ok exported c
      ∧ (importLibraries exported).run c = .ok 1 c := by
  obtain ⟨l, d⟩ := f
  obtain ⟨hl, hd, -⟩ := mem_of_find hfind
  refine ⟨[{ l with definitions := [d] }], bind_of_ok (located_eq_ok hfind) _, ?_⟩
  refine h.importLibraries_of_contains (List.forall_mem_singleton.mpr ?_)
  exact ⟨l, h.find_eq_some hl hd, Context.same_refl l.context⟩

/-! ## Importing a whole collection -/

section Opening

variable {context : Context} {d : Definition} {as : List Library} {l : Library}

theorem append_opens (d : Definition) (h : ∀ l ∈ c.libraries, l.context.same context = false) :
    (c.append context d).2 = { c with
      libraries := c.libraries ++ [⟨context, [d], .text (c.newId c.made)⟩], made := c.made + 1 } := by
  have hnone : c.libraries.find? (·.context.same context) = none :=
    List.find?_eq_none.mpr fun l hl => Bool.eq_false_iff.mp (h l hl)
  rw [append, hnone]

theorem append_joins (d : Definition) (hc : c.libraries = as ++ [l])
    (has : ∀ a ∈ as, a.context.same l.context = false) :
    (c.append l.context d).2
      = { c with libraries := as ++ [{ l with definitions := l.definitions ++ [d] }] } := by
  have hl := Context.same_refl l.context
  have hfind : c.libraries.find? (·.context.same l.context) = some l :=
    List.find?_eq_some_iff_append.mpr ⟨hl, as, [], hc, fun a ha => by rw [has a ha]; rfl⟩
  rw [append, hfind]
  show ({ c with libraries := changeFirst _ _ c.libraries } : Collection) = _
  rw [hc, changeFirst_split _ _ [] has hl]

theorem saveNext_of_new {p : Context × Definition} (hnone : c.find p.2.id = none) (count : Nat) :
    (saveNext count p).run c = .ok (count + 1) (c.append p.1 p.2).2 := by
  refine saveNext_of_upsert (i := (c.append p.1 p.2).1) ?_ count
  rw [upsert_of_new _ hnone, add_of_new _ hnone]

/-- An identifier is none of those before it. -/
theorem Keyed.find_eq_none {x : Context} {B : List (Context × Definition)}
    (h : Keyed (c.entries ++ (x, d) :: B)) : c.find d.id = none := by
  obtain ⟨hname, hnew, hrest⟩ := keyed_middle_iff.mp h
  refine (findIn_eq_none_iff _ _).mpr fun p hp => ?_
  exact (hrest.key_notMem_iff hname).mp hnew p (List.mem_append_left _ hp)

/-- New definitions come to the end of the library with their context, one after the other. -/
theorem foldlM_saveNext_joins (ds : List Definition) (count : Nat) (hc : c.libraries = as ++ [l])
    (has : ∀ a ∈ as, a.context.same l.context = false)
    (h : Keyed (entriesOf (as ++ [{ l with definitions := l.definitions ++ ds }]))) :
    ((ds.map (l.context, ·)).foldlM saveNext count).run c = .ok (count + ds.length)
      { c with libraries := as ++ [{ l with definitions := l.definitions ++ ds }] } := by
  induction ds generalizing c l count with
  | nil =>
      rw [List.append_nil, ← hc]
      rfl
  | cons d ds ih =>
      have hsplit : entriesOf (as ++ [{ l with definitions := l.definitions ++ d :: ds }])
          = c.entries ++ (l.context, d) :: ds.map (l.context, ·) := by
        rw [entries, hc, entriesOf_append, entriesOf_append]
        simp [entriesOf]
      rw [hsplit] at h
      have hnext : Keyed (entriesOf
          (as ++ [{ l with definitions := l.definitions ++ [d] ++ ds }])) := by
        rw [List.append_assoc, List.singleton_append, hsplit]
        exact h
      rw [List.map_cons, List.foldlM_cons, bind_of_ok (saveNext_of_new h.find_eq_none count),
        append_joins d hc has]
      refine (ih (l := { l with definitions := l.definitions ++ [d] }) (count + 1) rfl has hnext).trans ?_
      rw [List.append_assoc, List.singleton_append, List.length_cons, Nat.add_right_comm, Nat.add_assoc]

/-- A library with a new context is made again at the end. -/
theorem foldlM_saveNext_opens (hne : l.definitions ≠ []) (count : Nat)
    (hcontext : ∀ a ∈ c.libraries, a.context.same l.context = false)
    (h : Keyed (entriesOf (c.libraries ++ [l]))) :
    ((l.definitions.map (l.context, ·)).foldlM saveNext count).run c
      = .ok (count + l.definitions.length) { c with
          libraries := c.libraries ++ [{ l with id := .text (c.newId c.made) }], made := c.made + 1 } := by
  obtain ⟨context, ds, id⟩ := l
  obtain ⟨d, ds, rfl⟩ := List.exists_cons_of_ne_nil hne
  have hsplit : entriesOf (c.libraries ++ [⟨context, d :: ds, id⟩])
      = c.entries ++ (context, d) :: ds.map (context, ·) := by
    rw [entries, entriesOf_append]
    simp [entriesOf]
  rw [hsplit] at h
  rw [List.map_cons, List.foldlM_cons, bind_of_ok (saveNext_of_new h.find_eq_none count),
    append_opens d hcontext]
  refine (foldlM_saveNext_joins (l := ⟨context, [d], .text (c.newId c.made)⟩) ds (count + 1) rfl hcontext
    ?_).trans ?_
  · rw [entriesOf_append]
    simpa [entries, entriesOf] using h
  · rw [List.length_cons, Nat.add_right_comm, Nat.add_assoc]
    rfl

end Opening

/-- The libraries with the identifiers that a supply gives from number `n` on. -/
def renamed (newId : Nat → String) (n : Nat) (libraries : List Library) : List Library :=
  (libraries.zipIdx n).map fun (l, i) => { l with id := .text (newId i) }

theorem map_contents_renamed (newId : Nat → String) (n : Nat) (libraries : List Library) :
    (renamed newId n libraries).map (fun l => (l.context, l.definitions))
      = libraries.map fun l => (l.context, l.definitions) := by
  rw [renamed, List.map_map]
  conv_rhs => rw [← List.zipIdx_map_fst n libraries, List.map_map]
  rfl

theorem map_id_renamed (newId : Nat → String) (n : Nat) (libraries : List Library) :
    (renamed newId n libraries).map (·.id)
      = (List.range' n libraries.length).map fun i => .text (newId i) := by
  rw [renamed, List.map_map, ← List.zipIdx_map_snd n libraries, List.map_map]
  rfl

/-- Libraries whose contexts and identifiers are new are made again, one after the other. -/
theorem foldlM_saveNext_renamed (libraries : List Library) (count : Nat)
    (hcontexts : ContextsDiffer (c.libraries ++ libraries)) (hoccupied : Occupied libraries)
    (h : Keyed (entriesOf (c.libraries ++ libraries))) :
    ((entriesOf libraries).foldlM saveNext count).run c
      = .ok (count + (entriesOf libraries).length) { c with
          libraries := c.libraries ++ renamed c.newId c.made libraries
          made := c.made + libraries.length } := by
  induction libraries generalizing c count with
  | nil =>
      rw [renamed, List.zipIdx_nil, List.map_nil, List.append_nil]
      rfl
  | cons l r ih =>
      obtain ⟨hl, hr⟩ := List.forall_mem_cons.mp hoccupied
      have hfirst : Keyed (entriesOf (c.libraries ++ [l])) := by
        rw [List.append_cons, entriesOf_append] at h
        exact h.of_append_left
      have hcontext : ∀ a ∈ c.libraries, a.context.same l.context = false := fun a ha =>
        (List.pairwise_append.mp hcontexts).2.2 a ha l List.mem_cons_self
      rw [entriesOf_cons, List.foldlM_append, bind_of_ok (foldlM_saveNext_opens hl count hcontext hfirst)]
      let c' : Collection := { c with
        libraries := c.libraries ++ [{ l with id := .text (c.newId c.made) }], made := c.made + 1 }
      -- contexts and entries do not show the identifier of a library
      have hcontexts' : ContextsDiffer (c'.libraries ++ r) := by
        rw [contextsDiffer_iff] at hcontexts ⊢
        simpa [c'] using hcontexts
      have h' : Keyed (entriesOf (c'.libraries ++ r)) := by
        simpa [c', entriesOf] using h
      refine (ih (c := c') (count + l.definitions.length) hcontexts' hr h').trans ?_
      simp [c', renamed, List.zipIdx_cons, Nat.add_assoc, Nat.add_comm 1]

/-- **Identifiers that are new to libraries**: a supply never gives one twice, and none that a library has. -/
structure Fresh (newId : Nat → String) (libraries : List Library) : Prop where
  differ : Function.Injective newId
  new : ∀ l ∈ libraries, ∀ n, l.id ≠ .text (newId n)

/-- **Export and import undo each other.** Whatever edits have been made from the start, importing what was
exported under an identifier leaves the collection as it is. Importing all its libraries into an empty
collection, where new identifiers are new, gives libraries with the same contexts and the same definitions in
the same order. Their own identifiers differ from each other and from all that there were. -/
theorem importLibraries_restores (newId : Nat → String) (edits : List Edit)
    (hedits : ∀ e ∈ edits, e.IsNamed) :
    let c := editedAll (empty newId) edits
    (∀ id f, c.find id = some f → ∃ exported, (exportDefinition id).run c = .ok exported c
        ∧ (importLibraries exported).run c = .ok 1 c)
      ∧ ∀ newId', Fresh newId' c.libraries →
        ∃ c', (importLibraries c.libraries).run (empty newId') = .ok c.definitions.length c'
          ∧ c'.libraries.map (fun l => (l.context, l.definitions))
            = c.libraries.map (fun l => (l.context, l.definitions))
          ∧ (c'.libraries.map (·.id)).Nodup
          ∧ ∀ l ∈ c.libraries, ∀ l' ∈ c'.libraries, l.id ≠ l'.id := by
  intro c
  have hc : c.WellFormed := (wellFormed_empty newId).editedAll hedits
  refine ⟨fun id f hfind => hc.importLibraries_exported hfind, fun newId' hfresh => ?_⟩
  have hall := foldlM_saveNext_renamed (c := empty newId') c.libraries 0 hc.contexts hc.occupied hc.keyed
  rw [← importLibraries_eq, Nat.zero_add, length_entriesOf] at hall
  refine ⟨_, hall, ?_, ?_, ?_⟩
  · exact map_contents_renamed newId' 0 c.libraries
  · show ((renamed newId' 0 c.libraries).map (·.id)).Nodup
    rw [map_id_renamed]
    exact List.Nodup.map (fun i j h => hfresh.differ (Datum.text.inj h)) List.nodup_range'
  · intro l hl l' hl'
    have hid : l'.id ∈ (renamed newId' 0 c.libraries).map (·.id) := List.mem_map_of_mem hl'
    rw [map_id_renamed] at hid
    obtain ⟨n, -, hn⟩ := List.mem_map.mp hid
    rw [← hn]
    exact hfresh.new l hl n

/-- One definition is found under a truth value that is the same as its number, and three libraries are made
again, of which the second holds two definitions. -/
theorem importLibraries_restores_made :
    let d (id : Datum) : Definition := { id := id, tag := .text "T" }
    let near : Context := [⟨"bank", "A"⟩, ⟨"kind", "fee"⟩]
    let newId (n : Nat) : String := String.ofList (List.replicate n 'a')
    let newId' (n : Nat) : String := String.ofList ('b' :: List.replicate n 'a')
    let edits : List Edit :=
      [.add [] (d (.text "x")), .add near (d (.int 1)), .add near.reverse (d (.text "y")),
        .add [⟨"bank", "B"⟩] (d (.int 7))]
    let c := editedAll (empty newId) edits
    (∀ e ∈ edits, e.IsNamed)
      ∧ (∃ exported, (exportDefinition (.bool true)).run c = .ok exported c
        ∧ (importLibraries exported).run c = .ok 1 c)
      ∧ Fresh newId' c.libraries
      ∧ ∃ c', (importLibraries c.libraries).run (empty newId') = .ok 4 c'
        ∧ c'.libraries.map (fun l => (l.context, l.definitions))
          = [([], [d (.text "x")]), (near, [d (.int 1), d (.text "y")]), ([⟨"bank", "B"⟩], [d (.int 7)])]
        ∧ (c'.libraries.map (·.id)).Nodup
        ∧ ∀ l ∈ c.libraries, ∀ l' ∈ c'.libraries, l.id ≠ l'.id := by
  intro d near newId newId' edits c
  have hedits : ∀ e ∈ edits, e.IsNamed := by decide
  have hlibraries : c.libraries = [⟨[], [d (.text "x")], .text (newId 0)⟩,
      ⟨near, [d (.int 1), d (.text "y")], .text (newId 1)⟩,
      ⟨[⟨"bank", "B"⟩], [d (.int 7)], .text (newId 2)⟩] := rfl
  have hfind : c.find (.bool true)
      = some (⟨near, [d (.int 1), d (.text "y")], .text (newId 1)⟩, d (.int 1)) := by
    rw [find, hlibraries]
    rfl
  -- an identifier that begins with b is none of those that hold only a
  have hapart : ∀ m n, newId m ≠ newId' n := by
    intro m n heq
    have hchars := congrArg String.toList heq
    cases m <;> simp [newId, newId', List.replicate_succ] at hchars
  have hfresh : Fresh newId' c.libraries := by
    refine ⟨fun m n h => by simpa [newId'] using congrArg String.length h, ?_⟩
    rw [hlibraries]
    intro l hl n h
    simp only [List.mem_cons, List.not_mem_nil, or_false] at hl
    rcases hl with rfl | rfl | rfl <;> exact hapart _ n (Datum.text.inj h)
  obtain ⟨hexport, hall⟩ := importLibraries_restores newId edits hedits
  obtain ⟨c', himport, hcontents, hids, hnew⟩ := hall newId' hfresh
  refine ⟨hedits, hexport _ _ hfind, hfresh, c', ?_, ?_, hids, hnew⟩
  · have hcount : c.definitions.length = 4 := by
      rw [definitions, hlibraries]
      rfl
    rw [← hcount]
    exact himport
  · rw [hcontents]
    show c.libraries.map _ = _
    rw [hlibraries]
    rfl

end StatementTagging.Collection
