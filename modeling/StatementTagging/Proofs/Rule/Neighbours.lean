import Mathlib.Data.List.Forall2
import StatementTagging.Proofs.Rule.Collection

set_option autoImplicit false

/-! # What an edit does to the other definitions

An edit is about one definition, and all else should stay as it is: the libraries in their order, and in them
the other definitions in theirs. Only a library that the edit empties may go. `Spares` says this.

What an edit changes is aligned with what was there library by library (`aligned_changed`,
`moves_append`), until a deletion or a move drops the libraries without definitions. It drops all of
them, not only the one that it has emptied. So the others are spared exactly if there was no such
library, or none but the one that the definition is moved to (`edited_spares_iff`); otherwise a library is lost
that the edit has nothing to do with (`deletion_drops_untouched_library`).

What an edit can do is said once (`reaches_edited`), and the main result is read off it.
-/

namespace StatementTagging

/-! ## What an edit is about -/

namespace Edit

/-- The identifier of the definition that an edit is about. An import is about several. -/
def subject? : Edit → Option Datum
  | add _ d => some d.id
  | update _ d => some d.id
  | delete id => some id
  | importAll _ => none

/-- The edit takes a definition out of its library, because it deletes it or moves it to another context. -/
def TakesOut (c : Collection) : Edit → Prop
  | update context d => ∃ l found, c.find d.id = some (l, found) ∧ l.context.same context = false
  | delete id => ∃ f, c.find id = some f
  | _ => False

/-- The libraries without the one that an edit moves its definition to. -/
def bystanders (libraries : List Library) : Edit → List Library
  | update context _ => libraries.eraseP fun l => l.context.same context
  | _ => libraries

end Edit

namespace Collection

variable {x : Datum}

/-! ## Libraries but for one definition -/

/-- The definitions but for the one with the identifier. -/
def others (x : Datum) (ds : List Definition) : List Definition := ds.filter fun d => !hasId x d

/-- The library is the same, and so are its definitions, but for the one with the identifier. -/
structure SameBut (x : Datum) (l k : Library) : Prop where
  id : k.id = l.id
  context : k.context = l.context
  others : others x k.definitions = others x l.definitions

theorem SameBut.refl (l : Library) : SameBut x l l := ⟨rfl, rfl, rfl⟩

theorem SameBut.trans {l k m : Library} (h : SameBut x l k) (h' : SameBut x k m) : SameBut x l m :=
  ⟨h'.id.trans h.id, h'.context.trans h.context, h'.others.trans h.others⟩

theorem others_of_none {ds : List Definition} (h : ∀ d ∈ ds, hasId x d = false) : others x ds = ds :=
  List.filter_eq_self.mpr fun d hd => by rw [h d hd]; rfl

theorem others_middle (as bs : List Definition) {ds : List Definition} (h : ∀ d ∈ ds, hasId x d = true) :
    others x (as ++ ds ++ bs) = others x (as ++ bs) := by
  have hnone : others x ds = [] :=
    List.filter_eq_nil_iff.mpr fun d hd => by rw [h d hd]; exact Bool.false_ne_true
  rw [others] at hnone
  rw [others, others, List.filter_append, List.filter_append, List.filter_append, hnone,
    List.append_nil]

/-- **Libraries after an edit.** Each library is kept, with the other definitions, and at the end one may be
opened that holds none of them. A library that held none of them may be gone if it is one of a kind. -/
inductive Spares (x : Datum) (Gone : Library → Prop) : List Library → List Library → Prop where
  | nil : Spares x Gone [] []
  | opened {l : Library} (alone : others x l.definitions = []) : Spares x Gone [] [l]
  | kept {l k : Library} {ls ks : List Library} (same : SameBut x l k) (rest : Spares x Gone ls ks) :
      Spares x Gone (l :: ls) (k :: ks)
  | dropped {l : Library} {ls ks : List Library} (gone : Gone l) (alone : others x l.definitions = [])
      (rest : Spares x Gone ls ks) : Spares x Gone (l :: ls) ks

/-- The libraries are the same one by one, but for the definition. -/
abbrev Aligned (x : Datum) : List Library → List Library → Prop := List.Forall₂ (SameBut x)

theorem Aligned.refl (ls : List Library) : Aligned x ls ls :=
  List.forall₂_same.mpr fun l _ => .refl l

theorem Aligned.map_context {ls ks : List Library} (h : Aligned x ls ks) :
    ls.map (·.context) = ks.map (·.context) := by
  induction h with
  | nil => rfl
  | cons hsame _ ih => rw [List.map_cons, List.map_cons, ih, hsame.context]

/-- What holds of the contexts of libraries holds of those they are aligned with. -/
theorem Aligned.forall_context {ls ks : List Library} (h : Aligned x ls ks) {P : Context → Prop}
    (hks : ∀ k ∈ ks, P k.context) : ∀ l ∈ ls, P l.context := by
  rw [← List.forall_mem_map] at hks ⊢
  rwa [h.map_context]

theorem Aligned.middle {ls as' bs' : List Library} {k : Library} (h : Aligned x ls (as' ++ k :: bs')) :
    ∃ as l bs, ls = as ++ l :: bs ∧ Aligned x as as' ∧ SameBut x l k ∧ Aligned x bs bs' := by
  induction as' generalizing ls with
  | nil =>
      obtain ⟨l, bs, hl, hbs, rfl⟩ := List.forall₂_cons_right_iff.mp h
      exact ⟨[], l, bs, rfl, .nil, hl, hbs⟩
  | cons a as' ih =>
      obtain ⟨l, r, hl, hr, rfl⟩ := List.forall₂_cons_right_iff.mp h
      obtain ⟨as, m, bs, rfl, has, hm, hbs⟩ := ih hr
      exact ⟨l :: as, m, bs, rfl, .cons hl has, hm, hbs⟩

/-- The libraries that hold something. -/
abbrev occupied (libraries : List Library) : List Library := libraries.filter fun l => !l.definitions.isEmpty

namespace Spares

variable {Gone : Library → Prop} {as as' ls ks : List Library}

theorem append (h : Aligned x as as') (rest : Spares x Gone ls ks) :
    Spares x Gone (as ++ ls) (as' ++ ks) := by
  induction h with
  | nil => exact rest
  | cons hsame _ ih => exact .kept hsame ih

theorem of_aligned (h : Aligned x ls ks) : Spares x Gone ls ks := by
  have happend : Spares x Gone (ls ++ []) (ks ++ []) := .append h .nil
  rwa [List.append_nil, List.append_nil] at happend

/-- Libraries that hold nothing may be dropped if those that they were may be gone. -/
theorem append_occupied (h : Aligned x as as') (hgone : ∀ l ∈ as, others x l.definitions = [] → Gone l)
    (rest : Spares x Gone ls ks) : Spares x Gone (as ++ ls) (occupied as' ++ ks) := by
  induction h with
  | nil => exact rest
  | @cons l k as as' hsame _ ih =>
      obtain ⟨hl, hrest⟩ := List.forall_mem_cons.mp hgone
      rw [occupied, List.filter_cons]
      cases hk : k.definitions with
      | nil =>
          have halone : others x l.definitions = [] := by
            rw [← hsame.others, hk]
            rfl
          exact .dropped (hl halone) halone (ih hrest)
      | cons d ds => exact .kept hsame (ih hrest)

theorem of_occupied (h : Aligned x ls ks) (hgone : ∀ l ∈ ls, others x l.definitions = [] → Gone l) :
    Spares x Gone ls (occupied ks) := by
  have happend := append_occupied h hgone .nil
  rwa [List.append_nil, List.append_nil] at happend

/-- A library that may not be gone is kept. -/
theorem exists_sameBut (h : Spares x Gone ls ks) {l : Library} (hl : l ∈ ls) (hgone : ¬ Gone l) :
    ∃ k ∈ ks, SameBut x l k := by
  induction h with
  | nil => cases hl
  | opened _ => cases hl
  | @kept _ k _ _ same _ ih =>
      rcases List.mem_cons.mp hl with rfl | hl
      · exact ⟨k, List.mem_cons_self, same⟩
      · obtain ⟨k', hk', hsame⟩ := ih hl
        exact ⟨k', List.mem_cons_of_mem _ hk', hsame⟩
  | dropped gone _ _ ih =>
      rcases List.mem_cons.mp hl with rfl | hl
      · exact absurd gone hgone
      · exact ih hl

/-- If those without definitions may not be gone, at least as many libraries are left that hold none of the
others. -/
theorem countP_le (h : Spares x Gone ls ks) (hgone : ∀ l, Gone l → l.definitions ≠ []) :
    ls.countP (fun l => l.definitions.isEmpty) ≤ ks.countP fun k => (others x k.definitions).isEmpty := by
  induction h with
  | nil => exact Nat.le_refl _
  | opened _ => exact Nat.zero_le _
  | @kept l k ls ks same _ ih =>
      rw [List.countP_cons, List.countP_cons]
      refine Nat.add_le_add ih ?_
      by_cases hl : l.definitions = []
      · rw [same.others, hl]
        exact Nat.le_refl _
      · rw [if_neg (by simpa using hl)]
        exact Nat.zero_le _
  | @dropped l ls ks gone _ _ ih =>
      rw [List.countP_cons, if_neg (by simpa using hgone l gone)]
      exact ih

end Spares

/-! ## Changing and appending -/

/-- A change at the definition with the identifier leaves all else as it is. -/
theorem aligned_changed {libraries : List Library} {l : Library} {found : Definition}
    (h : findIn x libraries = some (l, found))
    (hequal : ∀ p ∈ entriesOf libraries, p.2.same found = true → hasId x p.2 = true)
    {change : Definition → List Definition} (hchange : ∀ d ∈ change found, hasId x d = true) :
    Aligned x libraries (changed x found change libraries) := by
  obtain ⟨as, bs, rfl, has, hfound⟩ := exists_split_of_findIn h
  have hl : holds x l = true :=
    List.any_eq_true.mpr ⟨found, List.mem_of_find?_eq_some hfound, List.find?_some hfound⟩
  obtain ⟨ds, es, hds, hafter⟩ := changeDefinition_split hfound fun d hd =>
    hequal (l.context, d) ((mem_entriesOf_iff _ _ _).mpr ⟨l, by simp, rfl, hd⟩)
  rw [changed, changeFirst_split _ _ bs has hl, hafter]
  refine List.rel_append (Aligned.refl as) (.cons ⟨rfl, rfl, ?_⟩ (Aligned.refl bs))
  show others x (ds ++ change found ++ es) = others x l.definitions
  rw [hds, others_middle _ _ hchange, List.append_cons,
    others_middle _ _ (List.forall_mem_singleton.mpr (List.find?_some hfound))]

/-- The library with a definition at its end is the same but for that definition. -/
theorem SameBut.push {d : Definition} (hd : hasId x d = true) (l : Library) :
    SameBut x l { l with definitions := l.definitions ++ [d] } := by
  refine ⟨rfl, rfl, ?_⟩
  have hmiddle := others_middle l.definitions [] (List.forall_mem_singleton.mpr hd)
  rwa [List.append_nil, List.append_nil] at hmiddle

theorem others_singleton {d : Definition} (hd : hasId x d = true) : others x [d] = [] :=
  others_middle [] [] (List.forall_mem_singleton.mpr hd)

theorem spares_append {Gone : Library → Prop} (c : Collection) (context : Context) {d : Definition}
    (hd : hasId x d = true) : Spares x Gone c.libraries (c.append context d).2.libraries := by
  rcases append_cases c context d with ⟨as, l, bs, hbefore, -, -, hafter⟩ | ⟨id, -, hafter⟩
  · rw [hbefore, hafter]
    exact .append (.refl as) (.kept (.push hd l) (.of_aligned (.refl bs)))
  · rw [hafter]
    have happend : Spares x Gone (c.libraries ++ []) (c.libraries ++ [⟨context, [d], id⟩]) :=
      .append (.refl _) (.opened (others_singleton hd))
    rwa [List.append_nil] at happend

/-! ## Taking out -/

/-- No library holds a definition with the identifier. -/
def Lacks (x : Datum) (libraries : List Library) : Prop :=
  ∀ l ∈ libraries, ∀ d ∈ l.definitions, hasId x d = false

theorem Lacks.others_ne_nil {libraries : List Library} (h : Lacks x libraries) {l : Library}
    (hl : l ∈ occupied libraries) : others x l.definitions ≠ [] := by
  obtain ⟨hmem, hne⟩ := List.mem_filter.mp hl
  rw [others_of_none (h l hmem)]
  simpa using hne

/-- What was without definitions is not what it was but for the definition. -/
theorem Lacks.not_sameBut {libraries : List Library} (h : Lacks x libraries) {l k : Library}
    (hk : k ∈ occupied libraries) (hempty : l.definitions = []) : ¬ SameBut x l k := by
  intro hsame
  refine h.others_ne_nil hk ?_
  rw [hsame.others, hempty]
  rfl

theorem Lacks.countP_eq_zero {libraries : List Library} (h : Lacks x libraries) :
    (occupied libraries).countP (fun l => (others x l.definitions).isEmpty) = 0 :=
  List.countP_eq_zero.mpr fun l hl => by simpa using h.others_ne_nil hl

theorem Lacks.append_iff {as bs : List Library} :
    Lacks x (as ++ bs) ↔ Lacks x as ∧ Lacks x bs :=
  List.forall_mem_append

/-- What is left when the definition found is taken out. -/
theorem removed_spec {libraries : List Library} (h : Keyed (entriesOf libraries)) (hx : x.IsName)
    {l : Library} {found : Definition} (hfound : findIn x libraries = some (l, found)) :
    Aligned x libraries (removed x found libraries) ∧ Lacks x (removed x found libraries) := by
  have hequal := h.hasId_of_same hx hfound
  refine ⟨aligned_changed hfound hequal fun d hd => absurd hd List.not_mem_nil, fun k hk d hd => ?_⟩
  obtain ⟨A, B, hbefore, hafter⟩ := entriesOf_changed hfound hequal
  rw [hbefore, keyed_middle_iff] at h
  obtain ⟨hname, hnew, hrest⟩ := h
  have hid := (mem_of_findIn hfound).2.2
  rw [(hasId_iff hx hname).mp hid, hrest.key_notMem_iff hx] at hnew
  refine hnew (k.context, d) ?_
  have hmem := (mem_entriesOf_iff (removed x found libraries) _ _).mpr ⟨k, hk, rfl, hd⟩
  rw [removed, hafter] at hmem
  simpa using hmem

/-! ## Deletions -/

section Dropping

variable {Gone : Library → Prop} {ls rs : List Library} {context : Context}

/-- If a deletion spares the others, no library was without definitions. -/
theorem occupied_of_spares (hgone : ∀ l, Gone l → l.definitions ≠ []) (hlacks : Lacks x rs)
    (h : Spares x Gone ls (occupied rs)) : Occupied ls := by
  intro l hl hempty
  obtain ⟨k, hk, hsame⟩ := h.exists_sameBut hl fun hl => hgone l hl hempty
  exact hlacks.not_sameBut hk hempty hsame

/-! ## Moves -/

/-- **What a move makes of libraries**, with the libraries that it puts nothing into. The definition enters the
first library with the context, or one is opened for it. Around that one, libraries that hold nothing are
dropped. -/
inductive Moves (x : Datum) (context : Context) : List Library → List Library → List Library → Prop where
  | entered {as bs as' bs' : List Library} {l k : Library} (has : Aligned x as as') (hl : SameBut x l k)
      (hbs : Aligned x bs bs') (hlacks : Lacks x (as' ++ bs')) (hcontext : l.context.same context = true) :
      Moves x context (as ++ l :: bs) (as ++ bs) (occupied as' ++ k :: occupied bs')
  | opened {ls rs : List Library} {l : Library} (h : Aligned x ls rs) (hlacks : Lacks x rs)
      (alone : others x l.definitions = []) (hcontext : ∀ m ∈ ls, m.context ≠ l.context) :
      Moves x context ls ls (occupied rs ++ [l])

theorem moves_append {rest : Collection} {d : Definition} (haligned : Aligned x ls rest.libraries)
    (hlacks : Lacks x rest.libraries) (hd : hasId x d = true) :
    Moves x context ls (ls.eraseP fun l => l.context.same context)
      (rest.append context d).2.dropEmpty.libraries := by
  rcases append_cases rest context d with ⟨as', k, bs', hbefore, has', hk, hafter⟩ | ⟨id, hnone, hafter⟩
  · rw [hbefore] at haligned hlacks
    obtain ⟨as, m, bs, rfl, has, hm, hbs⟩ := haligned.middle
    have hasContext : ∀ a ∈ as, ¬ a.context.same context = true := fun a ha =>
      Bool.eq_false_iff.mp (has.forall_context (P := fun a => a.same context = false) has' a ha)
    have hmContext : m.context.same context = true := hm.context ▸ hk
    have hdropped : (rest.append context d).2.dropEmpty.libraries
        = occupied as' ++ { k with definitions := k.definitions ++ [d] } :: occupied bs' := by
      rw [dropEmpty, hafter]
      simp [occupied, List.filter_append]
    have hbystanders : (as ++ m :: bs).eraseP (fun l => l.context.same context) = as ++ bs := by
      rw [List.eraseP_append_right _ hasContext, List.eraseP_cons, hmContext, cond_true]
    rw [hbystanders, hdropped]
    exact .entered has (hm.trans (.push hd k)) hbs (fun a ha => hlacks a (by simp at ha ⊢; tauto)) hmContext
  · have hnone' : ∀ a ∈ ls, a.context.same context = false :=
      haligned.forall_context (P := fun a => a.same context = false) hnone
    have hdropped : (rest.append context d).2.dropEmpty.libraries
        = occupied rest.libraries ++ [⟨context, [d], id⟩] := by
      rw [dropEmpty, hafter]
      simp [occupied, List.filter_append]
    rw [List.eraseP_of_forall_not fun a ha => Bool.eq_false_iff.mp (hnone' a ha), hdropped]
    refine .opened haligned hlacks (others_singleton hd) fun a ha heq => ?_
    have hsame := hnone' a ha
    rw [heq, Context.same_refl] at hsame
    cases hsame

namespace Moves

variable {bystanders after : List Library}

theorem spares (h : Moves x context ls bystanders after)
    (hgone : ∀ l ∈ bystanders, others x l.definitions = [] → Gone l) : Spares x Gone ls after := by
  cases h with
  | entered has hl hbs _ _ =>
      obtain ⟨hgoneAs, hgoneBs⟩ := List.forall_mem_append.mp hgone
      exact .append_occupied has hgoneAs (.kept hl (.of_occupied hbs hgoneBs))
  | opened h _ alone _ =>
      have happend := Spares.append_occupied h hgone (.opened alone)
      rwa [List.append_nil] at happend

/-- If a move spares the others, no library was without definitions that it put nothing into. -/
theorem occupied_of_spares (h : Moves x context ls bystanders after)
    (hheld : ∀ l ∈ ls, l.context.same context = true → l.definitions ≠ [] → others x l.definitions ≠ [])
    (hgone : ∀ l, Gone l → l.definitions ≠ []) (hspares : Spares x Gone ls after) :
    Occupied bystanders := by
  cases h with
  | @entered as bs as' bs' l k _ hl _ hlacks hcontext =>
      -- among what is left, the library entered is the only one that may hold none of the others
      obtain ⟨hlacksAs, hlacksBs⟩ := Lacks.append_iff.mp hlacks
      have hcount := hspares.countP_le hgone
      rw [List.countP_append, List.countP_append, List.countP_cons, List.countP_cons,
        hlacksAs.countP_eq_zero, hlacksBs.countP_eq_zero, hl.others] at hcount
      have hentered : (others x l.definitions).isEmpty = l.definitions.isEmpty := by
        rw [Bool.eq_iff_iff, List.isEmpty_iff, List.isEmpty_iff]
        refine ⟨not_imp_not.mp (hheld l (by simp) hcontext), fun h => ?_⟩
        rw [h]
        rfl
      rw [hentered] at hcount
      have hzero : (as ++ bs).countP (fun l => l.definitions.isEmpty) = 0 := by
        rw [List.countP_append]
        omega
      exact fun m hm hempty => List.countP_eq_zero.mp hzero m hm (by rw [hempty]; rfl)
  | opened _ hlacks _ hcontext =>
      intro m hm hempty
      obtain ⟨k, hk, hsame⟩ := hspares.exists_sameBut hm fun hm => hgone m hm hempty
      rcases List.mem_append.mp hk with hk | hk
      · exact hlacks.not_sameBut hk hempty hsame
      · obtain rfl := List.mem_singleton.mp hk
        exact hcontext m hm hsame.context.symm

end Moves

end Dropping

/-! ## Edits -/

/-- A library that holds the definition found and no other is the one in which it is found. -/
theorem context_eq_of_alone {c : Collection} (h : Keyed c.entries) (hx : x.IsName) {l : Library}
    {found : Definition} (hfound : c.find x = some (l, found)) {m : Library} (hm : m ∈ c.libraries)
    (hheld : m.definitions ≠ []) (halone : others x m.definitions = []) : m.context = l.context := by
  obtain ⟨hl, hmem, hid⟩ := mem_of_find hfound
  obtain ⟨e, he⟩ := List.exists_mem_of_ne_nil _ hheld
  have heid : hasId x e = true := by simpa using List.filter_eq_nil_iff.mp halone e he
  have heq := h.eq_of_hasId hx (p := (m.context, e)) (q := (l.context, found))
    ((mem_entriesOf_iff _ _ _).mpr ⟨m, hm, rfl, he⟩) ((mem_entriesOf_iff _ _ _).mpr ⟨l, hl, rfl, hmem⟩)
    heid hid
  exact congrArg Prod.fst heq

/-- **What an edit does to a collection**: the libraries are the same but for the definition, with one more at
the end if it is opened for it; or the definition is taken out, and is gone or moved. -/
inductive Reaches (x : Datum) (c : Collection) : Edit → List Library → Prop where
  | stays {e : Edit} {ls : List Library} (htaken : ¬ e.TakesOut c)
      (h : ∀ Gone, Spares x Gone c.libraries ls) : Reaches x c e ls
  | deleted {rs : List Library} (htaken : (Edit.delete x).TakesOut c) (h : Aligned x c.libraries rs)
      (hlacks : Lacks x rs) : Reaches x c (.delete x) (occupied rs)
  | moved {context : Context} {d : Definition} {ls : List Library}
      (htaken : (Edit.update context d).TakesOut c)
      (hheld : ∀ l ∈ c.libraries, l.context.same context = true → l.definitions ≠ [] →
        others x l.definitions ≠ [])
      (h : Moves x context c.libraries ((Edit.update context d).bystanders c.libraries) ls) :
      Reaches x c (.update context d) ls

theorem reaches_edited {c : Collection} (h : Keyed c.entries) {e : Edit} (he : e.subject? = some x)
    (hx : x.IsName) : Reaches x c e (c.edited e).libraries := by
  have hfailed : ∀ {f}, e.perform.run c = .error f c →
      ∀ Gone, Spares x Gone c.libraries (c.edited e).libraries := by
    intro f hf Gone
    rw [edited_of_error hf]
    exact .of_aligned (.refl _)
  have hself : ∀ d : Definition, d.id = x → hasId x d = true := by
    rintro d rfl
    exact (hasId_iff hx hx).mpr rfl
  cases e with
  | importAll libraries => cases he
  | add context d =>
      obtain rfl := Option.some.inj he
      refine .stays not_false fun Gone => ?_
      cases hfind : c.find d.id with
      | some f => exact hfailed (bind_of_error (add_eq_error context hfind) _) Gone
      | none =>
          rw [edited_of_ok (bind_of_ok (add_of_new context hfind) _)]
          exact spares_append c context (hself d rfl)
  | update context d =>
      obtain rfl := Option.some.inj he
      cases hfind : c.find d.id with
      | none =>
          refine .stays ?_ (hfailed (bind_of_error (update_eq_error context hfind) _))
          rintro ⟨l, found, hfound, -⟩
          cases hfind.symm.trans hfound
      | some f =>
          obtain ⟨l, found⟩ := f
          by_cases hsame : l.context.same context = true
          · rw [edited_of_ok (bind_of_ok (update_of_same context hfind hsame) _)]
            refine .stays ?_ fun Gone => .of_aligned (aligned_changed hfind (h.hasId_of_same hx hfind)
              (List.forall_mem_singleton.mpr (hself d rfl)))
            rintro ⟨l', found', hfound, hmoved⟩
            obtain ⟨rfl, -⟩ := Prod.mk.inj (Option.some.inj (hfind.symm.trans hfound))
            rw [hsame] at hmoved
            cases hmoved
          · obtain ⟨haligned, hlacks⟩ := removed_spec h hx hfind
            rw [edited_of_ok (bind_of_ok (update_of_moved context hfind hsame) _)]
            refine .moved ⟨l, found, hfind, by simpa using hsame⟩ ?_
              (moves_append haligned hlacks (hself d rfl))
            intro m hm hcontext hheld halone
            rw [context_eq_of_alone h hx hfind hm hheld halone] at hcontext
            exact hsame hcontext
  | delete id =>
      obtain rfl := Option.some.inj he
      cases hfind : c.find id with
      | none =>
          refine .stays ?_ (hfailed (bind_of_error (delete_eq_error hfind) _))
          rintro ⟨f, hfound⟩
          cases hfind.symm.trans hfound
      | some f =>
          obtain ⟨haligned, hlacks⟩ := removed_spec h hx hfind
          rw [edited_of_ok (bind_of_ok (delete_of_found hfind) _)]
          exact .deleted ⟨f, hfind⟩ haligned hlacks

/-- **What an edit spares.** Every library that holds another definition is kept, with the others that it
holds, and a library is gone only if the edit takes a definition out of one. That all libraries are kept
but one that the edit empties is so exactly if the edit takes nothing out, or if no library was
without definitions but the one that the definition is moved to. -/
theorem edited_spares_iff {c : Collection} (h : Keyed c.entries) {e : Edit} (he : e.subject? = some x)
    (hx : x.IsName) :
    Spares x (fun _ => e.TakesOut c) c.libraries (c.edited e).libraries
      ∧ (Spares x (fun l => e.TakesOut c ∧ l.definitions ≠ []) c.libraries (c.edited e).libraries
        ↔ (e.TakesOut c → Occupied (e.bystanders c.libraries))) := by
  have hreaches := reaches_edited h he hx
  generalize (c.edited e).libraries = after at hreaches ⊢
  cases hreaches with
  | stays htaken h => exact ⟨h _, iff_of_true (h _) fun htaken' => absurd htaken' htaken⟩
  | deleted htaken haligned hlacks =>
      refine ⟨.of_occupied haligned fun _ _ _ => htaken, ?_, ?_⟩
      · exact fun hspares _ => occupied_of_spares (fun _ hgone => hgone.2) hlacks hspares
      · exact fun hoccupied => .of_occupied haligned fun l hl _ => ⟨htaken, hoccupied htaken l hl⟩
  | moved htaken hheld hmoves =>
      refine ⟨hmoves.spares fun _ _ _ => htaken, ?_, ?_⟩
      · exact fun hspares _ => hmoves.occupied_of_spares hheld (fun _ hgone => hgone.2) hspares
      · exact fun hoccupied => hmoves.spares fun l hl _ => ⟨htaken, hoccupied htaken l hl⟩

/-- The definition is moved to a library without definitions; there is no other one. -/
theorem edited_spares_iff_entered :
    let d (id : String) : Definition := { id := .text id, tag := .text "T" }
    let c : Collection := {
      libraries := [⟨[], [d "x", d "y"], .text "A"⟩, ⟨[⟨"bank", "B"⟩], [], .text "B"⟩]
      newId := fun n => "L" ++ toString n }
    let e : Edit := .update [⟨"bank", "B"⟩] (d "x")
    Keyed c.entries ∧ e.subject? = some (.text "x") ∧ (Datum.text "x").IsName
      ∧ Spares (.text "x") (fun _ => e.TakesOut c) c.libraries (c.edited e).libraries
      ∧ (Spares (.text "x") (fun l => e.TakesOut c ∧ l.definitions ≠ []) c.libraries (c.edited e).libraries
        ↔ (e.TakesOut c → Occupied (e.bystanders c.libraries))) :=
  ⟨⟨by decide, by decide⟩, rfl, by decide, edited_spares_iff ⟨by decide, by decide⟩ rfl (by decide)⟩

/-- A definition is deleted, and the other library is lost, which had no definition before. -/
theorem deletion_drops_untouched_library :
    let d (id : String) : Definition := { id := .text id, tag := .text "T" }
    let c : Collection := {
      libraries := [⟨[], [d "x", d "y"], .text "A"⟩, ⟨[⟨"bank", "B"⟩], [], .text "B"⟩]
      newId := fun n => "L" ++ toString n }
    let e : Edit := .delete (.text "x")
    Keyed c.entries ∧ e.subject? = some (.text "x")
      ∧ (c.edited e).libraries = [⟨[], [d "y"], .text "A"⟩]
      ∧ ¬ Spares (.text "x") (fun l => e.TakesOut c ∧ l.definitions ≠ []) c.libraries
        (c.edited e).libraries := by
  intro d c e
  refine ⟨⟨by decide, by decide⟩, rfl, rfl, fun hspares => ?_⟩
  obtain ⟨k, hk, hsame⟩ := hspares.exists_sameBut (List.mem_cons_of_mem _ List.mem_cons_self)
    fun hgone => hgone.2 rfl
  obtain rfl := List.mem_singleton.mp hk
  exact absurd (Datum.text.inj hsame.id) (by decide)

end Collection

end StatementTagging
