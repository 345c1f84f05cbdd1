import Mathlib.Data.List.Forall2

set_option autoImplicit false

/-! # What a computation gives and what it fails with

`Outcome P Q x` says both: if `x` gives a value, it satisfies `P`, and if it fails, the fault satisfies
`Q`. It is carried through a computation step by step, and through a loop by an invariant of what the
loop has put together so far. `Tame Q x` leaves the value open.
-/

namespace StatementTagging

variable {ε α β : Type} {P : α → Prop} {R : β → Prop} {Q : ε → Prop}

/-- A value of the computation satisfies `P`, a fault of it satisfies `Q`. -/
def Outcome (P : α → Prop) (Q : ε → Prop) : Except ε α → Prop
  | .ok a => P a
  | .error f => Q f

/-- **Every fault** of the computation satisfies `Q`. -/
abbrev Tame (Q : ε → Prop) (x : Except ε α) : Prop := Outcome (fun _ => True) Q x

theorem Outcome.value {x : Except ε α} (h : Outcome P Q x) {a : α} (hx : x = .ok a) : P a := by
  rw [hx] at h
  exact h

theorem Outcome.fault {x : Except ε α} (h : Outcome P Q x) {f : ε} (hx : x = .error f) :
    Q f := by
  rw [hx] at h
  exact h

theorem Outcome.pure {a : α} (h : P a) : Outcome P Q (pure a) := h

theorem Outcome.mono {P' : α → Prop} {x : Except ε α} (h : Outcome P Q x)
    (himp : ∀ a, P a → P' a) : Outcome P' Q x := by
  cases x with
  | ok a => exact himp a h
  | error f => exact h

theorem Outcome.bind {x : Except ε α} {g : α → Except ε β} (hx : Outcome P Q x)
    (hg : ∀ a, P a → Outcome R Q (g a)) : Outcome R Q (x >>= g) := by
  cases x with
  | ok a => exact hg a hx
  | error f => exact hx

theorem Outcome.map {x : Except ε α} {g : α → β} (hx : Outcome P Q x)
    (hg : ∀ a, P a → R (g a)) : Outcome R Q (g <$> x) := by
  cases x with
  | ok a => exact hg a hx
  | error f => exact hx

theorem Outcome.mapError {ε' : Type} {Q' : ε' → Prop} {x : Except ε α} {g : ε → ε'}
    (hx : Outcome P Q x) (hg : ∀ f, Q f → Q' (g f)) : Outcome P Q' (x.mapError g) := by
  cases x with
  | ok a => exact hx
  | error f => exact hg f hx

theorem Outcome.ite {c : Prop} [Decidable c] {x y : Except ε α} (hx : c → Outcome P Q x)
    (hy : ¬ c → Outcome P Q y) : Outcome P Q (if c then x else y) := by
  by_cases h : c
  · rw [if_pos h]
    exact hx h
  · rw [if_neg h]
    exact hy h

/-! ## Having a value -/

theorem not_isOk_error {f : ε} : ¬ ∃ a : α, Except.error f = .ok a := by
  rintro ⟨a, h⟩
  cases h

theorem isOk_of_toOption {x : Except ε α} (h : x.toOption.isSome = true) : ∃ a, x = .ok a := by
  cases x with
  | ok a => exact ⟨a, rfl⟩
  | error f => cases h

theorem ok_bind (a : α) (g : α → Except ε β) : (Except.ok a >>= g) = g a := rfl

theorem error_bind (f : ε) (g : α → Except ε β) : (Except.error f >>= g) = Except.error f := rfl

theorem bind_eq_ok_iff {x : Except ε α} {g : α → Except ε β} {b : β} :
    x >>= g = .ok b ↔ ∃ a, x = .ok a ∧ g a = .ok b := by
  cases x with
  | ok a => exact ⟨fun h => ⟨a, rfl, h⟩, fun ⟨_, ha, h⟩ => Except.ok.inj ha ▸ h⟩
  | error f => exact iff_of_false (nomatch ·) fun ⟨_, ha, _⟩ => nomatch ha

/-- A computation for each item has the values in the order of the items. -/
theorem mapM_eq_ok_iff {g : α → Except ε β} {items : List α} {values : List β} :
    items.mapM g = .ok values ↔ List.Forall₂ (fun a b => g a = .ok b) items values := by
  induction items generalizing values with
  | nil =>
      rw [List.forall₂_nil_left_iff]
      exact ⟨fun h => (Except.ok.inj h).symm, fun h => h ▸ rfl⟩
  | cons a r ih =>
      rw [List.mapM_cons, List.forall₂_cons_left_iff]
      simp only [bind_eq_ok_iff, ih]
      constructor
      · rintro ⟨b, hb, bs, hbs, h⟩
        exact ⟨b, bs, hb, hbs, (Except.ok.inj h).symm⟩
      · rintro ⟨b, bs, hb, hbs, rfl⟩
        exact ⟨b, hb, bs, hbs, rfl⟩

theorem isOk_of_mapM {g : α → Except ε β} {items : List α} {values : List β}
    (h : items.mapM g = .ok values) : ∀ a ∈ items, ∃ b ∈ values, g a = .ok b := by
  have heach := mapM_eq_ok_iff.mp h
  clear h
  induction heach with
  | nil => exact fun a ha => absurd ha List.not_mem_nil
  | cons hhead _ ih =>
      refine List.forall_mem_cons.mpr ⟨⟨_, List.mem_cons_self, hhead⟩, fun a ha => ?_⟩
      obtain ⟨b, hb, hab⟩ := ih a ha
      exact ⟨b, List.mem_cons_of_mem _ hb, hab⟩

theorem mapM_eq_map {g : α → Except ε β} {value : α → β} {items : List α}
    (h : ∀ a ∈ items, g a = .ok (value a)) : items.mapM g = .ok (items.map value) := by
  rw [mapM_eq_ok_iff, List.forall₂_map_right_iff]
  exact List.forall₂_same.mpr h

/-- Parts that are written one by one are read one by one. -/
theorem mapM_map {γ : Type} {write : α → β} {read : β → Except ε γ} {result : α → γ}
    (h : ∀ a, read (write a) = .ok (result a)) (items : List α) :
    (items.map write).mapM read = .ok (items.map result) := by
  rw [List.mapM_map]
  exact mapM_eq_map fun a _ => h a

theorem mapM_isOk {g : α → Except ε β} {items : List α} (h : ∀ a ∈ items, ∃ b, g a = .ok b) :
    ∃ values, items.mapM g = .ok values := by
  induction items with
  | nil => exact ⟨[], rfl⟩
  | cons a r ih =>
      obtain ⟨⟨b, hb⟩, hr⟩ := List.forall_mem_cons.mp h
      obtain ⟨values, hvalues⟩ := ih hr
      refine ⟨b :: values, ?_⟩
      rw [List.mapM_cons, hb, hvalues]
      rfl

/-! ## Loops -/

theorem forM_eq_ok_iff {g : α → Except ε Unit} {items : List α} :
    items.forM g = .ok () ↔ ∀ a ∈ items, g a = .ok () := by
  induction items with
  | nil => exact iff_of_true rfl fun a ha => absurd ha List.not_mem_nil
  | cons a r ih =>
      rw [List.forall_mem_cons, ← ih]
      refine bind_eq_ok_iff.trans ⟨?_, fun h => ⟨(), h⟩⟩
      rintro ⟨⟨⟩, h⟩
      exact h

theorem Outcome.mapM {g : α → Except ε β} {items : List α}
    (h : ∀ a ∈ items, Outcome R Q (g a)) : Outcome (fun bs => ∀ b ∈ bs, R b) Q (items.mapM g) := by
  induction items with
  | nil => exact fun b hb => absurd hb List.not_mem_nil
  | cons a r ih =>
      rw [List.mapM_cons]
      refine (h a List.mem_cons_self).bind fun b hb => ?_
      refine (ih fun a ha => h a (List.mem_cons_of_mem _ ha)).bind fun bs hbs => ?_
      exact Outcome.pure (List.forall_mem_cons.mpr ⟨hb, hbs⟩)

theorem Outcome.foldlM {g : β → α → Except ε β} {items : List α}
    (h : ∀ s, R s → ∀ a ∈ items, Outcome R Q (g s a)) {s : β} (hs : R s) :
    Outcome R Q (items.foldlM g s) := by
  induction items generalizing s with
  | nil => exact hs
  | cons a r ih =>
      rw [List.foldlM_cons]
      refine (h s hs a List.mem_cons_self).bind fun s' hs' => ?_
      exact ih (fun s hs a ha => h s hs a (List.mem_cons_of_mem _ ha)) hs'

/-- Two loops whose rounds do the same. -/
theorem foldlM_congr {g g' : β → α → Except ε β} {items : List α} (h : ∀ a ∈ items, ∀ s, g s a = g' s a)
    (s : β) : items.foldlM g s = items.foldlM g' s := by
  induction items generalizing s with
  | nil => rfl
  | cons a r ih =>
      obtain ⟨ha, hr⟩ := List.forall_mem_cons.mp h
      rw [List.foldlM_cons, List.foldlM_cons, ha]
      exact bind_congr fun s' => ih hr s'

/-- A loop whose rounds change nothing. -/
theorem foldlM_eq_ok_self {g : β → α → Except ε β} {s : β} {items : List α}
    (h : ∀ a ∈ items, g s a = .ok s) : items.foldlM g s = .ok s := by
  induction items with
  | nil => rfl
  | cons a r ih =>
      obtain ⟨ha, hr⟩ := List.forall_mem_cons.mp h
      rw [List.foldlM_cons, ha]
      exact ih hr

/-- A loop may be left early; what it has put together then counts like that of a round that goes on. -/
theorem Outcome.forIn {g : α → β → Except ε (ForInStep β)} {items : List α}
    (h : ∀ a ∈ items, ∀ s, R s → Outcome (fun step => R step.value) Q (g a s)) {s : β} (hs : R s) :
    Outcome R Q (forIn items s g) := by
  induction items generalizing s with
  | nil => exact hs
  | cons a r ih =>
      rw [List.forIn_cons]
      refine (h a List.mem_cons_self s hs).bind fun step hstep => ?_
      cases step with
      | done s' => exact hstep
      | yield s' => exact ih (fun a ha => h a (List.mem_cons_of_mem _ ha)) hstep

/-! ## One possible fault -/

section OneFault

variable {fault : ε} {g : α → Except ε β} (hfault : ∀ a, Tame (· = fault) (g a))

include hfault

/-- A computation for each item that can fail in one way only. -/
theorem mapM_eq_error {items : List α} (h : ¬ ∀ a ∈ items, ∃ b, g a = .ok b) :
    items.mapM g = .error fault := by
  have htame : Tame (· = fault) (items.mapM g) :=
    (Outcome.mapM fun a _ => hfault a).mono fun _ _ => trivial
  cases hrun : items.mapM g with
  | ok values =>
      refine absurd (fun a ha => ?_) h
      obtain ⟨b, -, hb⟩ := isOk_of_mapM hrun a ha
      exact ⟨b, hb⟩
  | error e => rw [htame.fault hrun]

/-- **The order of items** does not matter to whether such a computation fails, and its values are those of
the items in their order. -/
theorem mapM_perm [Inhabited β] {items items' : List α} (h : items.Perm items') :
    (∃ value : α → β, items.mapM g = .ok (items.map value) ∧ items'.mapM g = .ok (items'.map value))
      ∨ items.mapM g = .error fault ∧ items'.mapM g = .error fault := by
  by_cases hall : ∀ a ∈ items, ∃ b, g a = .ok b
  · refine Or.inl ⟨fun a => (g a).toOption.getD default, ?_⟩
    have hvalue : ∀ a ∈ items, g a = .ok ((g a).toOption.getD default) := by
      intro a ha
      obtain ⟨b, hb⟩ := hall a ha
      rw [hb]
      rfl
    exact ⟨mapM_eq_map hvalue, mapM_eq_map fun a ha => hvalue a (h.mem_iff.mpr ha)⟩
  · have hall' : ¬ ∀ a ∈ items', ∃ b, g a = .ok b := fun h' =>
      hall fun a ha => h' a (h.mem_iff.mp ha)
    exact Or.inr ⟨mapM_eq_error hfault hall, mapM_eq_error hfault hall'⟩

end OneFault

/-- Two computations that do the same for each item. -/
theorem mapM_congr {g g' : α → Except ε β} {items : List α} (h : ∀ a ∈ items, g a = g' a) :
    items.mapM g = items.mapM g' := by
  induction items with
  | nil => rfl
  | cons a r ih =>
      obtain ⟨ha, hr⟩ := List.forall_mem_cons.mp h
      rw [List.mapM_cons, List.mapM_cons, ha, ih hr]

end StatementTagging
