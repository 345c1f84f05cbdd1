import Mathlib.Data.List.Perm.Basic
import StatementTagging.Rule.Definition

set_option autoImplicit false

/-! # When identifiers and contexts are the same

Identifiers that are texts or integers are the same exactly when they have the same *key*
(`same_iff_key_eq`); a truth value counts as the integer it stands for. Contexts are the same exactly
when one is a rearrangement of the other (`context_same_iff`), and a row does not tell them
apart (`matchesRow_congr`).
-/

namespace StatementTagging

/-! ## Identifiers -/

/-- What an identifier is known by: its text, or the integer it stands for. -/
inductive Key where
  | text (s : String)
  | number (n : Int)
  /-- Whatever is no identifier. -/
  | none
deriving DecidableEq

/-- The key of an identifier. -/
def Datum.key : Datum → Key
  | .text s => .text s
  | .bool b => .number (if b then 1 else 0)
  | .int n => .number n
  | _ => .none

/-- The datum is a text or an integer. -/
def Datum.IsName (d : Datum) : Prop := d.key ≠ .none

instance : DecidablePred Datum.IsName := fun d => inferInstanceAs (Decidable (d.key ≠ .none))

theorem Datum.IsName.cases {d : Datum} (h : d.IsName) :
    (∃ s, d = .text s) ∨ (∃ b, d = .bool b) ∨ ∃ n, d = .int n := by
  cases d with
  | text s => exact Or.inl ⟨s, rfl⟩
  | bool b => exact Or.inr (Or.inl ⟨b, rfl⟩)
  | int n => exact Or.inr (Or.inr ⟨n, rfl⟩)
  | null => exact absurd rfl h
  | float x => exact absurd rfl h
  | list items => exact absurd rfl h
  | record es => exact absurd rfl h

theorem same_iff_key_eq {a b : Datum} (ha : a.IsName) (hb : b.IsName) :
    a.same b = true ↔ a.key = b.key := by
  rcases ha.cases with ⟨s, rfl⟩ | ⟨x, rfl⟩ | ⟨m, rfl⟩
  all_goals
    rcases hb.cases with ⟨t, rfl⟩ | ⟨y, rfl⟩ | ⟨n, rfl⟩
    all_goals simp [Datum.same, Datum.sameNumber, Datum.integer?, Datum.key]

theorem same_eq_false_iff_key_ne {a b : Datum} (ha : a.IsName) (hb : b.IsName) :
    a.same b = false ↔ a.key ≠ b.key := by
  rw [← Bool.not_eq_true, same_iff_key_eq ha hb]

/-- Equal definitions have the same identifier. -/
theorem Definition.id_same_of_same {a b : Definition} (h : a.same b = true) :
    a.id.same b.id = true := by
  simp only [Definition.same, Bool.and_eq_true] at h
  exact h.1.1.1.1.1.1.1

/-! ## Contexts -/

theorem context_same_iff (a b : Context) : a.same b = true ↔ a.Perm b := List.isPerm_iff

theorem Context.same_refl (a : Context) : a.same a = true :=
  (context_same_iff a a).mpr (List.Perm.refl a)

/-- What is the same as a context is the same as any rearrangement of it. -/
theorem Context.same_congr {a b : Context} (x : Context) (h : a.same b = true) :
    x.same a = x.same b := by
  have hperm : a.Perm b := (context_same_iff a b).mp h
  rw [Bool.eq_iff_iff, context_same_iff, context_same_iff]
  exact ⟨fun hx => hx.trans hperm, fun hx => hx.trans hperm.symm⟩

/-- **The order of a context does not matter** to the rows it matches. -/
theorem matchesRow_congr {a b : Context} (h : a.same b = true) (row : Row) :
    a.matchesRow row = b.matchesRow row := by
  have hperm : a.Perm b := (context_same_iff a b).mp h
  rw [Bool.eq_iff_iff, Context.matchesRow, Context.matchesRow, List.all_eq_true, List.all_eq_true]
  constructor
  · intro hall e he
    exact hall e (hperm.mem_iff.mpr he)
  · intro hall e he
    exact hall e (hperm.mem_iff.mp he)

end StatementTagging
