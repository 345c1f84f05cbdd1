import Mathlib.Data.List.Nodup
import StatementTagging.Datum.Access

set_option autoImplicit false

/-! # Data with distinct keys

A record is a list of entries, and nothing in its type keeps a key from occurring twice. A text never
gives such a record, and only a record without one is read back from its text. `Datum.WellKeyed` is that
property at every level of a datum; parts that are taken out of the datum have it too.
-/

namespace StatementTagging

/-- No record inside the datum has two entries with one key. -/
inductive Datum.WellKeyed : Datum → Prop where
  | null : WellKeyed .null
  | bool (b : Bool) : WellKeyed (.bool b)
  | int (n : Int) : WellKeyed (.int n)
  | float (x : Float) : WellKeyed (.float x)
  | text (s : String) : WellKeyed (.text s)
  | list {items : List Datum} (hitems : ∀ d ∈ items, WellKeyed d) : WellKeyed (.list items)
  | record {entries : List (String × Datum)} (hkeys : (entries.map Prod.fst).Nodup)
      (hentries : ∀ e ∈ entries, WellKeyed e.2) : WellKeyed (.record entries)

namespace Datum.WellKeyed

theorem items {items : List Datum} (h : (Datum.list items).WellKeyed) : ∀ d ∈ items, d.WellKeyed := by
  cases h with
  | list hitems => exact hitems

theorem entries {entries : List (String × Datum)} (h : (Datum.record entries).WellKeyed) :
    ∀ e ∈ entries, e.2.WellKeyed := by
  cases h with
  | record _ hentries => exact hentries

theorem orElse {d other : Datum} (hd : d.WellKeyed) (hother : other.WellKeyed) :
    (d.orElse other).WellKeyed := by
  rw [Datum.orElse]
  split
  · exact hd
  · exact hother

theorem getD_lookup {entries : List (String × Datum)} (h : (Datum.record entries).WellKeyed)
    {other : Datum} (hother : other.WellKeyed) (key : String) :
    ((entries.lookup key).getD other).WellKeyed := by
  cases hlookup : entries.lookup key with
  | none => exact hother
  | some v =>
      obtain ⟨l, r, rfl, -⟩ := List.lookup_eq_some_iff.mp hlookup
      exact h.entries (key, v) (List.mem_append_right _ List.mem_cons_self)

theorem valueAt {entries : List (String × Datum)} (h : (Datum.record entries).WellKeyed)
    (key : String) : (Datum.valueAt entries key).WellKeyed :=
  h.getD_lookup .null key

/-! ## Taking data apart -/

variable {d : Datum}

theorem parts (h : d.WellKeyed) {items : List Datum} (hparts : d.parts = .ok items) :
    ∀ item ∈ items, item.WellKeyed := by
  cases d with
  | list items' =>
      obtain rfl := Except.ok.inj hparts
      exact h.items
  | record es =>
      obtain rfl := Except.ok.inj hparts
      intro item hitem
      obtain ⟨e, -, rfl⟩ := List.mem_map.mp hitem
      exact .text _
  | text s =>
      obtain rfl := Except.ok.inj hparts
      intro item hitem
      obtain ⟨c, -, rfl⟩ := List.mem_map.mp hitem
      exact .text _
  | null => cases hparts
  | bool b => cases hparts
  | int n => cases hparts
  | float x => cases hparts

end Datum.WellKeyed

/-! ## Numbers -/

/-- The value is an integer beyond the range of floating-point numbers. -/
def Datum.TooLarge (d : Datum) : Prop := ∃ n, d = .int n ∧ floatOfInt? n = none

/-- The datum is null or a number. -/
def Datum.IsNumeric : Datum → Prop
  | .null | .int _ | .float _ => True
  | _ => False

/-- The datum is no number. -/
def Datum.IsPlain : Datum → Prop
  | .int _ | .float _ => False
  | _ => True

/-! ## Texts -/

/-- The datum is a text. -/
def Datum.IsText (d : Datum) : Prop := ∃ s, d = .text s

/-- The datum is null or a text. -/
def Datum.IsOptionalText (d : Datum) : Prop := d = .null ∨ d.IsText

theorem Datum.IsText.wellKeyed {d : Datum} (h : d.IsText) : d.WellKeyed := by
  obtain ⟨s, rfl⟩ := h
  exact .text s

theorem Datum.IsOptionalText.wellKeyed {d : Datum} (h : d.IsOptionalText) : d.WellKeyed := by
  rcases h with rfl | h
  · exact .null
  · exact h.wellKeyed

/-- Texts without repetitions. -/
theorem nodup_eraseDups (texts : List String) : texts.eraseDups.Nodup := by
  induction hlength : texts.length using Nat.strongRecOn generalizing texts with
  | _ n ih =>
      subst hlength
      cases texts with
      | nil => exact List.nodup_nil
      | cons s r =>
          have hfewer : (r.filter fun t => !t == s).length < (s :: r).length :=
            Nat.lt_succ_of_le (List.length_filter_le _ _)
          rw [List.eraseDups_cons, List.nodup_cons, List.mem_eraseDups, List.mem_filter]
          exact ⟨fun h => by simp at h, ih _ hfewer _ rfl⟩

/-! ## Putting entries in -/

section Upsert

variable {α : Type} {entries : List (String × α)} {key : String} {value : α}

theorem upsert_of_not_mem (h : key ∉ entries.map Prod.fst) :
    upsert (· == ·) key value entries = entries ++ [(key, value)] := by
  induction entries with
  | nil => rfl
  | cons e r ih =>
      rw [List.map_cons, List.mem_cons, not_or] at h
      obtain ⟨hne, hr⟩ := h
      rw [upsert, if_neg (by simpa using Ne.symm hne), ih hr]
      rfl

/-- An entry is the one that was put in, under the key or one that is the same, or was there before. -/
theorem mem_upsert {α β : Type} {same : α → α → Bool} {key : α} {value : β} {entries : List (α × β)}
    {e : α × β} (he : e ∈ upsert same key value entries) :
    (e.2 = value ∧ (e.1 = key ∨ same e.1 key = true ∧ ∃ old, (e.1, old) ∈ entries)) ∨ e ∈ entries := by
  induction entries with
  | nil =>
      obtain rfl := List.mem_singleton.mp he
      exact Or.inl ⟨rfl, Or.inl rfl⟩
  | cons e' r ih =>
      rw [upsert] at he
      split at he
      · next hsame =>
          rcases List.mem_cons.mp he with rfl | hr
          · exact Or.inl ⟨rfl, Or.inr ⟨hsame, e'.2, List.mem_cons_self⟩⟩
          · exact Or.inr (List.mem_cons_of_mem _ hr)
      · rcases List.mem_cons.mp he with rfl | hr
        · exact Or.inr List.mem_cons_self
        · rcases ih hr with ⟨hvalue, hkey⟩ | hmem
          · refine Or.inl ⟨hvalue, hkey.imp_right fun h => ⟨h.1, ?_⟩⟩
            exact h.2.imp fun old hold => List.mem_cons_of_mem _ hold
          · exact Or.inr (List.mem_cons_of_mem _ hmem)

/-- What is put under a key is found there, and nowhere else anything changes. -/
theorem lookup_upsert (other : String) :
    (upsert (· == ·) key value entries).lookup other
      = if key = other then some value else entries.lookup other := by
  induction entries with
  | nil =>
      rw [upsert, List.lookup_cons]
      by_cases hkey : key = other
      · simp [hkey]
      · simp [hkey, beq_eq_false_iff_ne.mpr (Ne.symm hkey)]
  | cons e r ih =>
      obtain ⟨k, v⟩ := e
      rw [upsert]
      by_cases hk : k = key
      · subst hk
        rw [if_pos (beq_self_eq_true k), List.lookup_cons, List.lookup_cons]
        by_cases hkey : k = other
        · simp [hkey]
        · simp [hkey, beq_eq_false_iff_ne.mpr (Ne.symm hkey)]
      · rw [if_neg (by simpa using hk), List.lookup_cons, List.lookup_cons, ih]
        by_cases hother : k = other
        · subst hother
          simp [Ne.symm hk]
        · simp [beq_eq_false_iff_ne.mpr (Ne.symm hother)]

/-- Putting in what is there already. -/
theorem upsert_self (h : entries.lookup key = some value) :
    upsert (· == ·) key value entries = entries := by
  induction entries with
  | nil => cases h
  | cons e r ih =>
      rw [List.lookup_cons] at h
      rw [upsert]
      by_cases hkey : e.1 = key
      · rw [beq_iff_eq.mpr hkey.symm] at h
        obtain rfl := Option.some.inj h
        rw [if_pos (beq_iff_eq.mpr hkey)]
      · rw [beq_eq_false_iff_ne.mpr (Ne.symm hkey)] at h
        rw [if_neg (by simpa using hkey), ih h]

/-- An entry of a table without repeated keys is found under its key. -/
theorem lookup_of_nodup {e : String × α} (h : (entries.map Prod.fst).Nodup) (he : e ∈ entries) :
    entries.lookup e.1 = some e.2 := by
  induction entries with
  | nil => cases he
  | cons e' r ih =>
      obtain ⟨hnew, hr⟩ := List.nodup_cons.mp h
      rw [List.lookup_cons]
      rcases List.mem_cons.mp he with rfl | he
      · rw [beq_self_eq_true]
      · have hne : e.1 ≠ e'.1 := fun heq => hnew (List.mem_map.mpr ⟨e, he, heq⟩)
        rw [beq_eq_false_iff_ne.mpr hne]
        exact ih hr he

/-- The keys after an entry is put in: the same ones, or one more at the end. -/
theorem map_fst_upsert : (upsert (· == ·) key value entries).map Prod.fst
    = if key ∈ entries.map Prod.fst then entries.map Prod.fst else entries.map Prod.fst ++ [key] := by
  induction entries with
  | nil => rfl
  | cons e r ih =>
      rw [upsert]
      by_cases hkey : e.1 = key
      · rw [if_pos (beq_iff_eq.mpr hkey), if_pos (List.mem_map.mpr ⟨e, List.mem_cons_self, hkey⟩)]
        rfl
      · rw [if_neg (by simpa using hkey), List.map_cons, ih, List.map_cons]
        by_cases hr : key ∈ r.map Prod.fst
        · rw [if_pos hr, if_pos (List.mem_cons_of_mem _ hr)]
        · rw [if_neg hr, if_neg (by rw [List.mem_cons, not_or]; exact ⟨Ne.symm hkey, hr⟩)]
          rfl

theorem nodup_upsert (h : (entries.map Prod.fst).Nodup) :
    ((upsert (· == ·) key value entries).map Prod.fst).Nodup := by
  rw [map_fst_upsert]
  split
  · exact h
  · next hnew =>
      rw [← List.concat_eq_append]
      exact List.Nodup.concat hnew h

theorem Datum.WellKeyed.upsert {entries : List (String × Datum)} {d : Datum}
    (h : (Datum.record entries).WellKeyed) (hd : d.WellKeyed) :
    (Datum.record (upsert (· == ·) key d entries)).WellKeyed := by
  cases h with
  | record hkeys hentries =>
      refine .record (nodup_upsert hkeys) fun e he => ?_
      rcases mem_upsert he with ⟨heq, -⟩ | hmem
      · exact heq ▸ hd
      · exact hentries e hmem

end Upsert

end StatementTagging
