import StatementTagging.Json.Reader
import StatementTagging.Proofs.Datum
import StatementTagging.Proofs.Outcome

set_option autoImplicit false

/-! # What a text is read as

A text may write a key of a record twice, but the datum it is read as never has a key twice. The three
readers call each other with less fuel, so the property is proved for all of them by one induction on the
fuel; the entries that were read so far are its invariant inside a record.
-/

namespace StatementTagging.Json

theorem wellKeyed_of_readWord? {cs rest : List Char} {d : Datum} (h : readWord? cs = some (d, rest)) :
    d.WellKeyed := by
  rw [readWord?] at h
  obtain ⟨w, hw, heq⟩ := Option.map_eq_some_iff.mp h
  obtain ⟨rfl, -⟩ := Prod.mk.inj heq
  have hmem := List.mem_of_find?_eq_some hw
  simp only [wordValues, List.mem_cons, List.not_mem_nil, or_false] at hmem
  rcases hmem with rfl | rfl | rfl | rfl | rfl | rfl
  · exact .null
  · exact .bool true
  · exact .bool false
  · exact .float _
  · exact .float _
  · exact .float _

theorem wellKeyed_of_readUnsigned? {negative : Bool} {cs rest : List Char} {d : Datum}
    (h : readUnsigned? negative cs = some (d, rest)) : d.WellKeyed := by
  rw [readUnsigned?] at h
  obtain ⟨⟨whole, r⟩, -, heq⟩ := Option.map_eq_some_iff.mp h
  dsimp only at heq
  split at heq
  · obtain ⟨rfl, -⟩ := Prod.mk.inj heq
    exact .int _
  · obtain ⟨rfl, -⟩ := Prod.mk.inj heq
    exact .float _

theorem wellKeyed_of_readNumber? {cs rest : List Char} {d : Datum}
    (h : readNumber? cs = some (d, rest)) : d.WellKeyed := by
  unfold readNumber? at h
  split at h
  · exact wellKeyed_of_readUnsigned? h
  · exact wellKeyed_of_readUnsigned? h

/-- What the three readers give with some fuel has distinct keys. -/
structure Distinct (fuel : Nat) : Prop where
  value : ∀ cs, Outcome (fun p => p.1.WellKeyed) (fun _ => True) (readValue fuel cs)
  items : ∀ cs, Outcome (fun p => ∀ d ∈ p.1, d.WellKeyed) (fun _ => True) (readItems fuel cs)
  entries : ∀ es cs, (Datum.record es).WellKeyed →
    Outcome (fun p => (Datum.record p.1).WellKeyed) (fun _ => True) (readEntries fuel es cs)

theorem Distinct.readValue_succ {fuel : Nat} (h : Distinct fuel) (cs : List Char) :
    Outcome (fun p => p.1.WellKeyed) (fun _ => True) (readValue (fuel + 1) cs) := by
  have hempty : (Datum.record []).WellKeyed :=
    .record List.nodup_nil fun _ he => absurd he List.not_mem_nil
  unfold readValue
  split
  · exact Outcome.map (P := fun _ => True) (by cases readString _ <;> trivial) fun _ _ => .text _
  · split
    · exact Outcome.pure (.list fun _ hd => absurd hd List.not_mem_nil)
    · exact (h.items _).map fun _ hitems => .list hitems
  · split
    · exact Outcome.pure hempty
    · exact (h.entries [] _ hempty).map fun _ hentries => hentries
  · cases hword : readWord? cs with
    | some found => exact wellKeyed_of_readWord? hword
    | none =>
        cases hnumber : readNumber? cs with
        | some found => exact wellKeyed_of_readNumber? hnumber
        | none => exact trivial

theorem Distinct.readItems_succ {fuel : Nat} (h : Distinct fuel) (cs : List Char) :
    Outcome (fun p => ∀ d ∈ p.1, d.WellKeyed) (fun _ => True) (readItems (fuel + 1) cs) := by
  rw [readItems]
  refine (h.value cs).bind fun p hp => ?_
  dsimp only
  split
  · exact Outcome.pure fun d hd => List.mem_singleton.mp hd ▸ hp
  · refine (h.items _).bind fun q hq => ?_
    exact Outcome.pure (List.forall_mem_cons.mpr ⟨hp, hq⟩)
  · exact trivial

/-- An entry is put among those that were read so far, in the place of an earlier one with its key. -/
theorem Distinct.readEntries_succ {fuel : Nat} (h : Distinct fuel) {es : List (String × Datum)}
    (hes : (Datum.record es).WellKeyed) (cs : List Char) :
    Outcome (fun p => (Datum.record p.1).WellKeyed) (fun _ => True) (readEntries (fuel + 1) es cs) := by
  unfold readEntries
  split
  · refine Outcome.bind (P := fun _ => True) (by cases readString _ <;> trivial) ?_
    rintro ⟨key, r⟩ -
    dsimp only
    split
    · refine (h.value _).bind fun p hp => ?_
      split
      · exact Outcome.pure (hes.upsert hp)
      · exact h.entries _ _ (hes.upsert hp)
      · exact trivial
    · exact trivial
  · exact trivial

theorem distinct (fuel : Nat) : Distinct fuel := by
  induction fuel with
  | zero => exact ⟨fun _ => trivial, fun _ => trivial, fun _ _ _ => trivial⟩
  | succ fuel ih => exact ⟨ih.readValue_succ, ih.readItems_succ, fun _ cs hes => ih.readEntries_succ hes cs⟩

/-- **A text is read as a datum with distinct keys.** -/
theorem wellKeyed_of_read {text : String} {d : Datum} (h : read text = .ok d) : d.WellKeyed := by
  have hscan : Outcome Datum.WellKeyed (fun _ => True) (scan text.toList) := by
    rw [scan]
    refine Outcome.ite (fun _ => trivial) fun _ => ?_
    refine ((distinct _).value _).bind fun p hp => ?_
    dsimp only
    split
    · exact Outcome.pure hp
    · exact trivial
  rw [read] at h
  cases hd : scan text.toList with
  | ok d' =>
      rw [hd] at h
      exact Except.ok.inj h ▸ hscan.value hd
  | error f =>
      rw [hd] at h
      cases h

end StatementTagging.Json
