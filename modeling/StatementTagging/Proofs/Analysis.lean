import StatementTagging.Analysis
import StatementTagging.Proofs.Outcome
import StatementTagging.Proofs.Rule.Collection

set_option autoImplicit false

/-! # What an analysis collects

The analysis of a row goes through the libraries, and in a library through its definitions. It is the
same to go through the entries, each a definition with the context of its library
(`analyzeRow_eq`). What happens at one entry is said once: it contributes its definition exactly if
the context matches and the definition applies (`matched_of_addEntry`), and whether it fails does not
depend on what has been collected before (`addEntry_isOk_congr`).

From this it follows by induction over the entries which definitions an analysis collects
(`matched_of_analyzeRow`), and that it fails exactly if one of the entries fails on its own
(`analyzeRow_isOk_iff`).
-/

namespace StatementTagging

open Collection (entriesOf entriesOf_cons mem_entriesOf_iff)

/-! ## One definition -/

/-- **The definition applies** to the row on the day. -/
structure Definition.Applies (d : Definition) (row : Row) (today : String) : Prop where
  active : d.status.same (.text "ACTIVE") = true
  inForce : d.validity.includes today = .ok true
  context : d.context.matchesRow row = true
  rules : RuleSet.accepts d.rules row = .ok true

theorem applies_eq_true_iff (d : Definition) (row : Row) (today : String) :
    d.applies row today = .ok true ↔ d.Applies row today := by
  constructor
  · intro h
    unfold Definition.applies at h
    cases hactive : d.status.same (.text "ACTIVE") with
    | false => rw [hactive] at h; cases h
    | true =>
        cases hinForce : d.validity.includes today with
        | error f => rw [hactive, hinForce] at h; cases h
        | ok b =>
            cases b with
            | false => rw [hactive, hinForce] at h; cases h
            | true =>
                cases hcontext : d.context.matchesRow row with
                | false => rw [hactive, hinForce, hcontext] at h; cases h
                | true =>
                    rw [hactive, hinForce, hcontext] at h
                    exact ⟨hactive, hinForce, hcontext, h⟩
  · rintro ⟨hactive, hinForce, hcontext, hrules⟩
    unfold Definition.applies
    rw [hactive, hinForce, hcontext]
    exact hrules

instance (d : Definition) (row : Row) (today : String) : Decidable (d.Applies row today) :=
  decidable_of_iff ((d.applies row today).toOption = some true) <| by
    rw [← applies_eq_true_iff]
    cases d.applies row today with
    | error f => simp [Except.toOption]
    | ok b => simp [Except.toOption]

namespace Analysis

/-- What a definition that applies contributes. It fails if a value cannot be extracted or checked, or
if the tag cannot be a key, whatever has been collected before. -/
theorem add_eq_ok_iff (a a' : Analysis) (d : Definition) (row : Row) :
    a.add d row = .ok a' ↔
      d.tag.isCompound = false
      ∧ ∃ extracted checks, extractAll d.attributes row = .ok extracted
        ∧ verifyAll d.attributes (extracted.map fun (tag, v) => (tag, valueDatum v)) = .ok checks
        ∧ a' = { tags := a.tags ++ [d.tag],
                 attributes := upsert Datum.same d.tag extracted a.attributes,
                 matched := a.matched ++ [d],
                 verified := upsert Datum.same d.tag checks a.verified } := by
  unfold add
  cases hextracted : extractAll d.attributes row with
  | error f => simp [bind, Except.bind]
  | ok extracted =>
      by_cases htag : d.tag.isCompound = true
      · simp [bind, Except.bind, TagTable.put, htag]
      · cases hchecks :
            verifyAll d.attributes (extracted.map fun (tag, v) => (tag, valueDatum v)) with
        | error f => simp [bind, Except.bind, TagTable.put, htag, hchecks]
        | ok checks => simp [bind, Except.bind, pure, Except.pure, TagTable.put, htag, hchecks, eq_comm]

theorem add_isOk {a a' : Analysis} {d : Definition} {row : Row} (h : a.add d row = .ok a')
    (b : Analysis) : ∃ b', b.add d row = .ok b' := by
  obtain ⟨htag, extracted, checks, hextracted, hchecks, -⟩ := (add_eq_ok_iff a a' d row).mp h
  exact ⟨_, (add_eq_ok_iff b _ d row).mpr ⟨htag, extracted, checks, hextracted, hchecks, rfl⟩⟩

/-! ## One entry -/

/-- Adds what a definition under a context contributes, if the context matches and it applies. -/
def addEntry (today : String) (row : Row) (a : Analysis) (p : Context × Definition) :
    Except Fault Analysis :=
  if p.1.matchesRow row then do
    if ← p.2.applies row today then a.add p.2 row else return a
  else .ok a

variable {today : String} {row : Row} {a a' : Analysis}

theorem matched_of_addEntry {p : Context × Definition} (h : addEntry today row a p = .ok a') :
    a'.matched
      = a.matched ++ if p.1.matchesRow row = true ∧ p.2.Applies row today then [p.2] else [] := by
  rw [addEntry] at h
  by_cases hcontext : p.1.matchesRow row = true
  · rw [if_pos hcontext] at h
    cases happlies : p.2.applies row today with
    | error f => rw [happlies] at h; cases h
    | ok b =>
        rw [happlies] at h
        have hiff := applies_eq_true_iff p.2 row today
        rw [happlies] at hiff
        cases b with
        | false =>
            cases h
            have hnot : ¬ p.2.Applies row today := fun hp => by cases hiff.mpr hp
            rw [if_neg fun hp => hnot hp.2, List.append_nil]
        | true =>
            obtain ⟨-, extracted, checks, -, -, rfl⟩ := (add_eq_ok_iff _ _ _ _).mp h
            rw [if_pos ⟨hcontext, hiff.mp rfl⟩]
  · rw [if_neg hcontext] at h
    cases h
    rw [if_neg fun hp => hcontext hp.1, List.append_nil]

/-- Whether an entry fails does not depend on what has been collected. -/
theorem addEntry_isOk_congr (a b : Analysis) (p : Context × Definition) :
    (∃ a', addEntry today row a p = .ok a') ↔ ∃ b', addEntry today row b p = .ok b' := by
  rw [addEntry, addEntry]
  by_cases hcontext : p.1.matchesRow row = true
  · rw [if_pos hcontext, if_pos hcontext]
    cases p.2.applies row today with
    | error f => exact Iff.rfl
    | ok b' =>
        cases b' with
        | false => exact ⟨fun _ => ⟨b, rfl⟩, fun _ => ⟨a, rfl⟩⟩
        | true => exact ⟨fun ⟨_, h⟩ => add_isOk h b, fun ⟨_, h⟩ => add_isOk h a⟩
  · rw [if_neg hcontext, if_neg hcontext]
    exact ⟨fun _ => ⟨b, rfl⟩, fun _ => ⟨a, rfl⟩⟩

/-! ## All entries -/

theorem addLibrary_eq (l : Library) :
    addLibrary today row a l
      = (l.definitions.map (l.context, ·)).foldlM (addEntry today row) a := by
  rw [addLibrary]
  by_cases hcontext : l.context.matchesRow row = true
  · rw [if_pos hcontext, List.foldlM_map]
    simp only [addEntry, if_pos hcontext]
  · rw [if_neg hcontext]
    -- no entry of the library contributes anything
    induction l.definitions with
    | nil => rfl
    | cons d ds ih =>
        rw [List.map_cons, List.foldlM_cons]
        simp only [addEntry, if_neg hcontext]
        exact ih

/-- Going through the libraries is going through their entries. -/
theorem foldlM_addLibrary_eq (libraries : List Library) (a : Analysis) :
    libraries.foldlM (addLibrary today row) a
      = (entriesOf libraries).foldlM (addEntry today row) a := by
  induction libraries generalizing a with
  | nil => rfl
  | cons l r ih =>
      rw [List.foldlM_cons, entriesOf_cons, List.foldlM_append, addLibrary_eq]
      congr 1
      exact funext ih

theorem matched_of_foldlM (es : List (Context × Definition))
    (h : es.foldlM (addEntry today row) a = .ok a') :
    a'.matched = a.matched
      ++ (es.filter fun p => p.1.matchesRow row = true ∧ p.2.Applies row today).map (·.2) := by
  induction es generalizing a with
  | nil =>
      cases h
      exact (List.append_nil _).symm
  | cons p es ih =>
      rw [List.foldlM_cons] at h
      cases hp : addEntry today row a p with
      | error f => rw [hp] at h; cases h
      | ok a₁ =>
          rw [hp] at h
          rw [ih h, matched_of_addEntry hp, List.append_assoc, List.filter_cons]
          by_cases hmatches : p.1.matchesRow row = true ∧ p.2.Applies row today
          · simp [hmatches]
          · simp [hmatches]

theorem foldlM_isOk_iff (es : List (Context × Definition)) (a : Analysis) :
    (∃ a', es.foldlM (addEntry today row) a = .ok a')
      ↔ ∀ p ∈ es, ∃ a', addEntry today row {} p = .ok a' := by
  induction es generalizing a with
  | nil => exact ⟨fun _ p hp => absurd hp List.not_mem_nil, fun _ => ⟨a, rfl⟩⟩
  | cons p es ih =>
      rw [List.forall_mem_cons, List.foldlM_cons, addEntry_isOk_congr {} a p]
      cases hp : addEntry today row a p with
      | error f =>
          constructor
          · rintro ⟨a', h⟩
            cases h
          · rintro ⟨⟨a', h⟩, -⟩
            cases h
      | ok a₁ => exact ⟨fun h => ⟨⟨a₁, rfl⟩, (ih a₁).mp h⟩, fun h => (ih a₁).mpr h.2⟩

end Analysis

/-! ## An analysis -/

open Analysis

variable {today : String} {row : Row}

theorem analyzeRow_eq (libraries : List Library) :
    analyzeRow libraries today row = (entriesOf libraries).foldlM (addEntry today row) {} :=
  foldlM_addLibrary_eq libraries {}

/-- **What an analysis collects**: the definitions whose library matches and that apply, in order. -/
theorem matched_of_analyzeRow {libraries : List Library} {a : Analysis}
    (h : analyzeRow libraries today row = .ok a) :
    a.matched = ((entriesOf libraries).filter
      fun p => p.1.matchesRow row = true ∧ p.2.Applies row today).map (·.2) := by
  rw [analyzeRow_eq] at h
  exact matched_of_foldlM _ h

/-- Each of the analyses is that of a row. -/
theorem exists_row_of_analyzeRows {libraries : List Library} {rows : List Row} {analyses : List Analysis}
    (h : analyzeRows libraries today rows = .ok analyses) {a : Analysis} (ha : a ∈ analyses) :
    ∃ row ∈ rows, analyzeRow libraries today row = .ok a := by
  have heach := mapM_eq_ok_iff.mp h
  obtain ⟨i, hi, rfl⟩ := List.mem_iff_getElem.mp ha
  have hi' : i < rows.length := heach.length_eq ▸ hi
  exact ⟨rows[i], List.getElem_mem hi', heach.get hi' hi⟩

/-- **What every contribution keeps holds of the analysis.** -/
theorem analyzeRow_induction {libraries : List Library} {P : Analysis → Prop} (hstart : P {})
    (hadd : ∀ a d a', P a → (∃ l ∈ libraries, d ∈ l.definitions) → a.add d row = .ok a' → P a')
    {a : Analysis} (h : analyzeRow libraries today row = .ok a) : P a := by
  rw [analyzeRow_eq] at h
  refine (Outcome.foldlM (Q := fun _ => True) (fun a ha p hp => ?_) hstart).value h
  obtain ⟨l, hl, -, hd⟩ := (mem_entriesOf_iff libraries p.1 p.2).mp hp
  rw [addEntry]
  refine Outcome.ite (fun _ => ?_) fun _ => ha
  cases p.2.applies row today with
  | error f => trivial
  | ok b =>
      cases b with
      | false => exact ha
      | true =>
          show Outcome P _ (a.add p.2 row)
          cases hadded : a.add p.2 row with
          | error f => trivial
          | ok a' => exact hadd a p.2 a' ha ⟨l, hl, hd⟩ hadded

theorem tags_of_analyzeRow {libraries : List Library} {a : Analysis}
    (h : analyzeRow libraries today row = .ok a) :
    a.tags = a.matched.map (·.tag) ∧ ∀ d ∈ a.matched, ∃ l ∈ libraries, d ∈ l.definitions := by
  refine analyzeRow_induction (P := fun a => a.tags = a.matched.map (·.tag)
    ∧ ∀ d ∈ a.matched, ∃ l ∈ libraries, d ∈ l.definitions) ⟨rfl, ?_⟩ ?_ h
  · exact fun d hd => absurd hd List.not_mem_nil
  · rintro a d a' ⟨htags, hmatched⟩ hd hadded
    obtain ⟨-, extracted, checks, -, -, rfl⟩ := (add_eq_ok_iff a a' d row).mp hadded
    refine ⟨?_, fun x hx => ?_⟩
    · show a.tags ++ [d.tag] = (a.matched ++ [d]).map (·.tag)
      rw [htags, List.map_append]
      rfl
    · rcases List.mem_append.mp hx with hx | hx
      · exact hmatched x hx
      · exact List.mem_singleton.mp hx ▸ hd

/-- Trying out a definition is what the analysis does with it when the context of its library
matches. -/
theorem addEntry_eq_preview {p : Context × Definition} (h : p.1.matchesRow row = true) :
    addEntry today row {} p = analyzeRow [previewLibrary p.2] today row := by
  have hentries : entriesOf [previewLibrary p.2] = [([], p.2)] := rfl
  have hnone : Context.matchesRow [] row = true := rfl
  rw [analyzeRow_eq, hentries, List.foldlM_cons, addEntry, addEntry, if_pos h, if_pos hnone]
  exact (bind_pure _).symm

/-- **When an analysis succeeds**: each definition whose library matches can be tried out on the
row. -/
theorem analyzeRow_isOk_iff (libraries : List Library) :
    (∃ a, analyzeRow libraries today row = .ok a)
      ↔ ∀ p ∈ entriesOf libraries, p.1.matchesRow row = true →
          ∃ a, analyzeRow [previewLibrary p.2] today row = .ok a := by
  rw [analyzeRow_eq, foldlM_isOk_iff]
  refine forall₂_congr fun p hp => ?_
  by_cases hcontext : p.1.matchesRow row = true
  · rw [addEntry_eq_preview hcontext]
    exact ⟨fun h _ => h, fun h => h hcontext⟩
  · rw [addEntry, if_neg hcontext]
    exact ⟨fun _ h => absurd h hcontext, fun _ => ⟨{}, rfl⟩⟩

end StatementTagging
