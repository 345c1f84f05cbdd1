import StatementTagging.Proofs.Datum
import StatementTagging.Proofs.Outcome
import StatementTagging.Rule.Attribute

set_option autoImplicit false

/-! # Tables under tags that are texts

Tags are compared by value. As long as they are texts, a table is one under strings, `ofTexts`: what is put
under a tag is found there, and nowhere else anything changes (`under_upsert`). Put together in this way, a
table has each tag once, so that its entries are what is found in it (`Keyed.mem_iff`).

The tables of extracted values and of checks are put together by loops over attributes, of which the last one
with a tag decides what stands under it (`value_of_extractAll`, `check_of_verifyAll`).
-/

namespace StatementTagging

theorem Datum.same_text_iff (d : Datum) (s : String) : d.same (.text s) = true ↔ d = .text s := by
  cases d <;> simp [Datum.same, Datum.sameNumber, Datum.integer?]

theorem Datum.text_same_iff (s : String) (d : Datum) : (Datum.text s).same d = true ↔ d = .text s := by
  cases d with
  | text t =>
      rw [Datum.same_text_iff, Datum.text.injEq, Datum.text.injEq]
      exact eq_comm
  | _ => simp [Datum.same, Datum.sameNumber, Datum.integer?]

theorem same_text_iff (s t : String) : (Datum.text s).same (.text t) = true ↔ s = t := by
  rw [Datum.same_text_iff, Datum.text.injEq]

namespace TagTable

variable {α : Type} {table : TagTable α}

/-- The table with the entries of one under strings. -/
def ofTexts (entries : List (String × α)) : TagTable α := entries.map fun e => (.text e.1, e.2)

/-- The value under a text. -/
def under (table : TagTable α) (tag : String) : Option α := lookupBy Datum.same (.text tag) table

theorem find_text (table : TagTable α) (tag : String) : table.find (.text tag) = .ok (table.under tag) :=
  rfl

theorem put_text (table : TagTable α) (tag : String) (value : α) :
    table.put (.text tag) value = .ok (upsert Datum.same (.text tag) value table) :=
  rfl

theorem under_cons (t : Datum) (v : α) (table : TagTable α) (tag : String) :
    under ((t, v) :: table) tag = if t.same (.text tag) then some v else table.under tag := by
  rw [under, lookupBy, List.find?_cons]
  cases t.same (.text tag) <;> rfl

/-- **What is put under a tag is found there.** -/
theorem under_upsert_self (table : TagTable α) (tag : String) (value : α) :
    under (upsert Datum.same (.text tag) value table) tag = some value := by
  induction table with
  | nil => rw [upsert, under_cons, if_pos ((same_text_iff tag tag).mpr rfl)]
  | cons e r ih =>
      rw [upsert]
      split
      · next hsame => rw [under_cons, if_pos hsame]
      · next hother => rw [under_cons, if_neg hother, ih]

/-- Nothing changes under another tag, which need not be a text. -/
theorem under_upsert_of_ne {t : Datum} {tag : String} (ht : t ≠ .text tag) (value : α)
    (table : TagTable α) : under (upsert Datum.same t value table) tag = table.under tag := by
  induction table with
  | nil => rw [upsert, under_cons, if_neg (mt (Datum.same_text_iff t tag).mp ht)]
  | cons e r ih =>
      rw [upsert, under_cons]
      split
      · next hsame =>
          have hkey : ¬ e.1.same (.text tag) = true := by
            intro hkey
            rw [(Datum.same_text_iff _ _).mp hkey, Datum.text_same_iff] at hsame
            exact ht hsame
          rw [under_cons, if_neg hkey, if_neg hkey]
      · rw [under_cons, ih]

theorem under_upsert (table : TagTable α) (tag : String) (value : α) (other : String) :
    under (upsert Datum.same (.text tag) value table) other
      = if tag = other then some value else table.under other := by
  split
  · next heq => rw [heq, under_upsert_self]
  · next hne => exact under_upsert_of_ne (mt Datum.text.inj hne) value table

/-- Putting something under another tag changes nothing under a tag. -/
theorem under_put_of_ne {t : Datum} {tag : String} (ht : t ≠ .text tag) (value : α) (table : TagTable α) :
    Outcome (fun table' => table'.under tag = table.under tag) (fun _ => True) (table.put t value) :=
  Outcome.ite (fun _ => trivial) fun _ => under_upsert_of_ne ht value table

/-- The values of a table one by one. -/
theorem under_map {β : Type} (f : α → β) (table : TagTable α) (tag : String) :
    under (table.map fun e => (e.1, f e.2)) tag = (table.under tag).map f := by
  induction table with
  | nil => rfl
  | cons e r ih =>
      rw [List.map_cons, under_cons, under_cons, ih, apply_ite (Option.map f), Option.map_some]

theorem upsert_ofTexts (tag : String) (value : α) (entries : List (String × α)) :
    upsert Datum.same (.text tag) value (ofTexts entries)
      = ofTexts (upsert (· == ·) tag value entries) := by
  induction entries with
  | nil => rfl
  | cons e r ih =>
      show (if (Datum.text e.1).same (.text tag) then _ else _ :: upsert Datum.same _ _ (ofTexts r)) = _
      rw [upsert, ih]
      by_cases htag : e.1 = tag
      · rw [if_pos ((same_text_iff _ _).mpr htag), if_pos (beq_iff_eq.mpr htag)]
        rfl
      · rw [if_neg (mt (same_text_iff _ _).mp htag), if_neg (by simpa using htag)]
        rfl

theorem under_ofTexts (entries : List (String × α)) (tag : String) :
    (ofTexts entries).under tag = entries.lookup tag := by
  induction entries with
  | nil => rfl
  | cons e r ih =>
      show under ((.text e.1, e.2) :: ofTexts r) tag = _
      rw [under_cons, ih, List.lookup_cons]
      by_cases htag : e.1 = tag
      · rw [if_pos ((same_text_iff _ _).mpr htag), beq_iff_eq.mpr htag.symm]
      · rw [if_neg (mt (same_text_iff _ _).mp htag), beq_eq_false_iff_ne.mpr (Ne.symm htag)]

/-! ## Tables that were put together -/

/-- All tags of the table are texts, and each is there once. -/
def Keyed (table : TagTable α) : Prop :=
  ∃ entries : List (String × α), (entries.map Prod.fst).Nodup ∧ table = ofTexts entries

theorem Keyed.nil : Keyed ([] : TagTable α) := ⟨[], List.nodup_nil, rfl⟩

theorem Keyed.upsert (h : table.Keyed) (tag : String) (value : α) :
    Keyed (upsert Datum.same (.text tag) value table) := by
  obtain ⟨entries, hnodup, rfl⟩ := h
  exact ⟨_, nodup_upsert hnodup, upsert_ofTexts tag value entries⟩

/-- The entries of a table are what is found in it. -/
theorem Keyed.mem_iff (h : table.Keyed) (e : Datum × α) :
    e ∈ table ↔ ∃ tag, e.1 = .text tag ∧ table.under tag = some e.2 := by
  obtain ⟨entries, hnodup, rfl⟩ := h
  constructor
  · intro he
    obtain ⟨x, hx, rfl⟩ := List.mem_map.mp he
    refine ⟨x.1, rfl, ?_⟩
    rw [under_ofTexts]
    exact lookup_of_nodup hnodup hx
  · rintro ⟨tag, htag, hunder⟩
    rw [under_ofTexts] at hunder
    obtain ⟨l, r, hentries, -⟩ := List.lookup_eq_some_iff.mp hunder
    refine List.mem_map.mpr ⟨(tag, e.2), ?_, Prod.ext htag.symm rfl⟩
    rw [hentries]
    exact List.mem_append_right _ List.mem_cons_self

theorem Keyed.isText_of_mem {table : TagTable α} (h : table.Keyed) {t : Datum}
    (ht : t ∈ table.map Prod.fst) : t.IsText := by
  obtain ⟨entries, -, rfl⟩ := h
  obtain ⟨pair, hpair, rfl⟩ := List.mem_map.mp ht
  obtain ⟨e, -, rfl⟩ := List.mem_map.mp hpair
  exact ⟨e.1, rfl⟩

theorem mem_keys_upsert {table : TagTable α} (h : table.Keyed) (tag : String) (value : α) (t : Datum) :
    t ∈ (upsert Datum.same (.text tag) value table).map Prod.fst
      ↔ t ∈ table.map Prod.fst ∨ t = .text tag := by
  obtain ⟨entries, -, rfl⟩ := h
  have hkeys : ∀ entries : List (String × α),
      (ofTexts entries).map Prod.fst = (entries.map Prod.fst).map Datum.text := by
    intro entries
    rw [ofTexts, List.map_map, List.map_map]
    rfl
  rw [upsert_ofTexts, hkeys, hkeys, map_fst_upsert]
  split
  · next hmem => exact ⟨Or.inl, fun h => h.elim id fun heq => heq ▸ List.mem_map_of_mem hmem⟩
  · rw [List.map_append, List.mem_append, List.map_singleton, List.mem_singleton]

end TagTable

/-! ## Tables of attributes -/

/-- Puts the value of an attribute in a row under its tag. -/
def extractOne (row : Row) (table : TagTable (Option String)) (a : Attribute) :
    Except Fault (TagTable (Option String)) := do
  table.put a.tag (← a.extract row)

theorem extractAll_eq (attributes : List Attribute) (row : Row) :
    extractAll attributes row = attributes.foldlM (extractOne row) [] :=
  rfl

/-- Puts the outcome of the check of an attribute under its tag, if it has a check. -/
def verifyOne (extracted : TagTable Datum) (table : TagTable Bool) (a : Attribute) :
    Except Fault (TagTable Bool) := do
  let value := (← extracted.find a.tag).getD .null
  if a.verify.truthy then table.put a.tag (value.same a.verify)
  else
    match a.expression.pattern.text?.bind PredefinedPattern.ofPattern? with
    | some p => if p.validates then table.put a.tag (!value.isNull) else return table
    | none => return table

theorem verifyAll_eq (attributes : List Attribute) (extracted : TagTable Datum) :
    verifyAll attributes extracted = attributes.foldlM (verifyOne extracted) [] :=
  rfl

/-- One round of the extraction: what putting any value under the tag of the attribute brings about. -/
theorem outcome_extractOne {P : TagTable (Option String) → Prop} {table : TagTable (Option String)}
    {a : Attribute} (hput : ∀ v, Outcome P (fun _ => True) (table.put a.tag v)) (row : Row) :
    Outcome P (fun _ => True) (extractOne row table a) := by
  refine Outcome.bind (P := fun _ => True) ?_ fun v _ => hput v
  cases a.extract row <;> trivial

/-- One round of the verification, in which the table stays as it is if the attribute has no check. -/
theorem outcome_verifyOne {P : TagTable Bool → Prop} {table : TagTable Bool} (hstay : P table)
    {a : Attribute} (hput : ∀ v, Outcome P (fun _ => True) (table.put a.tag v))
    (extracted : TagTable Datum) : Outcome P (fun _ => True) (verifyOne extracted table a) := by
  refine Outcome.bind (P := fun _ => True) ?_ fun v _ => ?_
  · cases extracted.find a.tag <;> trivial
  · refine Outcome.ite (fun _ => hput _) fun _ => ?_
    split
    · exact Outcome.ite (fun _ => hput _) fun _ => hstay
    · exact hstay

section Attributes

variable {attributes : List Attribute}

/-- **What putting a value under the tag of an attribute keeps** holds of the extracted values. -/
theorem extractAll_induction {P : TagTable (Option String) → Prop} (hstart : P [])
    (hput : ∀ table, P table → ∀ a ∈ attributes, ∀ v, Outcome P (fun _ => True) (table.put a.tag v))
    {row : Row} {table : TagTable (Option String)} (h : extractAll attributes row = .ok table) : P table :=
  (Outcome.foldlM (fun table htable a ha => outcome_extractOne (hput table htable a ha) row) hstart).value h

/-- The same for the outcomes of checks. -/
theorem verifyAll_induction {P : TagTable Bool → Prop} (hstart : P [])
    (hput : ∀ table, P table → ∀ a ∈ attributes, ∀ v, Outcome P (fun _ => True) (table.put a.tag v))
    {extracted : TagTable Datum} {table : TagTable Bool} (h : verifyAll attributes extracted = .ok table) :
    P table :=
  (Outcome.foldlM (fun table htable a ha => outcome_verifyOne htable (hput table htable a ha) extracted)
    hstart).value h

/-! ## The last attribute with a tag -/

variable {tag : String} (hother : ∀ a ∈ attributes, a.tag ≠ .text tag)

include hother

/-- Attributes with other tags change nothing under a tag. -/
theorem under_extractAll {row : Row} {table table' : TagTable (Option String)}
    (hrun : attributes.foldlM (extractOne row) table = .ok table') : table'.under tag = table.under tag := by
  refine (Outcome.foldlM (R := fun t => t.under tag = table.under tag) (Q := fun _ => True)
    (fun t ht a ha => ?_) rfl).value hrun
  refine outcome_extractOne (fun v => ?_) row
  exact (TagTable.under_put_of_ne (hother a ha) v t).mono fun _ hput => hput.trans ht

theorem under_verifyAll {extracted : TagTable Datum} {table table' : TagTable Bool}
    (hrun : attributes.foldlM (verifyOne extracted) table = .ok table') :
    table'.under tag = table.under tag := by
  refine (Outcome.foldlM (R := fun t => t.under tag = table.under tag) (Q := fun _ => True)
    (fun t ht a ha => ?_) rfl).value hrun
  refine outcome_verifyOne ht (fun v => ?_) extracted
  exact (TagTable.under_put_of_ne (hother a ha) v t).mono fun _ hput => hput.trans ht

/-- **The value under a tag** is that of the last attribute with the tag. -/
theorem value_of_extractAll {earlier : List Attribute} {a : Attribute} (htag : a.tag = .text tag)
    {row : Row} {table : TagTable (Option String)}
    (hrun : extractAll (earlier ++ a :: attributes) row = .ok table) :
    ∃ v, a.extract row = .ok v ∧ table.under tag = some v := by
  simp only [extractAll_eq, List.foldlM_append, List.foldlM_cons, bind_eq_ok_iff] at hrun
  -- what the attribute puts under the tag is left there by those after it
  obtain ⟨before, -, after, hown, hlater⟩ := hrun
  obtain ⟨v, hv, hput⟩ := bind_eq_ok_iff.mp hown
  rw [htag, TagTable.put_text] at hput
  obtain rfl := Except.ok.inj hput
  exact ⟨v, hv, (under_extractAll hother hlater).trans (TagTable.under_upsert_self before tag v)⟩

/-- **The outcome under a tag** is that of the last attribute with the tag, if that one has a value to
check. -/
theorem check_of_verifyAll {earlier : List Attribute} {a : Attribute} (htag : a.tag = .text tag)
    (hverify : a.verify.truthy = true) {extracted : TagTable Datum} {table : TagTable Bool}
    (hrun : verifyAll (earlier ++ a :: attributes) extracted = .ok table) :
    table.under tag = some (((extracted.under tag).getD .null).same a.verify) := by
  simp only [verifyAll_eq, List.foldlM_append, List.foldlM_cons, bind_eq_ok_iff] at hrun
  obtain ⟨before, -, after, hown, hlater⟩ := hrun
  rw [verifyOne, htag, TagTable.find_text, ok_bind, if_pos hverify, TagTable.put_text] at hown
  obtain rfl := Except.ok.inj hown
  exact (under_verifyAll hother hlater).trans (TagTable.under_upsert_self before tag _)

end Attributes

end StatementTagging
