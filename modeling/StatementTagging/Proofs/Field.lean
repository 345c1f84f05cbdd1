import Mathlib.Data.List.Permutation
import Mathlib.Data.String.Basic
import StatementTagging.Field
import StatementTagging.Proofs.Datum

set_option autoImplicit false

/-! # Metadata of rows

What is known of the fields of rows depends on two things only: which names there are, and which of them are
compound somewhere (`FieldMeta.ofRows_congr`). Names are sorted and listed once, so neither the order of the
rows nor how often a name occurs can be seen. The fields that are shown are all but a few of them
(`mem_dataFields_iff`), the preferred ones first (`ofRows_describes`).
-/

namespace StatementTagging

/-! ## Names in order -/

theorem mem_sortedNames_iff (names : List String) (n : String) : n ∈ sortedNames names ↔ n ∈ names := by
  rw [sortedNames, List.mem_mergeSort, List.mem_eraseDups]

theorem nodup_sortedNames (names : List String) : (sortedNames names).Nodup :=
  (List.mergeSort_perm _ _).nodup_iff.mpr (nodup_eraseDups names)

theorem pairwise_sortedNames (names : List String) : (sortedNames names).Pairwise (· ≤ ·) := by
  have hsorted := @List.pairwise_mergeSort String (fun a b => decide (a ≤ b)) ?_ ?_ names.eraseDups
  · exact hsorted.imp fun h => of_decide_eq_true h
  · intro a b c hab hbc
    exact decide_eq_true (le_trans (of_decide_eq_true hab) (of_decide_eq_true hbc))
  · intro a b
    rw [Bool.or_eq_true, decide_eq_true_eq, decide_eq_true_eq]
    exact le_total a b

/-- **Sorted names** are determined by which names there are. -/
theorem sortedNames_congr {names names' : List String} (h : ∀ n, n ∈ names ↔ n ∈ names') :
    sortedNames names = sortedNames names' := by
  have hperm : (sortedNames names).Perm (sortedNames names') := by
    refine (List.perm_ext_iff_of_nodup (nodup_sortedNames names) (nodup_sortedNames names')).mpr ?_
    intro n
    rw [mem_sortedNames_iff, mem_sortedNames_iff, h]
  exact hperm.eq_of_pairwise (fun _ _ _ _ => le_antisymm) (pairwise_sortedNames _) (pairwise_sortedNames _)

/-! ## Metadata -/

theorem contains_congr {names names' : List String} (h : ∀ n, n ∈ names ↔ n ∈ names') :
    names.contains = names'.contains := by
  funext n
  rw [Bool.eq_iff_iff, List.contains_iff_mem, List.contains_iff_mem, h]

/-- **The metadata of rows** is determined by the names of the fields and by those that are compound. -/
theorem FieldMeta.ofRows_congr {rows rows' : List Row}
    (hnames : ∀ n, n ∈ fieldNames rows ↔ n ∈ fieldNames rows')
    (hcompound : ∀ n, n ∈ compoundNames rows ↔ n ∈ compoundNames rows') :
    FieldMeta.ofRows rows = FieldMeta.ofRows rows' := by
  have hidentifier : (fieldNames rows).contains = (fieldNames rows').contains := contains_congr hnames
  have hshown : ∀ identifier, sortedNames ((fieldNames rows).filter fun n =>
        !skippedFields.contains n && !(compoundNames rows).contains n && n != identifier)
      = sortedNames ((fieldNames rows').filter fun n =>
        !skippedFields.contains n && !(compoundNames rows').contains n && n != identifier) := by
    intro identifier
    refine sortedNames_congr fun n => ?_
    rw [List.mem_filter, List.mem_filter, hnames, contains_congr hcompound]
  simp only [FieldMeta.ofRows, hidentifier, hshown]

/-- The order of the rows does not matter. -/
theorem FieldMeta.ofRows_perm {rows rows' : List Row} (h : rows.Perm rows') :
    FieldMeta.ofRows rows = FieldMeta.ofRows rows' := by
  have hentries : (allEntries rows).Perm (allEntries rows') := h.flatten
  refine FieldMeta.ofRows_congr (fun n => (hentries.map _).mem_iff) fun n => ?_
  exact ((hentries.filter _).map _).mem_iff

/-- **The fields that are shown** are all of them but the skipped ones, those that are compound somewhere and
the one that identifies rows. -/
theorem mem_dataFields_iff (rows : List Row) (n : String) :
    n ∈ (FieldMeta.ofRows rows).dataFields
      ↔ n ∈ fieldNames rows ∧ n ∉ skippedFields ∧ n ∉ compoundNames rows
        ∧ n ≠ (FieldMeta.ofRows rows).identifier := by
  -- some are moved to the front, but none is lost
  have hmoved : ∀ shown : List String, n ∈ priorityFields.filter shown.contains
      ++ shown.filter (fun n => !priorityFields.contains n) ↔ n ∈ shown := by
    intro shown
    rw [List.mem_append, List.mem_filter, List.mem_filter, List.contains_iff_mem, Bool.not_eq_true',
      ← Bool.not_eq_true, List.contains_iff_mem]
    tauto
  rw [FieldMeta.ofRows, hmoved, mem_sortedNames_iff, List.mem_filter]
  simp [and_assoc]

/-- The field that identifies rows is a candidate that is there, or the preferred one if none is. -/
theorem identifier_cases (rows : List Row) :
    ((FieldMeta.ofRows rows).identifier ∈ identifierCandidates
        ∧ (FieldMeta.ofRows rows).identifier ∈ fieldNames rows)
      ∨ (FieldMeta.ofRows rows).identifier = "_id" ∧ ∀ c ∈ identifierCandidates, c ∉ fieldNames rows := by
  rw [FieldMeta.ofRows]
  cases hfound : identifierCandidates.find? (fieldNames rows).contains with
  | some c =>
      exact Or.inl ⟨List.mem_of_find?_eq_some hfound, List.contains_iff_mem.mp (List.find?_some hfound)⟩
  | none =>
      refine Or.inr ⟨rfl, fun c hc hmem => ?_⟩
      exact List.find?_eq_none.mp hfound c hc (List.contains_iff_mem.mpr hmem)

/-! ## What the metadata says -/

/-- A field is named in a row. -/
def HasField (row : Row) (n : String) : Prop := ∃ d, (n, d) ∈ row

/-- A field holds a compound value in a row. -/
def HasCompound (row : Row) (n : String) : Prop := ∃ d, (n, d) ∈ row ∧ d.isCompound = true

theorem mem_fieldNames_iff (rows : List Row) (n : String) :
    n ∈ fieldNames rows ↔ ∃ row ∈ rows, HasField row n := by
  simp only [fieldNames, allEntries, HasField, List.mem_map, List.mem_flatten, Prod.exists,
    exists_and_right, exists_eq_right]
  constructor
  · rintro ⟨d, row, hrow, hd⟩
    exact ⟨row, hrow, d, hd⟩
  · rintro ⟨row, hrow, d, hd⟩
    exact ⟨d, row, hrow, hd⟩

theorem mem_compoundNames_iff (rows : List Row) (n : String) :
    n ∈ compoundNames rows ↔ ∃ row ∈ rows, HasCompound row n := by
  simp only [compoundNames, allEntries, HasCompound, List.mem_map, List.mem_filter, List.mem_flatten,
    Prod.exists, exists_and_right, exists_eq_right]
  constructor
  · rintro ⟨d, ⟨row, hrow, hd⟩, hcompound⟩
    exact ⟨row, hrow, d, hd, hcompound⟩
  · rintro ⟨row, hrow, d, hd, hcompound⟩
    exact ⟨d, ⟨row, hrow, hd⟩, hcompound⟩

/-- The same rows in another order, each with its entries in another order. -/
def Rearranged (rows rows' : List Row) : Prop := ∃ moved, rows.Perm moved ∧ List.Forall₂ List.Perm moved rows'

/-- Neither the order of the rows nor that of their entries matters. -/
theorem FieldMeta.ofRows_rearranged {rows rows' : List Row} (h : Rearranged rows rows') :
    FieldMeta.ofRows rows' = FieldMeta.ofRows rows := by
  obtain ⟨moved, hmoved, hentries⟩ := h
  have hall : (allEntries moved).Perm (allEntries rows') := List.Perm.flatten_congr hentries
  rw [FieldMeta.ofRows_perm hmoved]
  refine (FieldMeta.ofRows_congr (fun n => (hall.map _).mem_iff) fun n => ?_).symm
  exact ((hall.filter _).map _).mem_iff

/-- What the shown fields of rows are to be: each of them once, all but the skipped ones, those that are
compound in some row and the one that identifies rows; those with priority in front, in the order of the
priorities, and the others in the order of their characters' codes. -/
structure FieldMeta.Describes (m : FieldMeta) (rows : List Row) : Prop where
  nodup : m.dataFields.Nodup
  complete : ∀ n, n ∈ m.dataFields ↔ (∃ row ∈ rows, HasField row n) ∧ n ∉ skippedFields
    ∧ (∀ row ∈ rows, ¬ HasCompound row n) ∧ n ≠ m.identifier
  ordered : ∃ front rest, m.dataFields = front ++ rest ∧ front.Sublist priorityFields
    ∧ (∀ n ∈ rest, n ∉ priorityFields) ∧ rest.Pairwise (· < ·)

/-- The shown fields are sorted names, with the priorities among them moved to the front. -/
theorem exists_dataFields_eq (rows : List Row) : ∃ names,
    (FieldMeta.ofRows rows).dataFields = priorityFields.filter (sortedNames names).contains
      ++ (sortedNames names).filter fun n => !priorityFields.contains n :=
  ⟨_, rfl⟩

theorem lt_sortedNames (names : List String) : (sortedNames names).Pairwise (· < ·) :=
  (pairwise_sortedNames names).imp₂ (fun _ _ hle hne => lt_of_le_of_ne hle hne) (nodup_sortedNames names)

theorem not_mem_priorityFields {names : List String} {n : String}
    (h : n ∈ names.filter fun n => !priorityFields.contains n) : n ∉ priorityFields := by
  intro hpriority
  have hother := (List.mem_filter.mp h).2
  rw [List.contains_iff_mem.mpr hpriority] at hother
  exact absurd hother (by decide)

theorem nodup_dataFields (rows : List Row) : (FieldMeta.ofRows rows).dataFields.Nodup := by
  obtain ⟨names, heq⟩ := exists_dataFields_eq rows
  rw [heq, List.nodup_append']
  refine ⟨List.Nodup.filter _ (by decide), (nodup_sortedNames names).filter _, ?_⟩
  intro n hfront hrest
  exact not_mem_priorityFields hrest (List.mem_of_mem_filter hfront)

/-- **The metadata of rows** describes them, whatever the order of the rows and of their entries. -/
theorem ofRows_describes (rows : List Row) :
    (FieldMeta.ofRows rows).Describes rows
      ∧ ∀ rows', Rearranged rows rows' → FieldMeta.ofRows rows' = FieldMeta.ofRows rows := by
  refine ⟨⟨nodup_dataFields rows, fun n => ?_, ?_⟩, fun rows' => FieldMeta.ofRows_rearranged⟩
  · rw [mem_dataFields_iff, mem_fieldNames_iff, mem_compoundNames_iff]
    simp only [not_exists, not_and]
  · obtain ⟨names, heq⟩ := exists_dataFields_eq rows
    refine ⟨_, _, heq, List.filter_sublist, ?_, (lt_sortedNames names).filter _⟩
    intro n hn
    exact not_mem_priorityFields hn

/-- Two rows and their entries turned round. One field is compound in the second row only, one is skipped,
one identifies rows, and one has priority over a name that comes before its own. -/
theorem ofRows_describes_reversed :
    let first : Row := [("Note", .text "x"), ("Name", .text "N"), ("Area", .null)]
    let second : Row := [("IBAN", .text "y"), ("Note", .list []), ("Hash", .int 1)]
    let turned := [second.reverse, first.reverse]
    Rearranged [first, second] turned
      ∧ FieldMeta.ofRows [first, second] = ⟨"Name", ["IBAN", "Area"]⟩
      ∧ FieldMeta.ofRows turned = FieldMeta.ofRows [first, second] := by
  intro first second turned
  have hturned : Rearranged [first, second] turned := by
    refine ⟨[second, first], List.Perm.swap second first [], ?_⟩
    exact .cons second.reverse_perm.symm (.cons first.reverse_perm.symm .nil)
  exact ⟨hturned, by cbv, (ofRows_describes [first, second]).2 turned hturned⟩

end StatementTagging
