import StatementTagging.Proofs.Analysis
import StatementTagging.Proofs.Rule.Alike
import StatementTagging.Proofs.Tagging

set_option autoImplicit false

/-! # Rows in a frame

Rows that are put into a frame and taken out again are not the same rows: values that a row does not have
become null, and integers may become floating-point numbers because of what stands in other rows. Rules do
not notice as long as each such integer has a floating-point number with exactly its value. Then tagging
the frame says of each row what the analysis of the row says (`tagFrame_ofRows`).
-/

namespace StatementTagging

/-- The rows can be told from a frame of them: some row has a value, every number is one, no integer is
beyond the range of floating-point numbers, and an integer in a column of numbers that are not all integers
is exact. -/
structure Faithful (rows : List Row) : Prop where
  named : ∃ row ∈ rows, row ≠ []
  number : ∀ row ∈ rows, ∀ e ∈ row, ∀ x, e.2 = .float x → x.isNaN = false
  inRange : ∀ row ∈ rows, ∀ e ∈ row, ¬ e.2.TooLarge
  exact : ∀ name, MixedNumbers (rows.map (·.lookup name)) →
    ∀ row ∈ rows, ∀ n, row.lookup name = some (.int n) → IsExact n

/-- Rows whose integers have fewer than 54 bits. -/
theorem faithful_of_small {rows : List Row} (hnamed : ∃ row ∈ rows, row ≠ [])
    (hnumber : ∀ row ∈ rows, ∀ e ∈ row, ∀ x, e.2 = .float x → x.isNaN = false)
    (hsmall : ∀ row ∈ rows, ∀ e ∈ row, ∀ n, e.2 = .int n → n.natAbs < 2 ^ 53) : Faithful rows := by
  refine ⟨hnamed, hnumber, ?_, ?_⟩
  · rintro row hrow e he ⟨n, hn, hnone⟩
    obtain ⟨x, hx, -⟩ := isExact_of_natAbs_lt (hsmall row hrow e he n hn)
    rw [hx] at hnone
    cases hnone
  · intro name _ row hrow n hn
    obtain ⟨l, r, rfl, -⟩ := List.lookup_eq_some_iff.mp hn
    exact isExact_of_natAbs_lt
      (hsmall _ hrow (name, .int n) (List.mem_append_right _ List.mem_cons_self) n rfl)

/-! ## Rows of the frame -/

/-- A cell before its column gets a type. -/
theorem cellOf_lookup {row : Row} {name : String}
    (h : ∀ e ∈ row, ∀ x, e.2 = .float x → x.isNaN = false) :
    cellOf (row.lookup name) = Datum.valueAt row name := by
  rw [Datum.valueAt]
  cases hlookup : row.lookup name with
  | none => rfl
  | some d =>
      obtain ⟨l, r, rfl, -⟩ := List.lookup_eq_some_iff.mp hlookup
      have hnumber := h (name, d) (List.mem_append_right _ List.mem_cons_self)
      cases d with
      | float x =>
          show (if x.isNaN then Datum.null else .float x) = .float x
          rw [hnumber x rfl]
          rfl
      | _ => rfl

theorem eq_of_cellOf_eq_int {v : Option Datum} {n : Int} (h : cellOf v = .int n) : v = some (.int n) := by
  cases v with
  | none => cases h
  | some d =>
      rw [cellOf] at h
      split at h
      · cases h
      · rw [h]

/-- Only integers change in a column of numbers, and rules do not notice. -/
theorem alike_asFloat {d : Datum} (h : ∀ n, d = .int n → IsExact n) : d.Alike (asFloat d) := by
  cases d with
  | int n => exact alike_of_isExact (h n rfl)
  | _ => exact Datum.Alike.refl _

theorem length_rows_ofRows {rows : List Row} {f : Frame} (hnamed : ∃ row ∈ rows, row ≠ [])
    (hf : Frame.ofRows rows = .ok f) : f.rows.length = rows.length := by
  obtain ⟨row, hrow, hne⟩ := hnamed
  obtain ⟨e, r, rfl⟩ := List.exists_cons_of_ne_nil hne
  have hname : e.1 ∈ ((rows.flatten.map (·.1)).eraseDups) :=
    List.mem_eraseDups.mpr (List.mem_map_of_mem (List.mem_flatten.mpr ⟨_, hrow, List.mem_cons_self⟩))
  have hcolumns : f.columns ≠ [] := by
    intro hnil
    rcases Frame.column?_ofRecords hf e.1 with ⟨-, cells, -, hcells⟩ | ⟨hnot, -⟩
    · rw [Frame.column?, hnil] at hcells
      cases hcells
    · exact hnot hname
  rw [Frame.length_rows hcolumns, Frame.height_ofRecords hf]

/-- **Rules do not tell the rows of the frame from the rows it was made of.** -/
theorem rowsAlike_ofRows {rows : List Row} (h : Faithful rows) {f : Frame} (hf : Frame.ofRows rows = .ok f)
    {i : Nat} (hi : i < rows.length) (hi' : i < f.rows.length) : RowsAlike rows[i] f.rows[i] := by
  intro name
  have hrow : rows[i] ∈ rows := List.getElem_mem hi
  rw [Frame.valueAt_row hi', Frame.cell?]
  rcases Frame.column?_ofRecords hf name with ⟨-, cells, htyped, hcells⟩ | ⟨hnot, hnone⟩
  · rw [hcells, Option.bind_some, ← cellOf_lookup (h.number _ hrow)]
    rcases typedColumn_spec htyped with rfl | ⟨hmixed, rfl⟩
    · have hcell : ((rows.map (·.lookup name)).map cellOf)[i]?.getD .null
          = cellOf (rows[i].lookup name) := by
        simp [hi]
      rw [hcell]
      exact Datum.Alike.refl _
    · have hcell : ((rows.map (·.lookup name)).map fun v => asFloat (cellOf v))[i]?.getD .null
          = asFloat (cellOf (rows[i].lookup name)) := by
        simp [hi]
      rw [hcell]
      exact alike_asFloat fun n hn => h.exact name hmixed _ hrow n (eq_of_cellOf_eq_int hn)
  · -- no row has a value under the name
    have hlookup : rows[i].lookup name = none := by
      rw [List.lookup_eq_none_iff]
      intro e he
      rw [bne_iff_ne]
      rintro rfl
      exact hnot (List.mem_eraseDups.mpr
        (List.mem_map_of_mem (List.mem_flatten.mpr ⟨_, hrow, he⟩)))
    rw [hnone, Datum.valueAt, hlookup]
    exact Datum.Alike.refl _

theorem analyzeRows_ofRows {rows : List Row} (h : Faithful rows) {f : Frame}
    (hf : Frame.ofRows rows = .ok f) (libraries : List Library) (today : String) :
    analyzeRows libraries today f.rows = analyzeRows libraries today rows := by
  have hlength := length_rows_ofRows h.named hf
  refine (analyzeRows_of_alikeOn (List.forall₂_iff_get.mpr ⟨hlength.symm, fun i hi hi' => ?_⟩) today).symm
  exact fun key _ => rowsAlike_ofRows h hf hi hi' key

/-! ## Tagging -/

/-- What a tagged frame says of one row. -/
structure SaysOfRow (out : Frame) (i : Nat) (a : Analysis) : Prop where
  tags : ∃ tags, joinTags a.tags = .ok tags ∧ out.cell? "Tags" i = some (.text tags)
  count : out.cell? "Tag_Count" i = some (.int a.tags.length)
  ids : out.cell? "Matched_Definition_Ids" i
    = some (.text (String.intercalate "|" (a.matched.map (·.id.display))))

theorem Tagged.saysOfRow {f out : Frame} {analyses : List Analysis} {columns : List String}
    (h : Tagged f out analyses columns) {i : Nat} (hi : i < analyses.length) :
    SaysOfRow out i analyses[i] := by
  obtain ⟨tags, htags, hcolumn⟩ := h.tags
  have hjoined := mapM_eq_ok_iff.mp htags
  have hi' : i < tags.length := hjoined.length_eq ▸ hi
  refine ⟨⟨tags[i], hjoined.get hi hi', ?_⟩, ?_, ?_⟩
  · rw [Frame.cell?, hcolumn, Option.bind_some, List.getElem?_map, List.getElem?_eq_getElem hi']
    rfl
  · rw [Frame.cell?, h.counts, Option.bind_some, List.getElem?_map, List.getElem?_eq_getElem hi]
    rfl
  · rw [Frame.cell?, h.ids, Option.bind_some, List.getElem?_map, List.getElem?_eq_getElem hi]
    rfl

/-- **Tagging a frame agrees with analysing its rows.** For rows that can be told from a frame of them, the
analyses of the rows of the frame are those of the given rows, faults included; whenever the frame is
tagged, it says of each row what its analysis says; and it is tagged if the rows can be analysed, unless a
certainty or a number of tags cannot stand in a column. -/
theorem tagFrame_ofRows {rows : List Row} (h : Faithful rows) {libraries : List Library}
    (htags : ∀ l ∈ libraries, ∀ d ∈ l.definitions, d.tag.IsText) (today : String) :
    ∃ f, Frame.ofRows rows = .ok f
      ∧ analyzeRows libraries today f.rows = analyzeRows libraries today rows
      ∧ (∀ out, tagFrame f libraries today = .ok out → ∀ i (hi : i < rows.length),
          ∃ a, analyzeRow libraries today rows[i] = .ok a ∧ SaysOfRow out i a)
      ∧ ∀ analyses, analyzeRows libraries today rows = .ok analyses →
          (∀ a ∈ analyses, ¬ (Datum.int a.tags.length).TooLarge) →
          (∀ a ∈ analyses, ∀ d ∈ a.matched, CertaintyFits d.certainty) →
          ∃ out, tagFrame f libraries today = .ok out := by
  obtain ⟨f, hf⟩ := Frame.ofRecords_isOk ((rows.flatten.map (·.1)).eraseDups) h.inRange
  have hrows := analyzeRows_ofRows h hf libraries today
  refine ⟨f, hf, hrows, ?_, ?_⟩
  · intro out hout i hi
    obtain ⟨analyses, hanalyses, htagged⟩ := tagged_of_tagFrame hout
    have heach := mapM_eq_ok_iff.mp (hrows.symm.trans hanalyses)
    have hi' : i < analyses.length := heach.length_eq ▸ hi
    exact ⟨analyses[i], heach.get hi hi', htagged.saysOfRow hi'⟩
  · intro analyses hanalyses hcounts hcertainties
    have heach := mapM_eq_ok_iff.mp hanalyses
    refine tagFrame_isOk (hrows.trans hanalyses) ?_ (fun a ha => ?_) hcounts hcertainties
    · rw [← heach.length_eq, Frame.height_ofRecords hf]
    · obtain ⟨row, -, hrow⟩ : ∃ row ∈ rows, analyzeRow libraries today row = .ok a := by
        obtain ⟨i, hi, rfl⟩ := List.mem_iff_getElem.mp ha
        exact ⟨_, List.getElem_mem (heach.length_eq ▸ hi), heach.get (heach.length_eq ▸ hi) hi⟩
      obtain ⟨hsame, hmatched⟩ := tags_of_analyzeRow hrow
      refine joinTags_isOk fun t ht => ?_
      rw [hsame] at ht
      obtain ⟨d, hd, rfl⟩ := List.mem_map.mp ht
      obtain ⟨l, hl, hmem⟩ := hmatched d hd
      exact htags l hl d hmem

/-- The number 5 becomes 5.0, beside a number with a fraction and a row without the field. -/
theorem tagFrame_ofRows_mixed :
    let rows : List Row := [[("Amount", .int 5)], [("Amount", .float 0.5)], [("Details", .text "FEE")]]
    let libraries : List Library :=
      [{ context := [⟨"Amount", "5"⟩], definitions := [{ id := .text "1", tag := .text "Five" }] }]
    Faithful rows ∧ (∀ l ∈ libraries, ∀ d ∈ l.definitions, d.tag.IsText)
      ∧ ∃ f, Frame.ofRows rows = .ok f
        ∧ analyzeRows libraries "2024-06-01" f.rows = analyzeRows libraries "2024-06-01" rows := by
  intro rows libraries
  have hrows : Faithful rows := by
    refine faithful_of_small ⟨_, List.mem_cons_self, List.cons_ne_nil _ _⟩ ?_ ?_
    · simp only [rows, List.forall_mem_cons]
      have hhalf : ∀ x, Datum.float 0.5 = .float x → x.isNaN = false := by
        rintro x ⟨⟩
        decide +kernel
      simpa using hhalf
    · simp only [rows, List.forall_mem_cons]
      simp
  have htags : ∀ l ∈ libraries, ∀ d ∈ l.definitions, d.tag.IsText :=
    List.forall_mem_singleton.mpr (List.forall_mem_singleton.mpr ⟨_, rfl⟩)
  obtain ⟨f, hf, hanalyses, -⟩ := tagFrame_ofRows hrows htags "2024-06-01"
  exact ⟨hrows, htags, f, hf, hanalyses⟩

/-- An integer that no floating-point number equals loses its last digit beside a null, and its tag with
it. -/
theorem large_integer_loses_tag :
    let rows : List Row := [[("Account", .int 9007199254740993)], [("Account", .null)]]
    let libraries : List Library :=
      [{ context := [⟨"Account", "9007199254740993"⟩]
         definitions := [{ id := .text "1", tag := .text "Own" }] }]
    ((do tagFrame (← Frame.ofRows rows) libraries "2024-06-01" : Except Fault Frame).toOption.bind
        fun out => (out.cell? "Tags" 0).bind Datum.text?) = some ""
      ∧ (analyzeRow libraries "2024-06-01" rows[0]).toOption.map (fun a => a.tags.map Datum.display)
        = some ["Own"] := by
  decide +kernel

end StatementTagging
