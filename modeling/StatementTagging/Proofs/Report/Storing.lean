import Mathlib.Data.List.TakeWhile
import StatementTagging.Proofs.Report.Order
import StatementTagging.Table.CsvReader
import StatementTagging.Table.CsvWriter

set_option autoImplicit false

/-! # Reports on stored frames

A frame that is written and read again holds texts: each cell has become the text that was written for it,
and an empty text is null (`cell_cellText`). The reports do not see this (`reports_stored`): all of them look
at a cell through its text, and where it is missing they do what they do for the empty text
(`read_stored`). Which fields are known depends on names and on compound cells, of which there are none
before and after.
-/

namespace StatementTagging

/-! ## Stored cells -/

/-- A cell after writing and reading. -/
def Datum.stored (d : Datum) : Datum :=
  if d.isMissing ∨ d.display = "" then .null else .text d.display

/-- **What is read of a cell that was written**, unless its text holds the character of code zero. -/
theorem cell_cellText {d : Datum} (h : '\x00' ∉ d.display.toList) :
    Csv.cell (Csv.cellText d).toList = d.stored := by
  have hall : ∀ c ∈ d.display.toList, (c != '\x00') = true := fun c hc =>
    bne_iff_ne.mpr fun hzero => h (hzero ▸ hc)
  by_cases hmissing : d.isMissing = true
  · rw [Csv.cellText, if_pos hmissing, Datum.stored, if_pos (Or.inl hmissing)]
    rfl
  · rw [Csv.cellText, if_neg hmissing, Csv.cell, List.takeWhile_eq_self_iff.mpr hall]
    by_cases hempty : d.display = ""
    · rw [Datum.stored, if_pos (Or.inr hempty), hempty]
      rfl
    · have hne : ¬ d.display.toList.isEmpty = true := by
        rw [List.isEmpty_iff, String.toList_eq_nil_iff]
        exact hempty
      rw [Datum.stored, if_neg (not_or.mpr ⟨hmissing, hempty⟩), if_neg hne, String.ofList_toList]

theorem isCompound_stored (d : Datum) : d.stored.isCompound = false := by
  rw [Datum.stored]
  split <;> rfl

/-! ## Reading stored cells -/

theorem cellMissing_of_scalar {d : Datum} (h : d.isCompound = false) : cellMissing d = .ok d.isMissing := by
  cases d with
  | list items => cases h
  | _ => rfl

/-- The computation looks at the text of a cell, and treats a missing one like the empty text. -/
def ReadsText {α : Type} (read : Datum → Except Fault α) : Prop :=
  ∃ value : String → α, ∀ d, d.isCompound = false →
    read d = .ok (if d.isMissing then value "" else value d.display)

/-- **A stored cell is read like the cell itself.** -/
theorem read_stored {α : Type} {read : Datum → Except Fault α} (hread : ReadsText read) {d : Datum}
    (h : d.isCompound = false) : read d.stored = read d := by
  obtain ⟨value, hvalue⟩ := hread
  rw [hvalue _ (isCompound_stored d), hvalue d h]
  by_cases hmissing : d.isMissing = true
  · rw [Datum.stored, if_pos (Or.inl hmissing), if_pos hmissing]
    rfl
  · by_cases hempty : d.display = ""
    · rw [Datum.stored, if_pos (Or.inr hempty), if_neg hmissing, hempty]
      rfl
    · rw [Datum.stored, if_neg (not_or.mpr ⟨hmissing, hempty⟩), if_neg hmissing]
      rfl

/-- A computation that gives a default for missing cells, which is its value for the empty text. -/
theorem readsText_of_missing {α : Type} {read : Datum → Bool → Except Fault α} (value : String → α)
    (hmissing : ∀ d, read d true = .ok (value "")) (hpresent : ∀ d, read d false = .ok (value d.display)) :
    ReadsText fun d => cellMissing d >>= read d := by
  refine ⟨value, fun d h => ?_⟩
  show cellMissing d >>= read d = _
  rw [cellMissing_of_scalar h, ok_bind]
  cases d.isMissing with
  | true => exact hmissing d
  | false => exact hpresent d

theorem readsText_splitTags : ReadsText splitTags :=
  readsText_of_missing (fun s => tagsOfText s.toList) (fun _ => rfl) fun _ => rfl

theorem readsText_normalizeDescription : ReadsText normalizeDescription :=
  readsText_of_missing (fun s => String.ofList (normalizeText s.toList)) (fun _ => rfl) fun _ => rfl

theorem readsText_isBlankCell : ReadsText ExtractionReport.isBlankCell :=
  readsText_of_missing (fun s => (Text.strip s.toList).isEmpty) (fun _ => rfl) fun _ => rfl

/-- The text says that a check failed. -/
def isFailureText (s : String) : Bool :=
  if (Text.strip s.toList).isEmpty then false
  else ExtractionReport.failureTexts.contains ((Text.strip s.toList).map Text.lowerChar)

theorem readsText_isFailedCell : ReadsText ExtractionReport.isFailedCell := by
  refine ⟨isFailureText, fun d h => ?_⟩
  have hblank : ExtractionReport.isBlankCell d
      = .ok (if d.isMissing then true else (Text.strip d.display.toList).isEmpty) := by
    rw [ExtractionReport.isBlankCell, cellMissing_of_scalar h, ok_bind]
    cases d.isMissing <;> rfl
  rw [ExtractionReport.isFailedCell, hblank, ok_bind]
  cases d.isMissing with
  | true => rfl
  | false =>
      show (if (Text.strip d.display.toList).isEmpty then pure false else pure _)
        = Except.ok (isFailureText d.display)
      rw [isFailureText]
      split <;> rfl

/-! ## Stored frames -/

namespace Frame

variable {f : Frame}

/-- The frame with every cell replaced. -/
def mapCells (change : Datum → Datum) (f : Frame) : Frame :=
  { f with columns := f.columns.map fun (name, cells) => (name, cells.map change) }

/-- The frame after writing and reading. -/
def stored (f : Frame) : Frame := f.mapCells Datum.stored

/-- No cell is a list or a record. -/
def IsScalar (f : Frame) : Prop := ∀ column ∈ f.columns, ∀ d ∈ column.2, d.isCompound = false

instance : DecidablePred IsScalar := fun f =>
  inferInstanceAs (Decidable (∀ column ∈ f.columns, ∀ d ∈ column.2, d.isCompound = false))

theorem column?_mapCells (change : Datum → Datum) (f : Frame) (name : String) :
    (f.mapCells change).column? name = (f.column? name).map (List.map change) :=
  lookup_map_snd (List.map change) f.columns name

theorem kept_map_cells (change : Datum → Datum) (marks : List Bool) (cells : List Datum) :
    kept marks (cells.map change) = (kept marks cells).map change := by
  rw [kept, kept, List.zip_map_left, List.filter_map, List.map_map, List.map_map]
  rfl

/-- Rows are kept before or after cells are replaced. -/
theorem keep_mapCells (change : Datum → Datum) (marks : List Bool) (f : Frame) :
    (f.mapCells change).keep marks = (f.keep marks).mapCells change := by
  have hcolumns : ((f.mapCells change).keep marks).columns = ((f.keep marks).mapCells change).columns := by
    show (f.columns.map _).map _ = (f.columns.map _).map _
    rw [List.map_map, List.map_map]
    exact List.map_congr_left fun column _ => Prod.ext rfl (kept_map_cells change marks column.2)
  exact congrArg (Frame.mk _) hcolumns

theorem IsScalar.keep (h : f.IsScalar) (marks : List Bool) : (f.keep marks).IsScalar := by
  intro column hcolumn d hd
  obtain ⟨whole, hwhole, rfl⟩ := List.mem_map.mp hcolumn
  exact h whole hwhole d (mem_of_mem_kept hd)

theorem IsScalar.of_column? (h : f.IsScalar) {name : String} {cells : List Datum}
    (hcells : f.column? name = some cells) : ∀ d ∈ cells, d.isCompound = false := by
  obtain ⟨l, r, hsplit, -⟩ := List.lookup_eq_some_iff.mp hcells
  refine h (name, cells) ?_
  rw [hsplit]
  exact List.mem_append_right l List.mem_cons_self

theorem isScalar_stored (f : Frame) : f.stored.IsScalar := by
  intro column hcolumn d hd
  obtain ⟨whole, -, rfl⟩ := List.mem_map.mp hcolumn
  obtain ⟨d, -, rfl⟩ := List.mem_map.mp hd
  exact isCompound_stored d

/-- A column of a stored frame is read like the column itself. -/
theorem mapM_stored {α : Type} {read : Datum → Except Fault α} (hread : ReadsText read) (h : f.IsScalar)
    {name : String} {cells : List Datum} (hcells : f.column? name = some cells) :
    (cells.map Datum.stored).mapM read = cells.mapM read := by
  rw [List.mapM_map]
  exact mapM_congr fun d hd => read_stored hread (h.of_column? hcells d hd)

theorem fieldNames_rows (f : Frame) :
    fieldNames f.rows = if f.columns = [] then [] else ((List.range f.height).map fun _ => f.names).flatten := by
  rw [fieldNames, allEntries]
  by_cases hcolumns : f.columns = []
  · rw [if_pos hcolumns, rows, if_pos (by simpa using hcolumns)]
    rfl
  · rw [if_neg hcolumns, rows, if_neg (by simpa using hcolumns), rowsFrom_eq, List.map_flatten, List.map_map]
    congr 1
    refine List.map_congr_left fun i _ => ?_
    rw [names, Function.comp_apply, List.map_map]
    rfl

/-- Changing cells changes no names. -/
theorem fieldNames_mapCells (change : Datum → Datum) (f : Frame) :
    fieldNames (f.mapCells change).rows = fieldNames f.rows := by
  have hnames : (f.mapCells change).names = f.names := by
    rw [names, mapCells, List.map_map]
    rfl
  have hcolumns : (f.mapCells change).columns = [] ↔ f.columns = [] := List.map_eq_nil_iff
  have hheight : (f.mapCells change).height = f.height := rfl
  simp only [fieldNames_rows, hnames, hcolumns, hheight]

/-- Without compound cells no field is compound. -/
theorem compoundNames_rows (h : f.IsScalar) : compoundNames f.rows = [] := by
  have hentry : ∀ row ∈ f.rows, ∀ e ∈ row, e.2.isCompound = false := by
    intro row hrow e he
    rw [rows] at hrow
    split at hrow
    · exact absurd hrow List.not_mem_nil
    · rw [rowsFrom_eq] at hrow
      obtain ⟨i, -, rfl⟩ := List.mem_map.mp hrow
      obtain ⟨column, hcolumn, rfl⟩ := List.mem_map.mp he
      show (column.2.getD i .null).isCompound = false
      rw [List.getD_eq_getElem?_getD]
      cases hi : column.2[i]? with
      | none => rfl
      | some d => exact h column hcolumn d (List.mem_of_getElem? hi)
  rw [compoundNames, List.map_eq_nil_iff, List.filter_eq_nil_iff]
  intro e he
  obtain ⟨row, hrow, hmem⟩ := List.mem_flatten.mp he
  rw [hentry row hrow e hmem]
  exact Bool.false_ne_true

end Frame

/-! ## Reports -/

variable {f : Frame} (h : f.IsScalar)

include h

theorem rowTags_stored : rowTags f.stored = rowTags f := by
  have hcolumn : f.stored.column? "Tags" = (f.column? "Tags").map (·.map Datum.stored) :=
    Frame.column?_mapCells _ f _
  cases hcells : f.column? "Tags" with
  | none =>
      rw [hcells] at hcolumn
      rw [rowTags_of_none hcells, rowTags_of_none hcolumn]
  | some cells =>
      rw [hcells] at hcolumn
      rw [rowTags_of_some hcells, rowTags_of_some hcolumn]
      exact Frame.mapM_stored readsText_splitTags h hcells

theorem Coverage.report_stored : Coverage.report f.stored = Coverage.report f := by
  have hlines : Coverage.lines f.stored = Coverage.lines f := by
    rw [Coverage.lines, Coverage.lines, rowTags_stored h]
    rfl
  rw [Coverage.report, Coverage.report, hlines]

theorem Untagged.topDescriptions_stored (field : String) :
    Untagged.topDescriptions f.stored field = Untagged.topDescriptions f field := by
  rw [Untagged.topDescriptions, Untagged.topDescriptions, Frame.stored, Frame.column?_mapCells]
  cases hcells : f.column? field with
  | none => rfl
  | some cells =>
      dsimp only [Option.map_some]
      rw [Frame.mapM_stored readsText_normalizeDescription h hcells]

theorem Untagged.report_stored (field : String) :
    Untagged.report f.stored field = Untagged.report f field := by
  have hsummary : Untagged.summarize f.stored field = Untagged.summarize f field := by
    rw [Untagged.summarize, Untagged.summarize, rowTags_stored h]
    refine bind_congr fun tags => ?_
    -- the rows are chosen by their tags, before or after storing
    have hkeep : f.stored.keep (tags.map (·.isEmpty)) = (f.keep (tags.map (·.isEmpty))).stored :=
      Frame.keep_mapCells _ _ f
    dsimp only
    rw [hkeep, Untagged.topDescriptions_stored (h.keep _)]
    rfl
  rw [Untagged.report, Untagged.report, hsummary]

theorem ExtractionReport.countCells_stored (column : String) {test : Datum → Except Fault Bool}
    (htest : ReadsText test) : countCells f.stored column test = countCells f column test := by
  rw [countCells, countCells, Frame.stored, Frame.column?_mapCells]
  cases hcells : f.column? column with
  | none => rfl
  | some cells =>
      dsimp only [Option.map_some]
      rw [Frame.mapM_stored htest h hcells]

theorem ExtractionReport.report_stored (libraries : List Library) :
    report f.stored libraries = report f libraries := by
  have hline : ∀ tag a, line f.stored (rowTags f.stored) tag a = line f (rowTags f) tag a := by
    intro tag a
    rw [rowTags_stored h]
    cases rowTags f with
    | error fault => rfl
    | ok tags =>
        have hkeep : f.stored.keep (tags.map (carries tag)) = (f.keep (tags.map (carries tag))).stored :=
          Frame.keep_mapCells _ _ f
        refine line_congr rfl (fun column => ?_) fun column => ?_
        · rw [hkeep, countCells_stored (h.keep _) column readsText_isBlankCell]
        · rw [hkeep, countCells_stored (h.keep _) column readsText_isFailedCell]
  rw [report, report, linesFrom_congr hline]

theorem Catalog.report_stored (libraries : List Library) :
    Catalog.report f.stored libraries = Catalog.report f libraries := by
  have hfields : FieldMeta.ofRows f.stored.rows = FieldMeta.ofRows f.rows := by
    refine FieldMeta.ofRows_congr (fun n => ?_) fun n => ?_
    · rw [Frame.stored, Frame.fieldNames_mapCells]
    · rw [Frame.compoundNames_rows h, Frame.compoundNames_rows f.isScalar_stored]
  refine Catalog.report_congr ?_ libraries
  simp only [Catalog.knownFields, hfields]

/-- **Reports read the same from memory and from texts.** -/
theorem reports_stored (libraries : List Library) (field : String) :
    Coverage.report f.stored = Coverage.report f
    ∧ Untagged.report f.stored field = Untagged.report f field
    ∧ ExtractionReport.report f.stored libraries = ExtractionReport.report f libraries
    ∧ Catalog.report f.stored libraries = Catalog.report f libraries :=
  ⟨Coverage.report_stored h, Untagged.report_stored h field, ExtractionReport.report_stored h libraries,
    Catalog.report_stored h libraries⟩

omit h in
/-- Numbers, truth values and texts in one frame, some of them missing or empty. -/
theorem reports_stored_mixed :
    let f : Frame := ⟨3, [("Tags", [.text "A", .text "", .null]), ("Details", [.int 12, .bool true, .text ""]),
      ("Attr__A__Code", [.int 0, .null, .text " "]), ("Verified__A__Code", [.bool false, .null, .bool true])]⟩
    let libraries : List Library :=
      [{ definitions := [{ id := .text "1", tag := .text "A"
                           attributes := [{ tag := .text "Code", mandatory := .bool true
                                            expression := { field := .text "Details"
                                                            pattern := .text "([0-9]+)" } }] }] }]
    f.IsScalar ∧ (f.stored.column? "Verified__A__Code").map (·.map Datum.display)
        = some ["False", "None", "True"]
    ∧ Coverage.report f.stored = Coverage.report f
    ∧ Untagged.report f.stored "Details" = Untagged.report f "Details"
    ∧ ExtractionReport.report f.stored libraries = ExtractionReport.report f libraries
    ∧ Catalog.report f.stored libraries = Catalog.report f libraries := by
  intro f libraries
  have hf : f.IsScalar := by decide
  exact ⟨hf, by decide +kernel, reports_stored hf libraries "Details"⟩

end StatementTagging
