import StatementTagging.Proofs.Field
import StatementTagging.Proofs.Report.Ranking
import StatementTagging.Proofs.Report.Tags
import StatementTagging.Proofs.Table.Order
import StatementTagging.Report.Catalog
import StatementTagging.Report.Extraction
import StatementTagging.Report.Untagged

set_option autoImplicit false

/-! # Reports and the order of rows

No report depends on the order of the rows (`reports_inOrder`). What reports read of single cells can fail in
one way only, so the order does not decide which fault comes first (`mapM_perm`). The rows that a test of
their tags keeps are the same ones in another order (`SameTags`), and of these the reports count: texts,
which are ranked in an order without ties, and cells that pass a test. The catalog knows of the data which
fields there are.
-/

namespace StatementTagging

variable {f : Frame} {order order' : List Nat}

/-! ## Reading cells -/

/-- The only fault of a computation on cells is a cell with several values. -/
abbrev ReadsCells {α : Type} (read : Datum → Except Fault α) : Prop :=
  ∀ d, Tame (· = Fault.severalValues) (read d)

theorem readsCells_missing : ReadsCells cellMissing := by
  intro d
  fun_induction cellMissing d with
  | case1 => trivial
  | case2 d ih => exact ih
  | case3 => rfl
  | case4 => trivial

/-- A test for missing cells in front changes nothing. -/
theorem readsCells_bind {α : Type} {read : Datum → Bool → Except Fault α}
    (h : ∀ d missing, Tame (· = Fault.severalValues) (read d missing)) :
    ReadsCells fun d => cellMissing d >>= read d := fun d =>
  (readsCells_missing d).bind fun missing _ => h d missing

theorem readsCells_splitTags : ReadsCells splitTags :=
  readsCells_bind fun _ missing => by cases missing <;> trivial

theorem readsCells_normalizeDescription : ReadsCells normalizeDescription :=
  readsCells_bind fun _ missing => by cases missing <;> trivial

theorem readsCells_isBlankCell : ReadsCells ExtractionReport.isBlankCell :=
  readsCells_bind fun _ missing => by cases missing <;> trivial

theorem readsCells_isFailedCell : ReadsCells ExtractionReport.isFailedCell := fun d =>
  (readsCells_isBlankCell d).bind fun blank _ => by cases blank <;> trivial

/-- **Reading a column in two orders**: the values are those of the rows with the numbers, or neither order
can be read. -/
theorem mapM_cellsAt {α : Type} [Inhabited α] {read : Datum → Except Fault α} (hread : ReadsCells read)
    (h : order.Perm order') (cells : List Datum) :
    (∃ value : Nat → α, (Frame.cellsAt order cells).mapM read = .ok (order.map value)
        ∧ (Frame.cellsAt order' cells).mapM read = .ok (order'.map value))
      ∨ (Frame.cellsAt order cells).mapM read = .error .severalValues
        ∧ (Frame.cellsAt order' cells).mapM read = .error .severalValues := by
  rw [Frame.cellsAt, Frame.cellsAt, List.mapM_map, List.mapM_map]
  exact mapM_perm (fun i => hread (cells.getD i .null)) h

/-! ## Tags -/

/-- The tags of the rows in two orders: the same ones, and every test of them keeps the same rows. -/
structure SameTags (f : Frame) (order order' : List Nat) (tags tags' : List (List String)) : Prop where
  perm : tags.Perm tags'
  keep : ∀ test : List String → Bool, ∃ kept kept' : List Nat, kept.Perm kept'
    ∧ (f.inOrder order).keep (tags.map test) = f.inOrder kept
    ∧ (f.inOrder order').keep (tags'.map test) = f.inOrder kept'

/-- **Both orders have the same tags**, or the tags of both cannot be read. -/
theorem rowTags_inOrder (f : Frame) (h : order.Perm order') :
    (∃ tags tags', rowTags (f.inOrder order) = .ok tags ∧ rowTags (f.inOrder order') = .ok tags'
        ∧ SameTags f order order' tags tags')
      ∨ ∃ fault, rowTags (f.inOrder order) = .error fault ∧ rowTags (f.inOrder order') = .error fault := by
  have hcolumn := fun order => f.column?_inOrder order "Tags"
  cases hcells : f.column? "Tags" with
  | none =>
      simp only [hcells, Option.map_none] at hcolumn
      exact Or.inr ⟨_, rowTags_of_none (hcolumn order), rowTags_of_none (hcolumn order')⟩
  | some cells =>
      simp only [hcells, Option.map_some] at hcolumn
      rw [rowTags_of_some (hcolumn order), rowTags_of_some (hcolumn order')]
      rcases mapM_cellsAt readsCells_splitTags h cells with ⟨value, hrun, hrun'⟩ | hfail
      · refine Or.inl ⟨_, _, hrun, hrun', h.map value, fun test => ?_⟩
        refine ⟨_, _, h.filter (test ∘ value), ?_, ?_⟩
        · rw [List.map_map, Frame.keep_inOrder]
        · rw [List.map_map, Frame.keep_inOrder]
      · exact Or.inr ⟨_, hfail⟩

/-! ## Coverage -/

theorem Coverage.counts_perm {tags tags' : List (List String)} (h : tags.Perm tags') :
    counts tags = counts tags' :=
  ranked_tally_perm (h.flatMap_right List.eraseDups)

theorem Coverage.report_inOrder (f : Frame) (h : order.Perm order') :
    Coverage.report (f.inOrder order) = Coverage.report (f.inOrder order') := by
  have hlines : Coverage.lines (f.inOrder order) = Coverage.lines (f.inOrder order') := by
    rcases rowTags_inOrder f h with ⟨tags, tags', hrun, hrun', hsame⟩ | ⟨fault, hfail, hfail'⟩
    · rw [Coverage.lines, Coverage.lines, hrun, hrun', ok_bind, ok_bind, Frame.height_inOrder,
        Frame.height_inOrder, h.length_eq, Coverage.counts_perm hsame.perm]
    · rw [Coverage.lines, Coverage.lines, hfail, hfail', error_bind, error_bind]
  rw [Coverage.report, Coverage.report, hlines]

/-! ## Rows without tags -/

/-- The most frequent descriptions are cut off after they have been ranked without ties. -/
theorem Untagged.topDescriptions_inOrder (f : Frame) (h : order.Perm order') (field : String) :
    Untagged.topDescriptions (f.inOrder order) field = Untagged.topDescriptions (f.inOrder order') field := by
  rw [Untagged.topDescriptions, Untagged.topDescriptions, Frame.column?_inOrder, Frame.column?_inOrder]
  cases f.column? field with
  | none => rfl
  | some cells =>
      dsimp only [Option.map_some]
      rcases mapM_cellsAt readsCells_normalizeDescription h cells with
        ⟨value, hrun, hrun'⟩ | ⟨hfail, hfail'⟩
      · have htexts : (order.map value).Perm (order'.map value) := h.map value
        rw [hrun, hrun', ok_bind, ok_bind, ranked_tally_perm (htexts.filter (· != ""))]
      · rw [hfail, hfail', error_bind]

theorem Untagged.report_inOrder (f : Frame) (h : order.Perm order') (field : String) :
    Untagged.report (f.inOrder order) field = Untagged.report (f.inOrder order') field := by
  have hsummary : Untagged.summarize (f.inOrder order) field
      = Untagged.summarize (f.inOrder order') field := by
    rcases rowTags_inOrder f h with ⟨tags, tags', hrun, hrun', hsame⟩ | ⟨fault, hfail, hfail'⟩
    · obtain ⟨kept, kept', hkept, hkeep, hkeep'⟩ := hsame.keep (·.isEmpty)
      rw [Untagged.summarize, Untagged.summarize, hrun, hrun', ok_bind, ok_bind, hkeep, hkeep']
      dsimp only [Frame.height_inOrder]
      rw [Untagged.topDescriptions_inOrder f hkept field, hkept.length_eq, h.length_eq]
    · rw [Untagged.summarize, Untagged.summarize, hfail, hfail', error_bind, error_bind]
  rw [Untagged.report, Untagged.report, hsummary]

/-! ## Extracted values -/

namespace ExtractionReport

theorem countCells_inOrder (f : Frame) (h : order.Perm order') (column : String)
    {test : Datum → Except Fault Bool} (htest : ReadsCells test) :
    countCells (f.inOrder order) column test = countCells (f.inOrder order') column test := by
  rw [countCells, countCells, Frame.column?_inOrder, Frame.column?_inOrder]
  cases f.column? column with
  | none => rfl
  | some cells =>
      dsimp only [Option.map_some]
      rcases mapM_cellsAt htest h cells with ⟨value, hrun, hrun'⟩ | ⟨hfail, hfail'⟩
      · rw [hrun, hrun', ok_bind, ok_bind, (h.map value).count_eq]
      · rw [hfail, hfail', error_bind]

/-- The report is determined by its lines for single attributes. -/
theorem linesFrom_congr {f g : Frame} {tags tags' : Except Fault (List (List String))}
    (h : ∀ tag a, line f tags tag a = line g tags' tag a) (seen : List (Datum × Datum))
    (attributes : List (Datum × Attribute)) :
    linesFrom f tags seen attributes = linesFrom g tags' seen attributes := by
  induction attributes generalizing seen with
  | nil => rfl
  | cons pair r ih =>
      obtain ⟨tag, a⟩ := pair
      simp only [linesFrom, h, ih]

/-- A line is determined by how many rows carry the tag and by what is counted in their cells. -/
theorem line_congr {f g : Frame} {tags tags' : List (List String)} {tag : Datum} {a : Attribute}
    (hheight : (f.keep (tags.map (carries tag))).height = (g.keep (tags'.map (carries tag))).height)
    (hblank : ∀ column, countCells (f.keep (tags.map (carries tag))) column isBlankCell
      = countCells (g.keep (tags'.map (carries tag))) column isBlankCell)
    (hfailed : ∀ column, countCells (f.keep (tags.map (carries tag))) column isFailedCell
      = countCells (g.keep (tags'.map (carries tag))) column isFailedCell) :
    line f (.ok tags) tag a = line g (.ok tags') tag a := by
  simp only [line, ok_bind, hheight, hblank, hfailed]

theorem line_inOrder (f : Frame) (h : order.Perm order') (tag : Datum) (a : Attribute) :
    line (f.inOrder order) (rowTags (f.inOrder order)) tag a
      = line (f.inOrder order') (rowTags (f.inOrder order')) tag a := by
  rcases rowTags_inOrder f h with ⟨tags, tags', hrun, hrun', hsame⟩ | ⟨fault, hfail, hfail'⟩
  · obtain ⟨kept, kept', hkept, hkeep, hkeep'⟩ := hsame.keep (carries tag)
    rw [hrun, hrun']
    refine line_congr ?_ (fun column => ?_) fun column => ?_
    · rw [hkeep, hkeep', Frame.height_inOrder, Frame.height_inOrder, hkept.length_eq]
    · rw [hkeep, hkeep', countCells_inOrder f hkept column readsCells_isBlankCell]
    · rw [hkeep, hkeep', countCells_inOrder f hkept column readsCells_isFailedCell]
  · rw [hfail, hfail', line, line, error_bind, error_bind]

theorem report_inOrder (f : Frame) (h : order.Perm order') (libraries : List Library) :
    report (f.inOrder order) libraries = report (f.inOrder order') libraries := by
  rw [report, report, linesFrom_congr (line_inOrder f h)]

end ExtractionReport

/-! ## The catalog -/

/-- The catalog is determined by the fields that the data is known to have. -/
theorem Catalog.report_congr {f g : Frame} (h : Catalog.knownFields f = Catalog.knownFields g)
    (libraries : List Library) : Catalog.report f libraries = Catalog.report g libraries := by
  simp only [Catalog.report, Catalog.lines, h]

theorem Catalog.report_inOrder (f : Frame) (h : order.Perm order') (libraries : List Library) :
    Catalog.report (f.inOrder order) libraries = Catalog.report (f.inOrder order') libraries := by
  refine Catalog.report_congr ?_ libraries
  simp only [Catalog.knownFields, FieldMeta.ofRows_perm (f.rows_perm h)]

/-! ## All reports -/

/-- **No report depends on the order of the rows.** -/
theorem reports_inOrder (hf : f.IsRectangular) (h : order.Perm (List.range f.height))
    (libraries : List Library) (field : String) :
    Coverage.report (f.inOrder order) = Coverage.report f
    ∧ Untagged.report (f.inOrder order) field = Untagged.report f field
    ∧ ExtractionReport.report (f.inOrder order) libraries = ExtractionReport.report f libraries
    ∧ Catalog.report (f.inOrder order) libraries = Catalog.report f libraries := by
  have hcoverage := Coverage.report_inOrder f h
  have huntagged := Untagged.report_inOrder f h field
  have hextraction := ExtractionReport.report_inOrder f h libraries
  have hcatalog := Catalog.report_inOrder f h libraries
  rw [Frame.inOrder_range hf] at hcoverage huntagged hextraction hcatalog
  exact ⟨hcoverage, huntagged, hextraction, hcatalog⟩

/-- Two tags are equally frequent, and so are the descriptions of the two rows that have none. -/
theorem reports_inOrder_ties :
    let f : Frame := ⟨4, [("Tags", [.null, .text "B|A", .text "", .text "A|B"]),
      ("Details", [.text "rent", .text "FEE 12", .text "Fee", .text "FEE"]),
      ("Attr__A__Code", [.null, .int 12, .null, .text " "])]⟩
    let libraries : List Library :=
      [{ definitions := [{ id := .text "1", tag := .text "A"
                           attributes := [{ tag := .text "Code", mandatory := .bool true
                                            expression := { field := .text "Details"
                                                            pattern := .text "([0-9]+)" } }] }] }]
    (Untagged.summarize f "Details").toOption.isSome = true
    ∧ f.IsRectangular ∧ [3, 2, 0, 1].Perm (List.range f.height)
    ∧ Coverage.report (f.inOrder [3, 2, 0, 1]) = Coverage.report f
    ∧ Untagged.report (f.inOrder [3, 2, 0, 1]) "Details" = Untagged.report f "Details"
    ∧ ExtractionReport.report (f.inOrder [3, 2, 0, 1]) libraries = ExtractionReport.report f libraries
    ∧ Catalog.report (f.inOrder [3, 2, 0, 1]) libraries = Catalog.report f libraries := by
  intro f libraries
  have hf : f.IsRectangular := by decide
  have horder : [3, 2, 0, 1].Perm (List.range f.height) := by decide
  exact ⟨by decide +kernel, hf, horder, reports_inOrder hf horder libraries "Details"⟩

end StatementTagging
