import StatementTagging.Proofs.Rule.Alike
import StatementTagging.Proofs.Tagging

set_option autoImplicit false

/-! # Tagging a frame again

Tagging adds columns that the analyses of the rows alone determine (`tagFrame_eq_ok_iff_withColumns`). If
the rules read none of these columns, the rows of the tagged frame are analysed like those of the given one
(`analyzeRows_tagFrame`), so a second run adds the same columns once more, and the frame stays as it is
(`tagFrame_again`). A column of checks that is left out is left alone by both runs.
-/

namespace StatementTagging

/-! ## The columns that tagging adds -/

/-- The columns that tagging may add or replace. -/
def outputColumns (libraries : List Library) : List String := fixedColumns ++ attributeColumns libraries

theorem nodup_outputColumns (libraries : List Library) : (outputColumns libraries).Nodup :=
  List.nodup_append'.mpr
    ⟨by decide, nodup_eraseDups _, fun _ hfixed hattribute => not_mem_attributeColumns hfixed hattribute⟩

/-- The columns of attributes that are not left out, with their cells. -/
def attributeCells (analyses : List Analysis) (columns : List String) : List (String × List Datum) :=
  (columns.filter fun column => ¬ IsLeftOut analyses column).map fun column =>
    (column, analyses.map (·.cell column))

theorem addAttributeColumns_eq (analyses : List Analysis) (f : Frame) (columns : List String) :
    addAttributeColumns analyses f columns = f.withColumns (attributeCells analyses columns) := by
  induction columns generalizing f with
  | nil => rfl
  | cons column r ih =>
      rw [addAttributeColumns, attributeCells, List.filter_cons]
      by_cases hout : IsLeftOut analyses column
      · rw [if_pos ((isLeftOut_iff _ _).mpr hout), if_neg (by simpa using hout)]
        exact ih f
      · rw [if_neg (mt (isLeftOut_iff _ _).mp hout), if_pos (by simpa using hout)]
        exact bind_congr ih

/-- The columns that the analyses give, with their values. -/
def outputCells (libraries : List Library) (analyses : List Analysis) :
    Except Fault (List (String × List Datum)) := do
  let tags ← analyses.mapM fun a => joinTags a.tags
  let certainties ← analyses.mapM fun a => topCertainty (a.matched.map (·.certainty))
  return fixedCells (tags.map .text) (tagCounts analyses) ((idTexts analyses).map .text) certainties
    ++ attributeCells analyses (attributeColumns libraries)

theorem sublist_outputColumns {libraries : List Library} {analyses : List Analysis}
    {columns : List (String × List Datum)} (h : outputCells libraries analyses = .ok columns) :
    (columns.map (·.1)).Sublist (outputColumns libraries) := by
  obtain ⟨tags, -, h⟩ := bind_eq_ok_iff.mp h
  obtain ⟨certainties, -, h⟩ := bind_eq_ok_iff.mp h
  obtain rfl := Except.ok.inj h
  rw [List.map_append, attributeCells, List.map_map]
  refine (List.Sublist.refl fixedColumns).append ?_
  exact (List.map_id _).symm ▸ List.filter_sublist

variable {f out : Frame} {libraries : List Library} {today : String}

/-- **Tagging adds columns that the analyses determine.** -/
theorem tagFrame_eq_ok_iff_withColumns : tagFrame f libraries today = .ok out ↔
    ∃ analyses, analyzeRows libraries today f.rows = .ok analyses
      ∧ ∃ columns, outputCells libraries analyses = .ok columns ∧ f.withColumns columns = .ok out := by
  rw [tagFrame_eq_ok_iff]
  refine exists_congr fun analyses => and_congr_right fun _ => ?_
  simp only [outputCells, bind_eq_ok_iff, addFixedColumns_eq, addAttributeColumns_eq, Frame.withColumns]
  constructor
  · rintro ⟨tags, htags, certainties, htop, f', hfixed, hout⟩
    refine ⟨_, ⟨tags, htags, certainties, htop, rfl⟩, ?_⟩
    rw [List.foldlM_append]
    exact bind_eq_ok_iff.mpr ⟨f', hfixed, hout⟩
  · rintro ⟨columns, ⟨tags, htags, certainties, htop, hcolumns⟩, hout⟩
    obtain rfl := Except.ok.inj hcolumns
    rw [List.foldlM_append] at hout
    obtain ⟨f', hfixed, hout⟩ := bind_eq_ok_iff.mp hout
    exact ⟨tags, htags, certainties, htop, f', hfixed, hout⟩

/-! ## What the rules read of a tagged frame -/

/-- The other columns are those of the given frame. -/
theorem column?_tagFrame (h : tagFrame f libraries today = .ok out) {name : String}
    (hname : name ∉ outputColumns libraries) : out.column? name = f.column? name := by
  obtain ⟨analyses, -, columns, hcolumns, hout⟩ := tagFrame_eq_ok_iff_withColumns.mp h
  have hsublist := sublist_outputColumns hcolumns
  have hnames := (nodup_outputColumns libraries).sublist hsublist
  exact (Frame.hasColumn_withColumns hnames hout).2.2 name fun hmem => hname (hsublist.subset hmem)

/-- A tagged frame has a row for each row of the given one. -/
theorem length_rows_tagFrame (h : tagFrame f libraries today = .ok out) :
    out.rows.length = f.rows.length := by
  obtain ⟨analyses, hanalyses, htagged⟩ := tagged_of_tagFrame h
  have hcolumns : out.columns ≠ [] := by
    obtain ⟨tags, -, hcolumn⟩ := htagged.tags
    intro hnil
    rw [Frame.column?, hnil] at hcolumn
    cases hcolumn
  rw [Frame.length_rows hcolumns, htagged.height, ← htagged.length, (mapM_eq_ok_iff.mp hanalyses).length_eq]

/-- **The rules notice nothing of the columns that they do not read**: the rows of a tagged frame are
analysed like those of the given one. -/
theorem analyzeRows_tagFrame (hfields : ∀ name ∈ fieldsOf libraries, name ∉ outputColumns libraries)
    (h : tagFrame f libraries today = .ok out) :
    analyzeRows libraries today out.rows = analyzeRows libraries today f.rows := by
  refine analyzeRows_of_alikeOn (List.forall₂_iff_get.mpr ⟨length_rows_tagFrame h, ?_⟩) today
  intro i hi hi' key hkey
  show (Datum.valueAt out.rows[i] key).Alike (Datum.valueAt f.rows[i] key)
  rw [Frame.valueAt_row hi, Frame.valueAt_row hi', Frame.cell?, Frame.cell?,
    column?_tagFrame h (hfields key hkey)]
  exact Datum.Alike.refl _

/-- **Tagging a frame again changes nothing**, if the rules read no column that tagging adds or replaces:
columns, their order and all cells stay as they are. -/
theorem tagFrame_again (hfields : ∀ name ∈ fieldsOf libraries, name ∉ outputColumns libraries)
    (h : tagFrame f libraries today = .ok out) : tagFrame out libraries today = .ok out := by
  have hrows := analyzeRows_tagFrame hfields h
  obtain ⟨analyses, hanalyses, columns, hcolumns, hout⟩ := tagFrame_eq_ok_iff_withColumns.mp h
  have hnames := (nodup_outputColumns libraries).sublist (sublist_outputColumns hcolumns)
  exact tagFrame_eq_ok_iff_withColumns.mpr
    ⟨analyses, hrows.trans hanalyses, columns, hcolumns, Frame.withColumns_again hnames hout⟩

/-- The tags and the values from an earlier run are replaced where they stand, and the column of a check that
no row has stays. -/
theorem tagFrame_again_stale :
    let f : Frame := ⟨2, [("Attr__Fee__Code", [.text "7", .text "8"]), ("Tags", [.text "Old", .null]),
      ("Verified__Fee__Code", [.bool true, .null]), ("Details", [.text "FEE 12", .text "RENT"])]⟩
    let code : Attribute :=
      { tag := .text "Code", expression := { field := .text "Details", pattern := .text "([0-9]+)" } }
    let libraries : List Library :=
      [{ definitions := [{ id := .text "1", tag := .text "Fee", context := [⟨"Details", "FEE 12"⟩]
                           attributes := [code] }] }]
    (∀ name ∈ fieldsOf libraries, name ∉ outputColumns libraries)
      ∧ ∃ out, tagFrame f libraries "2024-06-01" = .ok out
        ∧ out.names = ["Attr__Fee__Code", "Tags", "Verified__Fee__Code", "Details", "Tag_Count",
            "Matched_Definition_Ids", "Top_Certainty"]
        ∧ tagFrame out libraries "2024-06-01" = .ok out := by
  intro f code libraries
  have hfields : ∀ name ∈ fieldsOf libraries, name ∉ outputColumns libraries := by decide
  obtain ⟨out, hout⟩ : ∃ out, tagFrame f libraries "2024-06-01" = .ok out :=
    isOk_of_toOption (by decide +kernel)
  have hnames : (tagFrame f libraries "2024-06-01").toOption.map Frame.names
      = some ["Attr__Fee__Code", "Tags", "Verified__Fee__Code", "Details", "Tag_Count",
          "Matched_Definition_Ids", "Top_Certainty"] := by
    decide +kernel
  rw [hout] at hnames
  exact ⟨hfields, out, hout, Option.some.inj hnames, tagFrame_again hfields hout⟩

end StatementTagging
