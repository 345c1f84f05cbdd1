import StatementTagging.Proofs.Analysis
import StatementTagging.Proofs.Rule.TagTable
import StatementTagging.Proofs.Table.Frame
import StatementTagging.Tagging

set_option autoImplicit false

/-! # Columns of a tagged frame

Tagging adds columns whose names begin with fixed texts, so they do not get into each other's way. What
stands in them is said by the analyses of the rows alone (`tagged_of_tagFrame`). Tagging fails only if an
analysis does, if tags cannot be joined, or if a certainty or a number of tags cannot stand in a
column (`tagFrame_isOk`).
-/

namespace StatementTagging

/-! ## Names of columns -/

/-- The columns of attributes begin with other characters than those that every tagged frame has. -/
theorem head_attributeColumns {libraries : List Library} {name : String}
    (h : name ∈ attributeColumns libraries) :
    name.toList.head? = some 'A' ∨ name.toList.head? = some 'V' := by
  obtain ⟨d, -, hname⟩ := List.mem_flatMap.mp (List.mem_eraseDups.mp h)
  obtain ⟨a, -, hname⟩ := List.mem_flatMap.mp hname
  rcases List.mem_pair.mp hname with rfl | rfl
  · exact Or.inl (by simp [valueColumn])
  · exact Or.inr (by simp [checkColumn])

/-- The columns that every tagged frame has. -/
def fixedColumns : List String := ["Tags", "Tag_Count", "Matched_Definition_Ids", "Top_Certainty"]

theorem not_mem_attributeColumns {libraries : List Library} {name : String} (h : name ∈ fixedColumns) :
    name ∉ attributeColumns libraries := by
  intro hmem
  have hheads : ∀ n ∈ fixedColumns, n.toList.head? ≠ some 'A' ∧ n.toList.head? ≠ some 'V' := by
    decide
  obtain ⟨hA, hV⟩ := hheads name h
  exact (head_attributeColumns hmem).elim hA hV

/-- An attribute has its columns. -/
theorem columns_mem_attributeColumns {libraries : List Library} {l : Library} {d : Definition} {a : Attribute}
    (hl : l ∈ libraries) (hd : d ∈ l.definitions) (ha : a ∈ d.attributes) :
    valueColumn d.tag a.tag ∈ attributeColumns libraries
      ∧ checkColumn d.tag a.tag ∈ attributeColumns libraries := by
  have hcolumns : ∀ column ∈ [valueColumn d.tag a.tag, checkColumn d.tag a.tag],
      column ∈ attributeColumns libraries := fun column hcolumn =>
    List.mem_eraseDups.mpr (List.mem_flatMap.mpr
      ⟨d, List.mem_flatMap.mpr ⟨l, hl, hd⟩, List.mem_flatMap.mpr ⟨a, ha, hcolumn⟩⟩)
  exact ⟨hcolumns _ (by simp), hcolumns _ (by simp)⟩

/-! ## Tags in one cell -/

theorem joinTags_texts (tags : List String) :
    joinTags (tags.map .text) = .ok (String.intercalate "|" tags) := by
  refine bind_eq_ok_iff.mpr ⟨tags, ?_, rfl⟩
  rw [List.mapM_map]
  exact (mapM_eq_map fun t _ => rfl).trans (congrArg Except.ok (List.map_id _))

theorem eq_map_text {tags : List Datum} (h : ∀ t ∈ tags, t.IsText) : tags = (tags.map Datum.display).map .text := by
  rw [List.map_map]
  refine ((List.map_congr_left fun t ht => ?_).trans (List.map_id _)).symm
  obtain ⟨s, rfl⟩ := h t ht
  rfl

/-- Tags that are texts can be joined. -/
theorem joinTags_isOk {tags : List Datum} (h : ∀ t ∈ tags, t.IsText) : ∃ s, joinTags tags = .ok s :=
  ⟨_, (congrArg joinTags (eq_map_text h)).trans (joinTags_texts _)⟩

/-- Only texts are joined. -/
theorem isText_of_joinTags {tags : List Datum} {s : String} (h : joinTags tags = .ok s) :
    ∀ t ∈ tags, t.IsText := by
  obtain ⟨texts, htexts, -⟩ := bind_eq_ok_iff.mp h
  intro t ht
  obtain ⟨s, -, hs⟩ := isOk_of_mapM htexts t ht
  cases t with
  | text s => exact ⟨s, rfl⟩
  | _ => cases hs

/-! ## Every cell has a column -/

section Pairs

variable {α : Type} {libraries : List Library}

/-- The names in a table are tags of the attributes. -/
def NamesFrom (attributes : List Attribute) (table : TagTable α) : Prop :=
  ∀ e ∈ table, ∃ a ∈ attributes, a.tag = e.1

theorem namesFrom_put {attributes : List Attribute} {table : TagTable α} (h : NamesFrom attributes table)
    {a : Attribute} (ha : a ∈ attributes) (value : α) :
    Outcome (NamesFrom attributes) (fun _ => True) (table.put a.tag value) := by
  refine Outcome.ite (fun _ => trivial) fun _ e he => ?_
  rcases mem_upsert he with ⟨-, hkey | ⟨-, old, hold⟩⟩ | hmem
  · exact ⟨a, ha, hkey.symm⟩
  · exact h (e.1, old) hold
  · exact h e hmem

/-- The pairs of tags in a table of tables are those of definitions and their attributes. -/
def PairsFrom (libraries : List Library) (table : TagTable (TagTable α)) : Prop :=
  ∀ e ∈ table, ∃ l ∈ libraries, ∃ d ∈ l.definitions, d.tag = e.1 ∧ NamesFrom d.attributes e.2

theorem PairsFrom.upsert {table : TagTable (TagTable α)} (h : PairsFrom libraries table)
    {d : Definition} (hd : ∃ l ∈ libraries, d ∈ l.definitions) (htag : d.tag.IsText) {inner : TagTable α}
    (hinner : NamesFrom d.attributes inner) : PairsFrom libraries (upsert Datum.same d.tag inner table) := by
  obtain ⟨l, hl, hd⟩ := hd
  obtain ⟨tag, htag⟩ := htag
  intro e he
  rcases mem_upsert he with ⟨rfl, hkey | ⟨hsame, -⟩⟩ | hmem
  · exact ⟨l, hl, d, hd, hkey.symm, hinner⟩
  · rw [htag, Datum.same_text_iff] at hsame
    exact ⟨l, hl, d, hd, htag.trans hsame.symm, hinner⟩
  · exact h e hmem

/-- An analysis whose tags are texts has pairs of the libraries only. -/
theorem pairsFrom_of_analyzeRow {today : String} {row : Row} {a : Analysis}
    (h : analyzeRow libraries today row = .ok a) (htags : ∀ t ∈ a.tags, t.IsText) :
    PairsFrom libraries a.attributes ∧ PairsFrom libraries a.verified := by
  refine analyzeRow_induction (P := fun a => (∀ t ∈ a.tags, t.IsText) →
    PairsFrom libraries a.attributes ∧ PairsFrom libraries a.verified) ?_ ?_ h htags
  · exact fun _ => ⟨fun e he => absurd he List.not_mem_nil, fun e he => absurd he List.not_mem_nil⟩
  · intro a d a' ih hd hadded htags
    obtain ⟨-, extracted, checks, hextracted, hchecks, rfl⟩ := (Analysis.add_eq_ok_iff a a' d row).mp hadded
    obtain ⟨hbefore, htag⟩ := List.forall_mem_append.mp htags
    obtain ⟨hattributes, hverified⟩ := ih hbefore
    have htag := htag d.tag List.mem_cons_self
    have hnone : ∀ {α : Type}, NamesFrom d.attributes ([] : TagTable α) :=
      fun e he => absurd he List.not_mem_nil
    exact ⟨hattributes.upsert hd htag
        (extractAll_induction hnone (fun _ ht a ha v => namesFrom_put ht ha v) hextracted),
      hverified.upsert hd htag
        (verifyAll_induction hnone (fun _ ht a ha v => namesFrom_put ht ha v) hchecks)⟩

/-- The columns that a table of tables is spread over are there. -/
theorem mem_attributeColumns_of_pairsFrom {table : TagTable (TagTable α)} (h : PairsFrom libraries table)
    {tag : Datum} {inner : TagTable α} (hinner : (tag, inner) ∈ table) {name : Datum} {v : α}
    (hname : (name, v) ∈ inner) : valueColumn tag name ∈ attributeColumns libraries
      ∧ checkColumn tag name ∈ attributeColumns libraries := by
  obtain ⟨l, hl, d, hd, rfl, hnames⟩ := h _ hinner
  obtain ⟨a, ha, rfl⟩ := hnames _ hname
  exact columns_mem_attributeColumns hl hd ha

/-- **Every cell that an analysis gives has a column.** -/
theorem checkColumns_of_analyzeRow {today : String} {row : Row} {a : Analysis}
    (h : analyzeRow libraries today row = .ok a) (htags : ∀ t ∈ a.tags, t.IsText) :
    a.checkColumns (attributeColumns libraries) = .ok () := by
  obtain ⟨hattributes, hverified⟩ := pairsFrom_of_analyzeRow h htags
  refine forM_eq_ok_iff.mpr fun e he => if_pos (List.contains_iff_mem.mpr ?_)
  rcases List.mem_append.mp he with hvalue | hcheck
  · obtain ⟨⟨tag, inner⟩, hinner, hvalue⟩ := List.mem_flatMap.mp hvalue
    obtain ⟨⟨name, v⟩, hname, rfl⟩ := List.mem_map.mp hvalue
    exact (mem_attributeColumns_of_pairsFrom hattributes hinner hname).1
  · obtain ⟨⟨tag, inner⟩, hinner, hcheck⟩ := List.mem_flatMap.mp hcheck
    obtain ⟨⟨name, v⟩, hname, rfl⟩ := List.mem_map.mp hcheck
    exact (mem_attributeColumns_of_pairsFrom hverified hinner hname).2

end Pairs

/-! ## Columns of attributes -/

/-- A column has one of its cells, or null if it has none. -/
theorem cell_cases (a : Analysis) (column : String) :
    (column, a.cell column) ∈ a.cells ∨ (∀ d, (column, d) ∉ a.cells) ∧ a.cell column = .null := by
  rw [Analysis.cell]
  cases hlookup : a.cells.reverse.lookup column with
  | none =>
      refine Or.inr ⟨fun d hd => ?_, rfl⟩
      have hnot := List.lookup_eq_none_iff.mp hlookup (column, d) (List.mem_reverse.mpr hd)
      simp at hnot
  | some d =>
      obtain ⟨l, r, hcells, -⟩ := List.lookup_eq_some_iff.mp hlookup
      refine Or.inl ?_
      rw [← List.mem_reverse, hcells]
      exact List.mem_append_right _ List.mem_cons_self

/-- The cells of attributes are texts, truth values or null. -/
theorem isPlain_cell (a : Analysis) (column : String) : (a.cell column).IsPlain := by
  rcases cell_cases a column with hmem | ⟨-, hnull⟩
  · rcases List.mem_append.mp hmem with hvalue | hcheck
    · obtain ⟨⟨tag, values⟩, -, hvalue⟩ := List.mem_flatMap.mp hvalue
      obtain ⟨⟨name, v⟩, -, heq⟩ := List.mem_map.mp hvalue
      rw [← (Prod.mk.inj heq).2]
      cases v <;> trivial
    · obtain ⟨⟨tag, checks⟩, -, hcheck⟩ := List.mem_flatMap.mp hcheck
      obtain ⟨⟨name, b⟩, -, heq⟩ := List.mem_map.mp hcheck
      rw [← (Prod.mk.inj heq).2]
      trivial
  · rw [hnull]
    trivial

/-- The column is left out: it is one of checks, and no check was made. -/
def IsLeftOut (analyses : List Analysis) (column : String) : Prop :=
  isCheckColumn column = true ∧ ∀ a ∈ analyses, (a.cell column).isNull = true

instance (analyses : List Analysis) (column : String) : Decidable (IsLeftOut analyses column) :=
  inferInstanceAs (Decidable (_ ∧ _))

theorem isLeftOut_iff (analyses : List Analysis) (column : String) :
    (isCheckColumn column && (analyses.map (·.cell column)).all (·.isNull)) = true
      ↔ IsLeftOut analyses column := by
  simp [IsLeftOut]

/-- **The columns of attributes hold the cells of the analyses**, and no other column changes. -/
theorem addAttributeColumns_spec {analyses : List Analysis} {f : Frame} (columns : List String)
    (h : analyses.length = f.height) :
    ∃ out, addAttributeColumns analyses f columns = .ok out ∧ out.height = f.height
      ∧ ∀ name, out.column? name
          = if name ∈ columns ∧ ¬ IsLeftOut analyses name then some (analyses.map (·.cell name))
            else f.column? name := by
  induction columns generalizing f with
  | nil => exact ⟨f, rfl, rfl, fun name => by simp⟩
  | cons column r ih =>
      rw [addAttributeColumns]
      by_cases hout : IsLeftOut analyses column
      · obtain ⟨out, hrun, hheight, hcolumns⟩ := ih h
        rw [if_pos ((isLeftOut_iff _ _).mpr hout)]
        refine ⟨out, hrun, hheight, fun name => (hcolumns name).trans (if_congr ?_ rfl rfl)⟩
        rw [List.mem_cons]
        constructor
        · exact fun hname => ⟨Or.inr hname.1, hname.2⟩
        · rintro ⟨rfl | hr, hname⟩
          · exact absurd hout hname
          · exact ⟨hr, hname⟩
      · have hlength : (analyses.map (·.cell column)).length = f.height := by rw [List.length_map, h]
        have hplain : ∀ d ∈ analyses.map (·.cell column), d.IsPlain := by
          intro d hd
          obtain ⟨a, -, rfl⟩ := List.mem_map.mp hd
          exact isPlain_cell a column
        obtain ⟨f', hwith, hheight', hother⟩ := f.withColumn_plain column hlength hplain
        obtain ⟨out, hrun, hheight, hcolumns⟩ := ih (h.trans hheight'.symm)
        rw [if_neg (mt (isLeftOut_iff _ _).mp hout), hwith]
        refine ⟨out, hrun, hheight.trans hheight', fun name => ?_⟩
        rw [hcolumns, hother]
        by_cases hname : name = column
        · subst hname
          rw [if_pos rfl, ite_self, if_pos ⟨List.mem_cons_self, hout⟩]
        · rw [if_neg (Ne.symm hname)]
          exact if_congr (by simp [hname]) rfl rfl

/-! ## Columns of every tagged frame -/

/-- Adds the columns that every tagged frame has. -/
def addFixedColumns (f : Frame) (tags counts ids certainties : List Datum) : Except Fault Frame := do
  let f ← f.withColumn "Tags" tags
  let f ← f.withColumn "Tag_Count" counts
  let f ← f.withColumn "Matched_Definition_Ids" ids
  f.withColumn "Top_Certainty" certainties

section FixedColumns

variable {f f' : Frame} {tags counts ids certainties : List Datum}

/-- The columns that are added, with their values. -/
def fixedCells (tags counts ids certainties : List Datum) : List (String × List Datum) :=
  [("Tags", tags), ("Tag_Count", counts), ("Matched_Definition_Ids", ids), ("Top_Certainty", certainties)]

theorem addFixedColumns_eq (f : Frame) :
    addFixedColumns f tags counts ids certainties = f.withColumns (fixedCells tags counts ids certainties) := by
  simp [addFixedColumns, Frame.withColumns, fixedCells]

theorem nodup_fixedCells : ((fixedCells tags counts ids certainties).map (·.1)).Nodup := by
  have hnodup : fixedColumns.Nodup := by decide
  exact hnodup

theorem addFixedColumns_spec (h : addFixedColumns f tags counts ids certainties = .ok f') :
    tags.length = f.height ∧ f'.height = f.height
      ∧ (∃ typed, typedColumn (tags.map some) = .ok typed ∧ f'.column? "Tags" = some typed)
      ∧ (∃ typed, typedColumn (counts.map some) = .ok typed ∧ f'.column? "Tag_Count" = some typed)
      ∧ (∃ typed, typedColumn (ids.map some) = .ok typed
          ∧ f'.column? "Matched_Definition_Ids" = some typed)
      ∧ ∀ name ∉ fixedColumns, f'.column? name = f.column? name := by
  rw [addFixedColumns_eq] at h
  obtain ⟨hheight, hadded, hothers⟩ := Frame.hasColumn_withColumns nodup_fixedCells h
  obtain ⟨⟨hlength, htags⟩, ⟨-, hcounts⟩, ⟨-, hids⟩, -⟩ := by
    simpa only [fixedCells, List.forall_mem_cons] using hadded
  exact ⟨hlength.trans hheight, hheight, htags, hcounts, hids, hothers⟩

theorem addFixedColumns_isOk
    (hlength : ∀ cells ∈ [tags, counts, ids, certainties], cells.length = f.height)
    (hfit : ∀ cells ∈ [tags, counts, ids, certainties], ∀ d ∈ cells, ¬ d.TooLarge) :
    ∃ f', addFixedColumns f tags counts ids certainties = .ok f' ∧ f'.height = f.height := by
  rw [addFixedColumns_eq]
  refine Frame.withColumns_isOk fun column hcolumn => ?_
  have hcells : column.2 ∈ [tags, counts, ids, certainties] := List.mem_map_of_mem (f := (·.2)) hcolumn
  exact ⟨hlength _ hcells, hfit _ hcells⟩

end FixedColumns

/-! ## The whole frame -/

/-- What stands in a tagged frame. -/
structure Tagged (f out : Frame) (analyses : List Analysis) (columns : List String) : Prop where
  length : analyses.length = f.height
  height : out.height = f.height
  tags : ∃ tags, analyses.mapM (fun a => joinTags a.tags) = .ok tags
    ∧ out.column? "Tags" = some (tags.map .text)
  counts : out.column? "Tag_Count" = some (analyses.map fun a => .int a.tags.length)
  ids : out.column? "Matched_Definition_Ids" = some (analyses.map fun a =>
    .text (String.intercalate "|" (a.matched.map (·.id.display))))
  cells : ∀ name ∈ columns, out.column? name
    = if IsLeftOut analyses name then f.column? name else some (analyses.map (·.cell name))

theorem isPlain_text (texts : List String) : ∀ d ∈ texts.map Datum.text, d.IsPlain := by
  intro d hd
  obtain ⟨s, -, rfl⟩ := List.mem_map.mp hd
  trivial

variable {f out : Frame} {libraries : List Library} {today : String}

/-- The texts with the identifiers of the definitions that matched. -/
def idTexts (analyses : List Analysis) : List String :=
  analyses.map fun a => String.intercalate "|" (a.matched.map (·.id.display))

/-- The numbers of tags. -/
def tagCounts (analyses : List Analysis) : List Datum := analyses.map fun a => .int a.tags.length

/-- The steps of tagging. -/
theorem tagFrame_eq_ok_iff : tagFrame f libraries today = .ok out ↔
    ∃ analyses, analyzeRows libraries today f.rows = .ok analyses
      ∧ ∃ tags, analyses.mapM (fun a => joinTags a.tags) = .ok tags
      ∧ ∃ certainties, analyses.mapM (fun a => topCertainty (a.matched.map (·.certainty))) = .ok certainties
      ∧ ∃ f', addFixedColumns f (tags.map .text) (tagCounts analyses) ((idTexts analyses).map .text)
          certainties = .ok f'
        ∧ addAttributeColumns analyses f' (attributeColumns libraries) = .ok out := by
  have hcolumns : ∀ analyses tags, analyzeRows libraries today f.rows = .ok analyses →
      analyses.mapM (fun a => joinTags a.tags) = .ok tags →
      analyses.forM (·.checkColumns (attributeColumns libraries)) = .ok () := by
    intro analyses tags hanalyses htags
    refine forM_eq_ok_iff.mpr fun a ha => ?_
    obtain ⟨row, -, hrow⟩ := exists_row_of_analyzeRows hanalyses ha
    obtain ⟨s, -, hs⟩ := isOk_of_mapM htags a ha
    exact checkColumns_of_analyzeRow hrow (isText_of_joinTags hs)
  simp only [tagFrame, addFixedColumns, bind_eq_ok_iff]
  constructor
  · rintro ⟨analyses, hanalyses, tags, htags, f₁, h₁, f₂, h₂, f₃, h₃, certainties, htop, f₄, h₄, -, -, hout⟩
    exact ⟨analyses, hanalyses, tags, htags, certainties, htop, f₄, ⟨f₁, h₁, f₂, h₂, f₃, h₃, h₄⟩, hout⟩
  · rintro ⟨analyses, hanalyses, tags, htags, certainties, htop, f₄, ⟨f₁, h₁, f₂, h₂, f₃, h₃, h₄⟩, hout⟩
    exact ⟨analyses, hanalyses, tags, htags, f₁, h₁, f₂, h₂, f₃, h₃, certainties, htop, f₄, h₄, (),
      hcolumns analyses tags hanalyses htags, hout⟩

/-- **What a tagged frame says is what the analyses of the rows say.** -/
theorem tagged_of_tagFrame (h : tagFrame f libraries today = .ok out) :
    ∃ analyses, analyzeRows libraries today f.rows = .ok analyses
      ∧ Tagged f out analyses (attributeColumns libraries) := by
  obtain ⟨analyses, hanalyses, tags, htags, certainties, -, f', hfixed, hout⟩ := tagFrame_eq_ok_iff.mp h
  obtain ⟨hlength, hheight, ⟨t₁, ht₁, hc₁⟩, ⟨t₂, ht₂, hc₂⟩, ⟨t₃, ht₃, hc₃⟩, hother⟩ :=
    addFixedColumns_spec hfixed
  rw [List.length_map, ← (mapM_eq_ok_iff.mp htags).length_eq] at hlength
  obtain ⟨out', hrun, hheight', hcolumns⟩ :=
    addAttributeColumns_spec (attributeColumns libraries) (hlength.trans hheight.symm)
  obtain rfl : out' = out := Except.ok.inj (hrun.symm.trans hout)
  have hkept : ∀ name ∈ fixedColumns, out'.column? name = f'.column? name := by
    intro name hname
    rw [hcolumns, if_neg fun h => not_mem_attributeColumns hname h.1]
  -- texts are kept in their column, and so are numbers without gaps
  rw [typedColumn_of_plain (isPlain_text tags)] at ht₁
  obtain rfl := Except.ok.inj ht₁
  rw [tagCounts, List.map_map] at ht₂
  obtain rfl := typedColumn_ints (analyses.map fun a => (a.tags.length : Int))
    (by rw [List.map_map]; exact ht₂)
  rw [typedColumn_of_plain (isPlain_text _)] at ht₃
  obtain rfl := Except.ok.inj ht₃
  refine ⟨analyses, hanalyses, hlength, hheight'.trans hheight, ⟨tags, htags, ?_⟩, ?_, ?_, ?_⟩
  · rw [hkept "Tags" (by simp [fixedColumns]), hc₁]
  · rw [hkept "Tag_Count" (by simp [fixedColumns]), hc₂]
    exact congrArg some List.map_map
  · rw [hkept "Matched_Definition_Ids" (by simp [fixedColumns]), hc₃]
    exact congrArg some List.map_map
  · intro name hname
    have hgiven := hother name fun hfixed => not_mem_attributeColumns hfixed hname
    rw [hcolumns, hgiven]
    by_cases hleft : IsLeftOut analyses name
    · rw [if_pos hleft, if_neg fun h => h.2 hleft]
    · rw [if_neg hleft, if_pos ⟨hname, hleft⟩]

/-! ## When tagging succeeds -/

theorem certaintyRank_isOk {c : Datum} (h : c.isCompound = false) : ∃ n, certaintyRank c = .ok n := by
  unfold certaintyRank
  rw [if_neg (by simp [h])]
  split <;> exact ⟨_, rfl⟩

theorem bestCertainty_isOk {certainties : List Datum} (h : ∀ c ∈ certainties, c.isCompound = false)
    (best : Datum) (rank : Nat) :
    ∃ c, bestCertainty best rank certainties = .ok c ∧ (c = best ∨ c ∈ certainties) := by
  induction certainties generalizing best rank with
  | nil => exact ⟨best, rfl, Or.inl rfl⟩
  | cons c r ih =>
      obtain ⟨hc, hr⟩ := List.forall_mem_cons.mp h
      obtain ⟨n, hn⟩ := certaintyRank_isOk hc
      rw [bestCertainty, hn]
      by_cases hbetter : rank < n
      · obtain ⟨top, htop, hmem⟩ := ih hr c n
        exact ⟨top, (if_pos hbetter).trans htop, Or.inr (List.mem_cons.mpr hmem)⟩
      · obtain ⟨top, htop, hmem⟩ := ih hr best rank
        exact ⟨top, (if_neg hbetter).trans htop, hmem.imp_right (List.mem_cons_of_mem _)⟩

/-- The highest certainty is one of those given, or the empty text. -/
theorem topCertainty_isOk {certainties : List Datum} (h : ∀ c ∈ certainties, c.isCompound = false) :
    ∃ c, topCertainty certainties = .ok c ∧ (c = .text "" ∨ c ∈ certainties) := by
  cases certainties with
  | nil => exact ⟨_, rfl, Or.inl rfl⟩
  | cons c r =>
      obtain ⟨hc, hr⟩ := List.forall_mem_cons.mp h
      obtain ⟨n, hn⟩ := certaintyRank_isOk hc
      obtain ⟨top, htop, hmem⟩ := bestCertainty_isOk hr c n
      rw [topCertainty, hn]
      exact ⟨top, htop, Or.inr (List.mem_cons.mpr hmem)⟩

/-- The certainty can stand in a column. -/
def CertaintyFits (c : Datum) : Prop := c.isCompound = false ∧ ¬ c.TooLarge

theorem topCertainty_fits {certainties : List Datum} (h : ∀ c ∈ certainties, CertaintyFits c) :
    ∃ c, topCertainty certainties = .ok c ∧ ¬ c.TooLarge := by
  obtain ⟨c, hc, hmem⟩ := topCertainty_isOk fun c hc => (h c hc).1
  refine ⟨c, hc, ?_⟩
  rcases hmem with rfl | hmem
  · exact not_tooLarge_of_plain trivial
  · exact (h c hmem).2

/-- **When tagging succeeds**: the rows are analysed, tags can be joined, and certainties and numbers of tags
can stand in a column. -/
theorem tagFrame_isOk {analyses : List Analysis}
    (hanalyses : analyzeRows libraries today f.rows = .ok analyses) (hlength : analyses.length = f.height)
    (htags : ∀ a ∈ analyses, ∃ s, joinTags a.tags = .ok s)
    (hcounts : ∀ a ∈ analyses, ¬ (Datum.int a.tags.length).TooLarge)
    (hcertainties : ∀ a ∈ analyses, ∀ d ∈ a.matched, CertaintyFits d.certainty) :
    ∃ out, tagFrame f libraries today = .ok out := by
  obtain ⟨tags, hjoined⟩ := mapM_isOk htags
  have htop : ∀ a ∈ analyses, ∃ c, topCertainty (a.matched.map (·.certainty)) = .ok c ∧ ¬ c.TooLarge :=
    fun a ha => topCertainty_fits (List.forall_mem_map.mpr (hcertainties a ha))
  obtain ⟨certainties, hranked⟩ := mapM_isOk fun a ha => (htop a ha).imp fun c hc => hc.1
  have hsmall : ∀ c ∈ certainties, ¬ c.TooLarge := by
    refine (Outcome.mapM (Q := fun _ => True) fun a ha => ?_).value hranked
    obtain ⟨c, hc, hfit⟩ := htop a ha
    rw [hc]
    exact hfit
  have htexts : ∀ texts : List String, ∀ d ∈ texts.map Datum.text, ¬ d.TooLarge :=
    fun texts d hd => not_tooLarge_of_plain (isPlain_text texts d hd)
  have htagsLength := (mapM_eq_ok_iff.mp hjoined).length_eq
  have hrankedLength := (mapM_eq_ok_iff.mp hranked).length_eq
  obtain ⟨f', hfixed, hheight⟩ : ∃ f', addFixedColumns f (tags.map .text) (tagCounts analyses)
      ((idTexts analyses).map .text) certainties = .ok f' ∧ f'.height = f.height := by
    refine addFixedColumns_isOk ?_ ?_
    · simp only [List.forall_mem_cons, List.length_map, tagCounts, idTexts]
      exact ⟨htagsLength.symm.trans hlength, hlength, hlength, hrankedLength.symm.trans hlength,
        List.forall_mem_nil _⟩
    · simp only [List.forall_mem_cons]
      exact ⟨htexts _, List.forall_mem_map.mpr hcounts, htexts _, hsmall, List.forall_mem_nil _⟩
  obtain ⟨out, hout, -⟩ := addAttributeColumns_spec (attributeColumns libraries) (hlength.trans hheight.symm)
  exact ⟨out, tagFrame_eq_ok_iff.mpr
    ⟨analyses, hanalyses, tags, hjoined, certainties, hranked, f', hfixed, hout⟩⟩

end StatementTagging
