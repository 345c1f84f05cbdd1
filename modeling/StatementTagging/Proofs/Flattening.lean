import StatementTagging.Proofs.Cells

set_option autoImplicit false

/-! # Tables of values in columns

A tagged frame has the values and checks of an analysis in columns whose names are joined from two tags.
No value is without a column (`tame_tagFrame`), but pairs of tags may share one, such as `A` with `B__C` and
`A__B` with `C`, and then the value that is written last is the only one left. So a line shows all that its
analysis has just if pairs that share a column have one value (`tagFrame_shows_iff`). Tags in which the
separator does not occur do not share columns (`tellsApart_of_separable`).
-/

namespace StatementTagging

variable {α : Type} {libraries : List Library} {today : String} {row : Row} {a : Analysis}

/-! ## Pairs that share a column -/

/-- Pairs of tags that share a column have one value. -/
def TagTable.Agrees (column : Datum → Datum → String) (table : TagTable (TagTable α)) : Prop :=
  ∀ tag name v tag' name' v', table.within tag name = some v → table.within tag' name' = some v' →
    column (.text tag) (.text name) = column (.text tag') (.text name') → v = v'

section Shown

variable {column : Datum → Datum → String} {cell : α → Datum} {table : TagTable (TagTable α)}

/-- The line of the frame has every value of the table in the column of its pair. -/
def Frame.Shows (out : Frame) (i : Nat) (column : Datum → Datum → String) (cell : α → Datum)
    (table : TagTable (TagTable α)) : Prop :=
  ∀ tag name v, table.within tag name = some v →
    out.cell? (column (.text tag) (.text name)) i = some (cell v)

theorem shows_iff_agrees {out : Frame} {i : Nat} (h : a.Gives column cell table)
    (hcell : Function.Injective cell)
    (hthere : ∀ tag name v, table.within tag name = some v →
      out.cell? (column (.text tag) (.text name)) i = some (a.cell (column (.text tag) (.text name)))) :
    out.Shows i column cell table ↔ table.Agrees column := by
  constructor
  · intro hshows tag name v tag' name' v' hv hv' hcolumn
    have hv := hshows tag name v hv
    rw [hcolumn, hshows tag' name' v' hv'] at hv
    exact hcell (Option.some.inj hv.symm)
  · intro hagrees tag name v hv
    obtain ⟨tag', name', v', hv', hcolumn, hshown⟩ := h.exists_within hv
    rw [hthere tag name v hv, ← hshown, hagrees tag' name' v' tag name v hv' hv hcolumn]

end Shown

theorem injective_valueDatum : Function.Injective valueDatum := by
  intro v w h
  cases v <;> cases w <;> cases h <;> rfl

theorem injective_bool : Function.Injective Datum.bool := fun _ _ h => Datum.bool.inj h

/-! ## Tags without the separator -/

/-- The separator does not begin in the tag when it follows the tag. -/
def Separable (tag : String) : Prop := ¬ "__".toList <:+: tag.toList ++ ['_']

instance (tag : String) : Decidable (Separable tag) := inferInstanceAs (Decidable (¬ _))

/-- The first separator is the one after the first part. -/
theorem eq_nil_of_separator {s r t t' : List Char} (h : ¬ ['_', '_'] <:+: s ++ r ++ ['_'])
    (heq : '_' :: '_' :: t = r ++ '_' :: '_' :: t') : r = [] := by
  match r, heq with
  | [], _ => rfl
  | [c], heq =>
      obtain ⟨rfl, -⟩ := List.cons.inj heq
      exact absurd ⟨s, [], by simp⟩ h
  | c :: c' :: r, heq =>
      obtain ⟨rfl, htail⟩ := List.cons.inj heq
      obtain ⟨rfl, -⟩ := List.cons.inj htail
      exact absurd ⟨s, r ++ ['_'], by simp⟩ h

theorem eq_of_join_eq {front tag name tag' name' : String} (h : Separable tag) (h' : Separable tag')
    (heq : front ++ tag ++ "__" ++ name = front ++ tag' ++ "__" ++ name') : tag = tag' ∧ name = name' := by
  have hparts : tag.toList ++ ('_' :: '_' :: name.toList) = tag'.toList ++ ('_' :: '_' :: name'.toList) := by
    have hlists := congrArg String.toList heq
    simpa using hlists
  have htags : tag.toList = tag'.toList := by
    rcases List.append_eq_append_iff.mp hparts with ⟨r, hr, heq⟩ | ⟨r, hr, heq⟩
    · rw [Separable, hr] at h'
      rw [hr, eq_nil_of_separator h' heq, List.append_nil]
    · rw [Separable, hr] at h
      rw [hr, eq_nil_of_separator h heq, List.append_nil]
  rw [htags] at hparts
  have hnames := List.append_cancel_left hparts
  exact ⟨String.toList_inj.mp htags, String.toList_inj.mp (by simpa using hnames)⟩

/-- **Tags without the separator do not share columns.** -/
theorem tellsApart_of_separable (h : ∀ l ∈ libraries, ∀ d ∈ l.definitions, Separable d.tag.display) :
    TellsApart libraries valueColumn ∧ TellsApart libraries checkColumn := by
  have htag : ∀ {tag name}, HasPair libraries tag name → Separable tag := by
    rintro tag name ⟨l, hl, d, hd, htag, -⟩
    have hd := h l hl d hd
    rwa [htag] at hd
  exact ⟨fun _ _ _ _ hpair hpair' heq => eq_of_join_eq (htag hpair) (htag hpair') heq,
    fun _ _ _ _ hpair hpair' heq => eq_of_join_eq (htag hpair) (htag hpair') heq⟩

theorem agrees_of_tellsApart {table : TagTable (TagTable α)} (h : table.Nested (HasPair libraries))
    {column : Datum → Datum → String} (hapart : TellsApart libraries column) : table.Agrees column := by
  intro tag name v tag' name' v' hv hv' hcolumn
  obtain ⟨rfl, rfl⟩ := hapart tag name tag' name' (h.of_within hv) (h.of_within hv') hcolumn
  exact Option.some.inj (hv.symm.trans hv')

/-! ## Lines of a tagged frame -/

section Lines

variable {f out : Frame} {analyses : List Analysis}

/-- A column of values is never left out, and one of checks is not if it has a cell. -/
theorem not_isLeftOut {c : String} (ha : a ∈ analyses)
    (h : isCheckColumn c = true → (a.cell c).isNull = false) : ¬ IsLeftOut analyses c := by
  rintro ⟨hcheck, hnull⟩
  have hthere := h hcheck
  rw [hnull a ha] at hthere
  cases hthere

/-- The column of a check that was made has a cell. -/
theorem isNull_cell_checkColumn (h : a.Gives checkColumn .bool a.verified) {tag name : String} {v : Bool}
    (hv : a.verified.within tag name = some v) :
    (a.cell (checkColumn (.text tag) (.text name))).isNull = false := by
  obtain ⟨-, -, b, -, -, hcell⟩ := h.exists_within hv
  rw [← hcell]
  rfl

theorem Tagged.cell?_eq (h : Tagged f out analyses (attributeColumns libraries)) {i : Nat}
    (hi : i < analyses.length) {c : String} (hc : c ∈ attributeColumns libraries)
    (hleft : ¬ IsLeftOut analyses c) : out.cell? c i = some (analyses[i].cell c) := by
  rw [Frame.cell?, h.cells c hc, if_neg hleft, Option.bind_some, List.getElem?_map,
    List.getElem?_eq_getElem hi]
  rfl

/-- **What a line shows**: all values just if those agree that share a column, and so with checks. -/
theorem Tagged.shows_iff (h : Tagged f out analyses (attributeColumns libraries))
    (hlabels : Labelled libraries) (hanalyses : analyzeRows libraries today f.rows = .ok analyses) {i : Nat}
    (hi : i < analyses.length) :
    (out.Shows i valueColumn valueDatum analyses[i].attributes ↔ analyses[i].attributes.Agrees valueColumn)
      ∧ (out.Shows i checkColumn .bool analyses[i].verified ↔ analyses[i].verified.Agrees checkColumn) := by
  have ha : analyses[i] ∈ analyses := List.getElem_mem hi
  obtain ⟨row, -, hrow⟩ := exists_row_of_analyzeRows hanalyses ha
  obtain ⟨hattributes, hverified⟩ := nested_of_analyzeRow hlabels hrow
  obtain ⟨hvalues, hchecks⟩ := gives_of_analyzeRow hlabels hrow
  refine ⟨shows_iff_agrees hvalues injective_valueDatum fun tag name v hv => ?_,
    shows_iff_agrees hchecks injective_bool fun tag name v hv => ?_⟩
  · refine h.cell?_eq hi (mem_attributeColumns (hattributes.of_within hv)).1 ?_
    refine not_isLeftOut ha fun hcheck => ?_
    rw [isCheckColumn_valueColumn] at hcheck
    cases hcheck
  · refine h.cell?_eq hi (mem_attributeColumns (hverified.of_within hv)).2 ?_
    exact not_isLeftOut ha fun _ => isNull_cell_checkColumn hchecks hv

/-- **A column of checks is left out only if no check in it was made.** -/
theorem Tagged.column?_checks (h : Tagged f out analyses (attributeColumns libraries))
    (hlabels : Labelled libraries) (hanalyses : analyzeRows libraries today f.rows = .ok analyses)
    {c : String} (hc : c ∈ attributeColumns libraries) :
    out.column? c = some (analyses.map (·.cell c))
      ∨ ∀ a ∈ analyses, ∀ tag name v, a.verified.within tag name = some v →
          checkColumn (.text tag) (.text name) ≠ c := by
  rw [h.cells c hc]
  by_cases hleft : IsLeftOut analyses c
  · refine Or.inr ?_
    rintro a ha tag name v hv rfl
    obtain ⟨row, -, hrow⟩ := exists_row_of_analyzeRows hanalyses ha
    have hchecks := (gives_of_analyzeRow hlabels hrow).2
    exact not_isLeftOut ha (fun _ => isNull_cell_checkColumn hchecks hv) hleft
  · exact Or.inl (if_neg hleft)

end Lines

/-! ## Faults other than a missing column -/

/-- The fault is not about an entry that is missing. -/
def Fault.NotMissing (e : Fault) : Prop := ∀ key, e ≠ .missingEntry key

theorem Fault.notMissing_wrongType : Fault.wrongType.NotMissing := by
  rintro key ⟨⟩

theorem Fault.notMissing_numberTooLarge : Fault.numberTooLarge.NotMissing := by
  rintro key ⟨⟩

theorem Fault.notMissing_lengthMismatch (values height : Nat) :
    (Fault.lengthMismatch values height).NotMissing := by
  rintro key ⟨⟩

theorem tame_joinTags (tags : List Datum) : Tame Fault.NotMissing (joinTags tags) := by
  refine Outcome.bind (Outcome.mapM (R := fun _ => True) fun t _ => ?_) fun _ _ => trivial
  cases t with
  | text s => trivial
  | _ => exact Fault.notMissing_wrongType

theorem tame_scanColumn (s : ColumnScan) (values : List (Option Datum)) :
    Tame Fault.NotMissing (scanColumn s values) := by
  fun_induction scanColumn s values with
  | case1 s => trivial
  | case6 => exact Fault.notMissing_numberTooLarge
  | case8 => trivial
  | case10 => trivial
  | _ => assumption

theorem tame_withColumn (f : Frame) (name : String) (cells : List Datum) :
    Tame Fault.NotMissing (f.withColumn name cells) := by
  rw [Frame.withColumn]
  refine Outcome.ite (fun _ => Fault.notMissing_lengthMismatch _ _) fun _ => ?_
  refine Outcome.bind (P := fun _ => True) ?_ fun _ _ => trivial
  refine (tame_scanColumn {} _).bind fun s _ => ?_
  cases s <;> trivial

theorem tame_certaintyRank (c : Datum) : Tame Fault.NotMissing (certaintyRank c) := by
  refine Outcome.ite (fun _ => Fault.notMissing_wrongType) fun _ => ?_
  split <;> trivial

theorem tame_bestCertainty (best : Datum) (rank : Nat) (certainties : List Datum) :
    Tame Fault.NotMissing (bestCertainty best rank certainties) := by
  induction certainties generalizing best rank with
  | nil => trivial
  | cons c r ih => exact (tame_certaintyRank c).bind fun n _ => Outcome.ite (fun _ => ih c n) fun _ => ih best rank

theorem tame_topCertainty (certainties : List Datum) : Tame Fault.NotMissing (topCertainty certainties) := by
  cases certainties with
  | nil => trivial
  | cons c r => exact (tame_certaintyRank c).bind fun n _ => tame_bestCertainty c n r

theorem tame_addAttributeColumns (analyses : List Analysis) (f : Frame) (columns : List String) :
    Tame Fault.NotMissing (addAttributeColumns analyses f columns) := by
  induction columns generalizing f with
  | nil => trivial
  | cons c r ih =>
      rw [addAttributeColumns]
      exact Outcome.ite (fun _ => ih f) fun _ => (tame_withColumn f c _).bind fun f' _ => ih f'

section Faults

variable {f : Frame} {analyses : List Analysis}

/-- **Tagging never misses a column.** -/
theorem tame_tagFrame (hlabels : Labelled libraries)
    (hanalyses : analyzeRows libraries today f.rows = .ok analyses) :
    Tame Fault.NotMissing (tagFrame f libraries today) := by
  have hcolumns : analyses.forM (·.checkColumns (attributeColumns libraries)) = .ok () := by
    refine forM_eq_ok_iff.mpr fun a ha => ?_
    obtain ⟨row, -, hrow⟩ := exists_row_of_analyzeRows hanalyses ha
    exact checkColumns_of_analyzeRow hrow (isText_of_mem_tags hlabels hrow)
  refine Outcome.bind (P := (analyses = ·)) (by rw [hanalyses]; rfl) ?_
  rintro _ rfl
  refine Outcome.bind (Outcome.mapM (R := fun _ => True) fun a _ => tame_joinTags _) fun tags _ => ?_
  refine (tame_withColumn _ _ _).bind fun f₁ _ => (tame_withColumn _ _ _).bind fun f₂ _ => ?_
  refine (tame_withColumn _ _ _).bind fun f₃ _ => ?_
  refine Outcome.bind (Outcome.mapM (R := fun _ => True) fun a _ => tame_topCertainty _) fun certainties _ => ?_
  refine (tame_withColumn _ _ _).bind fun f₄ _ => ?_
  dsimp only
  rw [hcolumns]
  exact tame_addAttributeColumns analyses f₄ _

end Faults

/-! ## What a tagged frame shows -/

section Main

variable {f out : Frame} {analyses : List Analysis}

/-- **What a tagged frame shows of the tables of the analyses.** Tagging never misses a column. In the
frame that it gives, a line shows every value of its analysis just if the values agree that share a column,
and every check just if the checks agree; a column of checks is left out only if no row has a check in it.
The frame is given if each row has an analysis and certainties and numbers of tags can stand in a column. -/
theorem tagFrame_shows_iff (hlabels : Labelled libraries)
    (hanalyses : analyzeRows libraries today f.rows = .ok analyses) :
    (∀ key, tagFrame f libraries today ≠ .error (.missingEntry key))
      ∧ (∀ out, tagFrame f libraries today = .ok out →
          (∀ i (hi : i < analyses.length),
            (out.Shows i valueColumn valueDatum analyses[i].attributes
                ↔ analyses[i].attributes.Agrees valueColumn)
              ∧ (out.Shows i checkColumn .bool analyses[i].verified
                ↔ analyses[i].verified.Agrees checkColumn))
          ∧ ∀ column ∈ attributeColumns libraries, isCheckColumn column = true →
              out.column? column = some (analyses.map (·.cell column))
                ∨ ∀ a ∈ analyses, ∀ tag name v, a.verified.within tag name = some v →
                    checkColumn (.text tag) (.text name) ≠ column)
      ∧ (analyses.length = f.height → (∀ a ∈ analyses, ¬ (Datum.int a.tags.length).TooLarge) →
          (∀ a ∈ analyses, ∀ d ∈ a.matched, CertaintyFits d.certainty) →
          ∃ out, tagFrame f libraries today = .ok out) := by
  refine ⟨fun key herror => (tame_tagFrame hlabels hanalyses).fault herror key rfl, fun out hout => ?_, ?_⟩
  · obtain ⟨analyses', hanalyses', htagged⟩ := tagged_of_tagFrame hout
    obtain rfl := Except.ok.inj (hanalyses.symm.trans hanalyses')
    exact ⟨fun i hi => htagged.shows_iff hlabels hanalyses hi,
      fun column hcolumn _ => htagged.column?_checks hlabels hanalyses hcolumn⟩
  · intro hlength hcounts hcertainties
    refine tagFrame_isOk hanalyses hlength (fun a ha => ?_) hcounts hcertainties
    obtain ⟨row, -, hrow⟩ := exists_row_of_analyzeRows hanalyses ha
    exact joinTags_isOk (isText_of_mem_tags hlabels hrow)

/-- Both tags take the number of a reference, and it stands in the one column that they share. -/
theorem tagFrame_shows_iff_shared :
    let f : Frame := ⟨1, [("Details", [.text "REF 12"])]⟩
    let number (name pattern : String) : Attribute :=
      { tag := .text name, expression := { field := .text "Details", pattern := .text pattern } }
    let libraries : List Library :=
      [{ definitions :=
          [{ id := .text "1", tag := .text "A", attributes := [number "B__C" "([0-9]+)"] },
            { id := .text "2", tag := .text "A__B", attributes := [number "C" "REF ([0-9]+)"] }] }]
    Labelled libraries ∧ ∃ a out, analyzeRows libraries "2024-06-01" f.rows = .ok [a]
      ∧ tagFrame f libraries "2024-06-01" = .ok out ∧ out.Shows 0 valueColumn valueDatum a.attributes := by
  intro f number libraries
  have hlabels : Labelled libraries := by
    refine List.forall_mem_singleton.mpr (List.forall_mem_cons.mpr ⟨?_, List.forall_mem_singleton.mpr ?_⟩)
    · exact ⟨⟨"A", rfl⟩, List.forall_mem_singleton.mpr ⟨"B__C", rfl⟩⟩
    · exact ⟨⟨"A__B", rfl⟩, List.forall_mem_singleton.mpr ⟨"C", rfl⟩⟩
  obtain ⟨a, ha⟩ : ∃ a, analyzeRow libraries "2024-06-01" [("Details", .text "REF 12")] = .ok a :=
    isOk_of_toOption (by decide +kernel)
  have hanalyses : analyzeRows libraries "2024-06-01" f.rows = .ok [a] := mapM_eq_ok_iff.mpr (.cons ha .nil)
  obtain ⟨out, hout⟩ : ∃ out, tagFrame f libraries "2024-06-01" = .ok out :=
    isOk_of_toOption (by decide +kernel)
  have hvalues : (analyzeRow libraries "2024-06-01" [("Details", .text "REF 12")]).toOption.map
      (fun a => a.attributes.all fun e => e.2.all fun x => x.2 == some "12") = some true := by
    decide +kernel
  rw [ha] at hvalues
  have hagrees : a.attributes.Agrees valueColumn := by
    have hall : ∀ tag name v, a.attributes.within tag name = some v → v = some "12" := by
      intro tag name v hv
      obtain ⟨inner, hinner, hname⟩ := (nested_of_analyzeRow hlabels ha).1.mem_of_within hv
      have hin := List.all_eq_true.mp (List.all_eq_true.mp (Option.some.inj hvalues) _ hinner) _ hname
      exact beq_iff_eq.mp hin
    intro tag name v tag' name' v' hv hv' _
    rw [hall tag name v hv, hall tag' name' v' hv']
  have hlines := ((tagFrame_shows_iff hlabels hanalyses).2.1 out hout).1
  exact ⟨hlabels, a, out, hanalyses, hout, ((hlines 0 Nat.zero_lt_one).1).mpr hagrees⟩

/-- The second tag finds no reference, and its null takes the place of the number that the first has. -/
theorem shared_column_loses_value :
    let f : Frame := ⟨1, [("Details", [.text "FEE 12"])]⟩
    let number (name pattern : String) : Attribute :=
      { tag := .text name, expression := { field := .text "Details", pattern := .text pattern } }
    let libraries : List Library :=
      [{ definitions :=
          [{ id := .text "1", tag := .text "A", attributes := [number "B__C" "([0-9]+)"] },
            { id := .text "2", tag := .text "A__B", attributes := [number "C" "REF ([0-9]+)"] }] }]
    (tagFrame f libraries "2024-06-01").toOption.bind
        (fun out => (out.cell? (valueColumn (.text "A") (.text "B__C")) 0).map Datum.isNull) = some true
      ∧ (analyzeRows libraries "2024-06-01" f.rows).toOption.map
        (fun analyses => analyses.map fun a => a.attributes.within "A" "B__C") = some [some (some "12")] := by
  decide +kernel

/-- **Nothing is lost** if no tag has the separator in it. -/
theorem tagFrame_shows_of_separable (hlabels : Labelled libraries)
    (hseparable : ∀ l ∈ libraries, ∀ d ∈ l.definitions, Separable d.tag.display)
    (h : tagFrame f libraries today = .ok out) :
    ∃ analyses, analyzeRows libraries today f.rows = .ok analyses ∧ ∀ i (hi : i < analyses.length),
      out.Shows i valueColumn valueDatum analyses[i].attributes
        ∧ out.Shows i checkColumn .bool analyses[i].verified := by
  obtain ⟨hvalues, hchecks⟩ := tellsApart_of_separable hseparable
  obtain ⟨analyses, hanalyses, htagged⟩ := tagged_of_tagFrame h
  refine ⟨analyses, hanalyses, fun i hi => ?_⟩
  obtain ⟨row, -, hrow⟩ := exists_row_of_analyzeRows hanalyses (List.getElem_mem hi)
  obtain ⟨hattributes, hverified⟩ := nested_of_analyzeRow hlabels hrow
  obtain ⟨hshows, hshows'⟩ := htagged.shows_iff hlabels hanalyses hi
  exact ⟨hshows.mpr (agrees_of_tellsApart hattributes hvalues),
    hshows'.mpr (agrees_of_tellsApart hverified hchecks)⟩

end Main

end StatementTagging
