import StatementTagging.Proofs.Report.Extraction

set_option autoImplicit false

/-! # Reports on a tagged frame

A tagged frame holds the analyses of its rows as texts: tags joined in one cell, and values and checks spread
over columns, without those that are empty. The reports see nothing else, and they count what the analyses found
(`reports_count_analyses`), provided that tags are got back from their cell, that columns belong to one pair of
tags each, and that the given frame has no columns that look like checks.
-/

namespace StatementTagging

/-- A report shows what it should whenever it is made, and it is made if what it shows fits into a frame. -/
structure Reports (report : Except Fault Frame) (fits : Prop) (shows : Frame → Prop) : Prop where
  right : ∀ r, report = .ok r → shows r
  made : fits → ∃ r, report = .ok r

variable {f out : Frame} {analyses : List Analysis} {libraries : List Library} {today : String}

/-! ## Single reports -/

section Reports

variable (h : Tagged f out analyses (attributeColumns libraries))
  (hproper : ∀ a ∈ analyses, a.ProperlyTagged)

include h hproper

theorem Coverage.reports : ∃ lines, Coverage.Counts analyses lines
    ∧ Reports (Coverage.report out) (CountsFit f.height ∧ CountsFit lines.length) (Coverage.Shows · lines) := by
  obtain ⟨lines, hlines, hcounts⟩ := Coverage.lines_counts h hproper
  refine ⟨lines, hcounts, ?_⟩
  have hreport : Coverage.report out = Coverage.table lines := by
    rw [Coverage.report, hlines]
    rfl
  rw [hreport, ← h.length]
  exact ⟨fun r hr => Coverage.shows_of_table hr, fun ⟨hrows, hfit⟩ => Coverage.table_isOk hcounts hrows hfit⟩

theorem Untagged.reports (hmatched : ∀ a ∈ analyses, a.tags = a.matched.map (·.tag)) (field : String) :
    Reports (Untagged.report out field) (CountsFit f.height ∧ Untagged.Answered out field) fun r =>
      r.column? "Untagged_Count" = some [countDatum (analyses.countP (·.matched.isEmpty))] := by
  constructor
  · intro r hr
    obtain ⟨s, hs, hr⟩ := bind_eq_ok_iff.mp hr
    rw [Untagged.column?_table hr, (Untagged.summarize_untagged h hproper hmatched hs).2]
  · rintro ⟨hrows, hfield⟩
    obtain ⟨s, hs, htotal, huntagged, htop⟩ := Untagged.summarize_isOk h hproper hfield
    obtain ⟨r, hr⟩ := Untagged.table_isOk hrows htotal.le huntagged htop
    exact ⟨r, bind_eq_ok_iff.mpr ⟨s, hs, hr⟩⟩

theorem ExtractionReport.reports (hlabels : Labelled libraries)
    (hholds : ∀ tag name, HasPair libraries tag name → Holds out analyses tag name) :
    ∃ pairs, FirstOfEach pairOf pairs (attributesOf libraries)
      ∧ Reports (ExtractionReport.report out libraries)
          (CountsFit f.height ∧ ∀ p ∈ pairs, ¬ p.2.mandatory.TooLarge) (Shows · analyses pairs) := by
  refine ⟨_, firsts_spec pairOf (attributesOf libraries), ?_⟩
  rw [ExtractionReport.report, lines_eq h hproper hlabels hholds, ← h.length]
  exact ⟨fun r hr => shows_of_ofRecords hr, fun ⟨hrows, hmandatory⟩ => ofRecords_lines_isOk hrows hmandatory⟩

end Reports

/-! ## All reports -/

/-- Columns are told apart if they are for the attributes of the libraries. -/
theorem tellsApart_of_attributesOf {column : Datum → Datum → String}
    (h : ∀ p ∈ ExtractionReport.attributesOf libraries, ∀ q ∈ ExtractionReport.attributesOf libraries,
      column p.1 p.2.tag = column q.1 q.2.tag → ExtractionReport.pairOf p = ExtractionReport.pairOf q) :
    TellsApart libraries column := by
  have hfind : ∀ tag name, HasPair libraries tag name →
      ∃ a : Attribute, a.tag = .text name ∧ (.text tag, a) ∈ ExtractionReport.attributesOf libraries := by
    rintro tag name ⟨l, hl, d, hd, htag, a, ha, hname⟩
    exact ⟨a, hname, List.mem_flatMap.mpr
      ⟨d, List.mem_flatMap.mpr ⟨l, hl, hd⟩, List.mem_map.mpr ⟨a, ha, by rw [htag]⟩⟩⟩
  intro tag name tag' name' hpair hpair' hcolumn
  obtain ⟨a, hname, hmem⟩ := hfind tag name hpair
  obtain ⟨a', hname', hmem'⟩ := hfind tag' name' hpair'
  have heq := h _ hmem _ hmem' (by rw [hname, hname']; exact hcolumn)
  rw [ExtractionReport.pairOf, ExtractionReport.pairOf, hname, hname'] at heq
  exact Prod.mk.inj heq

/-- **The reports on a tagged frame count what the analyses of its rows found.** The coverage lists the tags,
each with the number of rows that carry it; rows without tags are those that nothing matched; and for each pair
of a tag and a name, once, the report on extracted values counts the rows with the tag, those among them with
a value, those without, and those with a failed check. -/
theorem reports_count_analyses (hfresh : ∀ column ∈ f.names, isCheckColumn column = false)
    (hproper : ProperTags libraries)
    (hnames : ∀ l ∈ libraries, ∀ d ∈ l.definitions, ∀ a ∈ d.attributes, a.tag.IsText)
    (hvalues : TellsApart libraries valueColumn) (hchecks : TellsApart libraries checkColumn)
    (h : tagFrame f libraries today = .ok out) :
    ∃ analyses, analyzeRows libraries today f.rows = .ok analyses
      ∧ (∃ lines, Coverage.Counts analyses lines
          ∧ Reports (Coverage.report out) (CountsFit f.height ∧ CountsFit lines.length)
              (Coverage.Shows · lines))
      ∧ (∀ field, Reports (Untagged.report out field) (CountsFit f.height ∧ Untagged.Answered out field)
          fun r => r.column? "Untagged_Count" = some [countDatum (analyses.countP (·.matched.isEmpty))])
      ∧ ∃ pairs, FirstOfEach ExtractionReport.pairOf pairs (ExtractionReport.attributesOf libraries)
          ∧ Reports (ExtractionReport.report out libraries)
              (CountsFit f.height ∧ ∀ p ∈ pairs, ¬ p.2.mandatory.TooLarge)
              (ExtractionReport.Shows · analyses pairs) := by
  obtain ⟨analyses, hanalyses, htagged⟩ := tagged_of_tagFrame h
  have hrun : ∀ a ∈ analyses, ∃ row, analyzeRow libraries today row = .ok a := by
    have heach := mapM_eq_ok_iff.mp hanalyses
    intro a ha
    obtain ⟨i, hi, rfl⟩ := List.mem_iff_getElem.mp ha
    exact ⟨_, heach.get (heach.length_eq ▸ hi) hi⟩
  have hlabels : Labelled libraries := by
    intro l hl d hd
    obtain ⟨t, ht, -⟩ := hproper l hl d hd
    exact ⟨⟨t, ht⟩, hnames l hl d hd⟩
  have hproperly : ∀ a ∈ analyses, a.ProperlyTagged := by
    intro a ha
    obtain ⟨row, hrow⟩ := hrun a ha
    exact properlyTagged_of_analyzeRow hproper hrow
  have hmatched : ∀ a ∈ analyses, a.tags = a.matched.map (·.tag) := by
    intro a ha
    obtain ⟨row, hrow⟩ := hrun a ha
    exact (tags_of_analyzeRow hrow).1
  refine ⟨analyses, hanalyses, Coverage.reports htagged hproperly,
    Untagged.reports htagged hproperly hmatched, ?_⟩
  exact ExtractionReport.reports htagged hproperly hlabels fun tag name hpair =>
    ExtractionReport.holds_of_tagged htagged hrun hlabels hvalues hchecks hfresh hpair

/-- One fee has a code, one has none, and a row is no fee. -/
theorem reports_count_analyses_missing_code :
    let f : Frame := ⟨3, [("Details", [.text "FEE 12", .text "FEE", .text "RENT"])]⟩
    let code : Attribute :=
      { tag := .text "Code", expression := { field := .text "Details", pattern := .text "([0-9]+)" }
        verify := .text "12", mandatory := .bool true }
    let libraries : List Library :=
      [{ definitions := [{ id := .text "1", tag := .text "Fee"
                           rules := [[{ field := .text "Details", pattern := .text "FEE" }]]
                           attributes := [code] }] }]
    ∃ out r, tagFrame f libraries "2024-06-01" = .ok out ∧ ExtractionReport.report out libraries = .ok r
      ∧ r.column? "Matched_Rows" = some [.int 2] ∧ r.column? "Mandatory_Missing" = some [.int 1]
      ∧ r.column? "Verification_Failed" = some [.int 1] := by
  intro f code libraries
  obtain ⟨out, hout⟩ : ∃ out, tagFrame f libraries "2024-06-01" = .ok out :=
    isOk_of_toOption (by decide +kernel)
  have hproper : ProperTags libraries :=
    List.forall_mem_singleton.mpr (List.forall_mem_singleton.mpr ⟨"Fee", rfl, by decide, by decide, by decide⟩)
  have hnames : ∀ l ∈ libraries, ∀ d ∈ l.definitions, ∀ a ∈ d.attributes, a.tag.IsText :=
    List.forall_mem_singleton.mpr (List.forall_mem_singleton.mpr (List.forall_mem_singleton.mpr ⟨"Code", rfl⟩))
  obtain ⟨analyses, hanalyses, -, -, pairs, hpairs, hreport⟩ := reports_count_analyses (f := f) (by decide)
    hproper hnames (tellsApart_of_attributesOf (by decide)) (tellsApart_of_attributesOf (by decide)) hout
  have hone : pairs = [(.text "Fee", code)] := by
    rcases List.sublist_singleton.mp hpairs.sublist with hnil | hone
    · have hmem := hpairs.each (.text "Fee", code) List.mem_cons_self
      rw [hnil] at hmem
      cases hmem
    · exact hone
  subst hone
  have hmandatory : ∀ p ∈ [(Datum.text "Fee", code)], ¬ p.2.mandatory.TooLarge :=
    List.forall_mem_singleton.mpr (not_tooLarge_of_plain trivial)
  obtain ⟨r, hr⟩ := hreport.made ⟨countsFit_of_lt (by decide), hmandatory⟩
  have hcounts : ((analyzeRows libraries "2024-06-01" f.rows).toOption.map fun analyses =>
      (ExtractionReport.matchedRows analyses "Fee", ExtractionReport.nullRows analyses "Fee" "Code",
        ExtractionReport.failedRows analyses "Fee" "Code")) = some (2, 1, 1) := by
    decide +kernel
  rw [hanalyses] at hcounts
  obtain ⟨hmatched, hrest⟩ := Prod.mk.inj (Option.some.inj hcounts)
  obtain ⟨hnull, hfailed⟩ := Prod.mk.inj hrest
  refine ⟨out, r, hout, hr, (hreport.right r hr).matched.trans ?_, (hreport.right r hr).missing.trans ?_,
    (hreport.right r hr).failed.trans ?_⟩
  · exact congrArg (fun n : Nat => some [Datum.int n]) hmatched
  · exact congrArg (fun n : Nat => some [Datum.int n]) hnull
  · exact congrArg (fun n : Nat => some [Datum.int n]) hfailed

end StatementTagging
