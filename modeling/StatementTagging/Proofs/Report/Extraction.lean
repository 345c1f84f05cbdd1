import StatementTagging.Proofs.Cells
import StatementTagging.Proofs.Report.Coverage
import StatementTagging.Report.Extraction

set_option autoImplicit false

/-! # What the report on extracted values counts

The report has a line for each pair of a tag and a name of an attribute, with the first attribute that has the
pair (`linesFrom_eq`, `firsts_spec`). On a tagged frame, the numbers in the line are those of the analysed rows
with the tag, with a value for the attribute, without one, and with a check of it that failed (`line_eq`).
-/

namespace StatementTagging

/-! ## The first of each kind -/

section Firsts

variable {α κ : Type} [DecidableEq κ]

/-- The items of a list whose keys have not been seen, the first one for each key. -/
def firsts (key : α → κ) : List κ → List α → List α
  | _, [] => []
  | seen, a :: r => if key a ∈ seen then firsts key seen r else a :: firsts key (key a :: seen) r

/-- One list has the first item of each key in the other, in the same order. -/
structure FirstOfEach (key : α → κ) (firsts all : List α) : Prop where
  sublist : firsts.Sublist all
  once : (firsts.map key).Nodup
  each : ∀ a ∈ all, key a ∈ firsts.map key
  first : ∀ a ∈ firsts, all.find? (fun b => key b = key a) = some a

theorem firsts_spec_of_seen (key : α → κ) (seen : List κ) (all : List α) :
    (firsts key seen all).Sublist all
      ∧ ((firsts key seen all).map key).Nodup
      ∧ (∀ a ∈ all, key a ∈ seen ∨ key a ∈ (firsts key seen all).map key)
      ∧ ∀ a ∈ firsts key seen all, key a ∉ seen ∧ all.find? (fun b => key b = key a) = some a := by
  induction all generalizing seen with
  | nil => exact ⟨.slnil, List.nodup_nil, List.forall_mem_nil _, List.forall_mem_nil _⟩
  | cons a r ih =>
      rw [firsts]
      by_cases hseen : key a ∈ seen
      · obtain ⟨hsublist, honce, heach, hfirst⟩ := ih seen
        rw [if_pos hseen]
        refine ⟨hsublist.cons a, honce, List.forall_mem_cons.mpr ⟨Or.inl hseen, heach⟩, fun b hb => ?_⟩
        obtain ⟨hnew, hfind⟩ := hfirst b hb
        have hne : key a ≠ key b := fun heq => hnew (heq ▸ hseen)
        exact ⟨hnew, by rw [List.find?_cons_of_neg (by simpa using hne), hfind]⟩
      · -- the item is kept, and its key counts as seen from here on
        obtain ⟨hsublist, honce, heach, hfirst⟩ := ih (key a :: seen)
        rw [if_neg hseen, List.map_cons]
        refine ⟨hsublist.cons_cons a, List.nodup_cons.mpr ⟨?_, honce⟩, fun b hb => ?_, fun b hb => ?_⟩
        · intro hmem
          obtain ⟨b, hb, heq⟩ := List.mem_map.mp hmem
          exact (hfirst b hb).1 (heq ▸ List.mem_cons_self)
        · rw [List.mem_cons]
          rcases List.mem_cons.mp hb with rfl | hb
          · exact Or.inr (Or.inl rfl)
          · have hr := heach b hb
            rw [List.mem_cons] at hr
            tauto
        · rcases List.mem_cons.mp hb with rfl | hb
          · exact ⟨hseen, List.find?_cons_of_pos (by simp)⟩
          · obtain ⟨hnew, hfind⟩ := hfirst b hb
            rw [List.mem_cons, not_or] at hnew
            exact ⟨hnew.2, by rw [List.find?_cons_of_neg (by simpa using Ne.symm hnew.1), hfind]⟩

theorem firsts_spec (key : α → κ) (all : List α) : FirstOfEach key (firsts key [] all) all := by
  obtain ⟨hsublist, honce, heach, hfirst⟩ := firsts_spec_of_seen key [] all
  exact ⟨hsublist, honce, fun a ha => (heach a ha).resolve_left List.not_mem_nil, fun a ha => (hfirst a ha).2⟩

end Firsts

namespace ExtractionReport

/-! ## Pairs of tags -/

/-- The texts of the tags of a definition and of its attribute. -/
def pairOf (p : Datum × Attribute) : String × String := (p.1.display, p.2.tag.display)

/-- Both tags are texts. -/
def IsLabelled (p : Datum × Attribute) : Prop := p.1.IsText ∧ p.2.tag.IsText

theorem isLabelled_of_mem {libraries : List Library} (h : Labelled libraries) :
    ∀ p ∈ attributesOf libraries, IsLabelled p := by
  intro p hp
  obtain ⟨d, hd, hp⟩ := List.mem_flatMap.mp hp
  obtain ⟨l, hl, hd⟩ := List.mem_flatMap.mp hd
  obtain ⟨a, ha, rfl⟩ := List.mem_map.mp hp
  obtain ⟨htag, hnames⟩ := h l hl d hd
  exact ⟨htag, hnames a ha⟩

theorem hasPair_of_mem {libraries : List Library} {p : Datum × Attribute} (hlabelled : IsLabelled p)
    (hp : p ∈ attributesOf libraries) : HasPair libraries (pairOf p).1 (pairOf p).2 := by
  obtain ⟨⟨tag, htag⟩, name, hname⟩ := hlabelled
  obtain ⟨d, hd, hp⟩ := List.mem_flatMap.mp hp
  obtain ⟨l, hl, hd⟩ := List.mem_flatMap.mp hd
  obtain ⟨a, ha, rfl⟩ := List.mem_map.mp hp
  dsimp only at htag hname
  rw [pairOf, htag, hname]
  exact ⟨l, hl, d, hd, htag, a, ha, hname⟩

/-- The data of a pair of texts. -/
def asData (k : String × String) : Datum × Datum := (.text k.1, .text k.2)

theorem isSeen_texts (tag name : String) (seen : List (String × String)) :
    isSeen (.text tag) (.text name) (seen.map asData) = .ok (decide ((tag, name) ∈ seen)) := by
  show Except.ok ((seen.map asData).any _) = _
  congr 1
  rw [Bool.eq_iff_iff, List.any_map, List.any_eq_true, decide_eq_true_iff]
  constructor
  · rintro ⟨⟨t, n⟩, hmem, heq⟩
    obtain ⟨ht, hn⟩ := (Bool.and_eq_true _ _).mp heq
    obtain rfl := (same_text_iff _ _).mp ht
    obtain rfl := (same_text_iff _ _).mp hn
    exact hmem
  · intro hmem
    refine ⟨(tag, name), hmem, (Bool.and_eq_true _ _).mpr ⟨?_, ?_⟩⟩
    · exact (same_text_iff _ _).mpr rfl
    · exact (same_text_iff _ _).mpr rfl

/-- **There is a line for each pair of tags**, that of the first attribute with the pair. -/
theorem linesFrom_eq (f : Frame) (tags : Except Fault (List (List String))) {all : List (Datum × Attribute)}
    (h : ∀ p ∈ all, IsLabelled p) (seen : List (String × String)) :
    linesFrom f tags (seen.map asData) all
      = (firsts pairOf seen all).mapM fun p => line f tags p.1 p.2 := by
  induction all generalizing seen with
  | nil => rfl
  | cons p r ih =>
      obtain ⟨⟨⟨tag, htag⟩, name, hname⟩, hr⟩ := List.forall_mem_cons.mp h
      obtain ⟨t, a⟩ := p
      dsimp only at htag hname
      subst htag
      have hpair : pairOf (.text tag, a) = (tag, name) := by rw [pairOf, hname]; rfl
      rw [linesFrom, firsts, hname, isSeen_texts, hpair]
      by_cases hseen : (tag, name) ∈ seen
      · rw [if_pos hseen, ← ih hr seen]
        simp only [hseen, decide_true]
        rfl
      · rw [if_neg hseen, List.mapM_cons, ← ih hr ((tag, name) :: seen)]
        simp only [hseen, decide_false]
        rfl

end ExtractionReport

/-! ## What the analyses say of a pair -/

/-- The analysis has a text other than blanks for the attribute. -/
def Analysis.hasValue (a : Analysis) (tag name : String) : Bool :=
  match a.attributes.within tag name with
  | some (some v) => !(Text.strip v.toList).isEmpty
  | _ => false

/-- The check of the attribute failed. -/
def Analysis.failsCheck (a : Analysis) (tag name : String) : Bool := a.verified.within tag name == some false

namespace ExtractionReport

section Numbers

variable (analyses : List Analysis) (tag name : String)

/-- The rows that carry the tag. -/
def matchedRows : Nat := analyses.countP (·.Carries tag)

/-- The rows with the tag that have a value for the attribute. -/
def extractedRows : Nat := analyses.countP fun a => a.Carries tag ∧ a.hasValue tag name = true

/-- The rows with the tag that have none. -/
def nullRows : Nat := analyses.countP fun a => a.Carries tag ∧ ¬ a.hasValue tag name = true

/-- The rows with the tag for which the check of the attribute failed. -/
def failedRows : Nat := analyses.countP fun a => a.Carries tag ∧ a.failsCheck tag name = true

theorem extractedRows_add_nullRows :
    extractedRows analyses tag name + nullRows analyses tag name = matchedRows analyses tag := by
  rw [matchedRows, List.countP_eq_countP_filter_add analyses _ (·.hasValue tag name), List.countP_filter,
    List.countP_filter, extractedRows, nullRows]
  simp

end Numbers

/-! ## Cells -/

theorem isBlankCell_value (a : Analysis) (tag name : String) :
    isBlankCell (((a.attributes.within tag name).map valueDatum).getD .null) = .ok (!a.hasValue tag name) := by
  rw [Analysis.hasValue]
  cases a.attributes.within tag name with
  | none => rfl
  | some v =>
      cases v with
      | none => rfl
      | some v =>
          rw [Bool.not_not]
          rfl

theorem isFailedCell_check (a : Analysis) (tag name : String) :
    isFailedCell (((a.verified.within tag name).map .bool).getD .null) = .ok (a.failsCheck tag name) := by
  rw [Analysis.failsCheck]
  cases a.verified.within tag name with
  | none => rfl
  | some b => cases b <;> rfl

/-! ## Counting in columns -/

variable {out : Frame} {analyses : List Analysis} {libraries : List Library} {tag name : String}

/-- The rows of a frame that carry a tag. -/
def rowsWith (out : Frame) (analyses : List Analysis) (tag : String) : Frame :=
  out.keep (analyses.map fun a => decide (a.Carries tag))

theorem height_rowsWith : (rowsWith out analyses tag).height = matchedRows analyses tag :=
  Frame.height_keep analyses _ out

theorem rowsWith_eq (hproper : ∀ a ∈ analyses, a.ProperlyTagged) :
    out.keep ((analyses.map (·.tagTexts)).map (carries (.text tag))) = rowsWith out analyses tag := by
  rw [rowsWith, List.map_map]
  congr 1
  refine List.map_congr_left fun a ha => ?_
  show a.tagTexts.contains tag = _
  rw [List.contains_eq_mem, decide_eq_decide, carries_iff (hproper a ha)]

theorem countCells_rowsWith {column : String} {value : Analysis → Datum}
    (hcolumn : out.column? column = some (analyses.map value)) {test : Datum → Except Fault Bool}
    {passes : Analysis → Bool} (htest : ∀ a, test (value a) = .ok (passes a)) :
    countCells (rowsWith out analyses tag) column test
      = .ok (some (analyses.countP fun a => a.Carries tag ∧ passes a = true)) := by
  let carriers := analyses.filter fun a => a.Carries tag
  have hpassed : (carriers.map value).mapM test = .ok (carriers.map passes) := mapM_map htest carriers
  rw [countCells, rowsWith, Frame.column?_keep, hcolumn, Option.map_some, Frame.kept_map]
  refine (congrArg (· >>= _) hpassed).trans (congrArg (fun n => Except.ok (some n)) ?_)
  rw [List.count, List.countP_map, List.countP_filter]
  exact List.countP_congr fun a _ => by simp [and_comm]

/-- The columns of a pair hold what the analyses have for it; a column of checks may be absent if there are
none. -/
structure Holds (out : Frame) (analyses : List Analysis) (tag name : String) : Prop where
  value : out.column? (valueColumn (.text tag) (.text name))
    = some (analyses.map fun a => ((a.attributes.within tag name).map valueDatum).getD .null)
  check : out.column? (checkColumn (.text tag) (.text name))
      = some (analyses.map fun a => ((a.verified.within tag name).map .bool).getD .null)
    ∨ out.column? (checkColumn (.text tag) (.text name)) = none
      ∧ ∀ a ∈ analyses, a.verified.within tag name = none

theorem Holds.countCells_value (h : Holds out analyses tag name) :
    countCells (rowsWith out analyses tag) (valueColumn (.text tag) (.text name)) isBlankCell
      = .ok (some (nullRows analyses tag name)) := by
  rw [countCells_rowsWith h.value fun a => isBlankCell_value a tag name]
  congr 2
  exact List.countP_congr fun a _ => by simp

theorem Holds.countCells_check (h : Holds out analyses tag name) :
    ∃ failed, countCells (rowsWith out analyses tag) (checkColumn (.text tag) (.text name)) isFailedCell
        = .ok failed ∧ failed.getD 0 = failedRows analyses tag name := by
  rcases h.check with hcolumn | ⟨hnone, hnever⟩
  · exact ⟨_, countCells_rowsWith hcolumn fun a => isFailedCell_check a tag name, rfl⟩
  · refine ⟨none, by rw [countCells, rowsWith, Frame.column?_keep, hnone]; rfl, ?_⟩
    refine (List.countP_eq_zero.mpr fun a ha => ?_).symm
    rw [Analysis.failsCheck, hnever a ha]
    simp

/-! ## One line -/

/-- The line of an attribute with the numbers that the analyses give. -/
def lineOf (analyses : List Analysis) (tag name : String) (mandatory : Datum) : Row :=
  let matched := matchedRows analyses tag
  let extracted := extractedRows analyses tag name
  let missing := nullRows analyses tag name
  let part := if matched = 0 then 0 else share extracted matched
  [("Tag", .text tag), ("Attribute", .text name), ("Is_Mandatory", mandatory),
   ("Matched_Rows", countDatum matched), ("Extracted", countDatum extracted), ("Null", countDatum missing),
   ("Extraction_Pct", .float (roundPlaces (part * 100) 2)),
   ("Mandatory_Missing", countDatum (if mandatory.truthy then missing else 0)),
   ("Verification_Failed", countDatum (failedRows analyses tag name))]

/-- **The line of a pair counts what the analyses have for it.** -/
theorem line_eq (hproper : ∀ a ∈ analyses, a.ProperlyTagged) (h : Holds out analyses tag name) {a : Attribute}
    (ha : a.tag = .text name) : line out (.ok (analyses.map (·.tagTexts))) (.text tag) a
      = .ok (lineOf analyses tag name a.mandatory) := by
  obtain ⟨failed, hfailed, hcount⟩ := h.countCells_check
  have hextracted : matchedRows analyses tag - nullRows analyses tag name = extractedRows analyses tag name := by
    rw [← extractedRows_add_nullRows analyses tag name, Nat.add_sub_cancel]
  rw [line, ha]
  refine bind_eq_ok_iff.mpr ⟨_, rfl, ?_⟩
  rw [rowsWith_eq hproper]
  refine bind_eq_ok_iff.mpr ⟨_, h.countCells_value, bind_eq_ok_iff.mpr ⟨failed, hfailed, ?_⟩⟩
  rw [height_rowsWith, hcount, Option.getD_some, lineOf, ← hextracted]
  rfl

theorem column?_checkColumn_eq_none {f : Frame} (hfresh : ∀ column ∈ f.names, isCheckColumn column = false)
    (tag name : Datum) : f.column? (checkColumn tag name) = none := by
  rw [Frame.column?, List.lookup_eq_none_iff]
  intro e he
  rw [bne_iff_ne]
  intro heq
  have hnot := hfresh e.1 (List.mem_map_of_mem he)
  rw [← heq, isCheckColumn_checkColumn] at hnot
  cases hnot

/-- The columns of a tagged frame hold what the analyses have. -/
theorem holds_of_tagged {f : Frame} {today : String} (h : Tagged f out analyses (attributeColumns libraries))
    (hrun : ∀ a ∈ analyses, ∃ row, analyzeRow libraries today row = .ok a) (hlabels : Labelled libraries)
    (hvalues : TellsApart libraries valueColumn) (hchecks : TellsApart libraries checkColumn)
    (hfresh : ∀ column ∈ f.names, isCheckColumn column = false) (hpair : HasPair libraries tag name) :
    Holds out analyses tag name := by
  have hvalue : ∀ a ∈ analyses, a.cell (valueColumn (.text tag) (.text name))
      = ((a.attributes.within tag name).map valueDatum).getD .null := by
    intro a ha
    obtain ⟨row, hrow⟩ := hrun a ha
    exact cell_valueColumn hlabels hrow hvalues hpair
  have hcheck : ∀ a ∈ analyses, a.cell (checkColumn (.text tag) (.text name))
      = ((a.verified.within tag name).map .bool).getD .null := by
    intro a ha
    obtain ⟨row, hrow⟩ := hrun a ha
    exact cell_checkColumn hlabels hrow hchecks hpair
  obtain ⟨hvalueColumn, hcheckColumn⟩ := mem_attributeColumns hpair
  refine ⟨?_, ?_⟩
  · rw [h.cells _ hvalueColumn, if_neg fun hout => ?_, List.map_congr_left hvalue]
    rw [IsLeftOut, isCheckColumn_valueColumn] at hout
    cases hout.1
  · rw [h.cells _ hcheckColumn]
    by_cases hout : IsLeftOut analyses (checkColumn (.text tag) (.text name))
    · -- no check was made, and the given frame has no such column
      rw [if_pos hout]
      refine Or.inr ⟨column?_checkColumn_eq_none hfresh _ _, fun a ha => ?_⟩
      have hnull := hout.2 a ha
      rw [hcheck a ha] at hnull
      cases hwithin : a.verified.within tag name with
      | none => rfl
      | some b =>
          rw [hwithin] at hnull
          cases hnull
    · rw [if_neg hout, List.map_congr_left hcheck]
      exact Or.inl rfl

/-! ## The report -/

/-- The line of the attribute in a pair. -/
def lineOfPair (analyses : List Analysis) (p : Datum × Attribute) : Row :=
  lineOf analyses (pairOf p).1 (pairOf p).2 p.2.mandatory

/-- **The lines of the report on a tagged frame.** -/
theorem lines_eq {f : Frame} {columns : List String} (h : Tagged f out analyses columns)
    (hproper : ∀ a ∈ analyses, a.ProperlyTagged) (hlabels : Labelled libraries)
    (hholds : ∀ tag name, HasPair libraries tag name → Holds out analyses tag name) :
    linesFrom out (rowTags out) [] (attributesOf libraries)
      = .ok ((firsts pairOf [] (attributesOf libraries)).map (lineOfPair analyses)) := by
  rw [rowTags_eq h hproper]
  refine (linesFrom_eq out _ (isLabelled_of_mem hlabels) []).trans (mapM_eq_map fun p hp => ?_)
  have hmem := (firsts_spec pairOf (attributesOf libraries)).sublist.subset hp
  have hlabelled := isLabelled_of_mem hlabels p hmem
  have hpair := hasPair_of_mem hlabelled hmem
  obtain ⟨⟨tag, htag⟩, name, hname⟩ := hlabelled
  have hkey : pairOf p = (tag, name) := by
    rw [pairOf, htag, hname]
    rfl
  rw [hkey] at hpair
  rw [lineOfPair, hkey, htag]
  exact line_eq hproper (hholds tag name hpair) hname

/-- The frame shows the numbers of the analyses for the pairs. -/
structure Shows (r : Frame) (analyses : List Analysis) (pairs : List (Datum × Attribute)) : Prop where
  height : r.height = pairs.length
  tag : r.column? "Tag" = some (pairs.map fun p => .text (pairOf p).1)
  name : r.column? "Attribute" = some (pairs.map fun p => .text (pairOf p).2)
  matched : r.column? "Matched_Rows" = some (pairs.map fun p =>
    countDatum (matchedRows analyses (pairOf p).1))
  extracted : r.column? "Extracted" = some (pairs.map fun p =>
    countDatum (extractedRows analyses (pairOf p).1 (pairOf p).2))
  null : r.column? "Null" = some (pairs.map fun p =>
    countDatum (nullRows analyses (pairOf p).1 (pairOf p).2))
  missing : r.column? "Mandatory_Missing" = some (pairs.map fun p =>
    countDatum (if p.2.mandatory.truthy then nullRows analyses (pairOf p).1 (pairOf p).2 else 0))
  failed : r.column? "Verification_Failed" = some (pairs.map fun p =>
    countDatum (failedRows analyses (pairOf p).1 (pairOf p).2))

theorem shows_of_ofRecords {pairs : List (Datum × Attribute)} {r : Frame}
    (h : Frame.ofRecords columns (pairs.map (lineOfPair analyses)) = .ok r) : Shows r analyses pairs where
  height := (Frame.height_ofRecords h).trans (List.length_map _)
  tag := Frame.column?_plain h (by simp [columns]) _ (fun _ => rfl) fun _ _ => trivial
  name := Frame.column?_plain h (by simp [columns]) _ (fun _ => rfl) fun _ _ => trivial
  matched := Frame.column?_ints h (by simp [columns]) _ fun _ => rfl
  extracted := Frame.column?_ints h (by simp [columns]) _ fun _ => rfl
  null := Frame.column?_ints h (by simp [columns]) _ fun _ => rfl
  missing := Frame.column?_ints h (by simp [columns]) _ fun _ => rfl
  failed := Frame.column?_ints h (by simp [columns]) _ fun _ => rfl

theorem ofRecords_lines_isOk {pairs : List (Datum × Attribute)}
    (hfits : CountsFit analyses.length) (hmandatory : ∀ p ∈ pairs, ¬ p.2.mandatory.TooLarge) :
    ∃ r, Frame.ofRecords columns (pairs.map (lineOfPair analyses)) = .ok r := by
  refine Frame.ofRecords_isOk _ (List.forall_mem_map.mpr fun p hp => ?_)
  have hmissing : (if p.2.mandatory.truthy then nullRows analyses (pairOf p).1 (pairOf p).2 else 0)
      ≤ analyses.length := by
    split
    · exact List.countP_le_length
    · exact Nat.zero_le _
  simp only [lineOfPair, lineOf, List.forall_mem_cons]
  exact ⟨not_tooLarge_of_plain trivial, not_tooLarge_of_plain trivial, hmandatory p hp,
    hfits _ List.countP_le_length, hfits _ List.countP_le_length, hfits _ List.countP_le_length,
    not_tooLarge_float _, hfits _ hmissing, hfits _ List.countP_le_length, List.forall_mem_nil _⟩

end ExtractionReport

end StatementTagging
