import StatementTagging.Proofs.Report.Diagnostics
import StatementTagging.Proofs.Report.Storing
import StatementTagging.Proofs.Rule.Evaluation

set_option autoImplicit false

/-! # Fields in the catalog of rules

Each line of the catalog for a test or an attribute says whether the data has the field that it looks at. The
answer is not taken from the columns of the data but from the fields that are shown of its rows
(`mem_knownFields_iff`). It is right for every field except two kinds (`mem_knownFields_iff_mem_names_iff`):
a column that is never shown counts as absent, and the preferred name of the field that identifies rows counts
as present where no column can identify them. So it is with every line of the report (`report_marks_fields`)
and with the fields that a reader is warned of (`mem_absentFields_iff`).
-/

namespace StatementTagging

namespace Frame

variable {f : Frame}

/-- Every row has all columns of the frame for its fields. -/
theorem mem_fieldNames_rows_iff (hcolumns : f.columns ≠ []) (hrows : 0 < f.height) (name : String) :
    name ∈ fieldNames f.rows ↔ name ∈ f.names := by
  rw [fieldNames_rows, if_neg hcolumns]
  simp [hrows.ne']

end Frame

namespace Catalog

variable {f : Frame}

/-! ## Known fields -/

/-- The frame has the column, but it is one that is never shown. -/
def Hides (f : Frame) (field : String) : Prop := field ∈ f.names ∧ field ∈ skippedFields

/-- The field would be the one that identifies rows, but the frame has no column that could. -/
def Supposes (f : Frame) (field : String) : Prop := field = "_id" ∧ ∀ c ∈ identifierCandidates, c ∉ f.names

section Known

variable (h : f.IsScalar) (hcolumns : f.columns ≠ []) (hrows : 0 < f.height) (field : String)

include h hcolumns hrows

theorem mem_knownFields_iff :
    field ∈ knownFields f ↔ (field ∈ f.names ∧ field ∉ skippedFields) ∨ Supposes f field := by
  have hnames := Frame.mem_fieldNames_rows_iff hcolumns hrows
  have hshown : ∀ c ∈ identifierCandidates, c ∉ skippedFields := by decide
  rw [knownFields, List.mem_cons, mem_dataFields_iff, Frame.compoundNames_rows h, hnames, Supposes]
  rcases eq_or_ne field (FieldMeta.ofRows f.rows).identifier with rfl | hne
  · refine iff_of_true (Or.inl rfl) ?_
    rcases identifier_cases f.rows with ⟨hcandidate, hthere⟩ | ⟨hid, hnone⟩
    · exact Or.inl ⟨(hnames _).mp hthere, hshown _ hcandidate⟩
    · exact Or.inr ⟨hid, fun c hc => mt (hnames c).mpr (hnone c hc)⟩
  · -- a supposed name is that of the identifier
    have hnot : ¬ (field = "_id" ∧ ∀ c ∈ identifierCandidates, c ∉ f.names) := by
      rintro ⟨rfl, hnone⟩
      rcases identifier_cases f.rows with ⟨hcandidate, hthere⟩ | ⟨hid, -⟩
      · exact hnone _ hcandidate ((hnames _).mp hthere)
      · exact hne hid.symm
    rw [or_iff_right hne, or_iff_left hnot]
    constructor
    · rintro ⟨hfield, hskipped, -⟩
      exact ⟨hfield, hskipped⟩
    · rintro ⟨hfield, hskipped⟩
      exact ⟨hfield, hskipped, List.not_mem_nil, hne⟩

/-- **When the catalog is right about a field.** -/
theorem mem_knownFields_iff_mem_names_iff :
    (field ∈ knownFields f ↔ field ∈ f.names) ↔ ¬ Hides f field ∧ ¬ Supposes f field := by
  rw [mem_knownFields_iff h hcolumns hrows, Hides]
  have habsent : Supposes f field → field ∉ f.names := by
    rintro ⟨rfl, hnone⟩
    exact hnone "_id" (by decide)
  tauto

end Known

/-! ## Lines -/

/-- The fields that the lines of a definition are about, in order. A definition without tests has a line that
is about none. -/
def fieldsOf (d : Definition) : List (Option String) :=
  (if d.rules.isEmpty then [none] else [])
    ++ (d.rules.flatMap fun group => group.map fun e => some e.field.display)
    ++ d.attributes.map fun a => some a.expression.field.display

/-- The fields that the lines of the report are about. -/
def fieldsOfLines (libraries : List Library) : List (Option String) :=
  libraries.flatMap fun l => l.definitions.flatMap fieldsOf

/-- The line names its field and says whether it is known. -/
structure Marks (known : List String) (field : Option String) (line : Row) : Prop where
  source : line.lookup "Source_Field" = some (.text (field.getD ""))
  inData : line.lookup "Field_In_Data" = some (.bool (field.elim true known.contains))

variable {known : List String}

theorem marks_alwaysLine (l : Library) (d : Definition) :
    Marks known none (alwaysLine (baseCells l d)) := ⟨rfl, rfl⟩

theorem marks_expressionLine {l : Library} {d : Definition} {kind : String} {group : Datum} {e : Expression}
    {line : Row} (h : expressionLine known (baseCells l d) kind group e = .ok line) :
    Marks known (some e.field.display) line := by
  obtain ⟨field, hfield, h⟩ := bind_eq_ok_iff.mp h
  obtain ⟨description, -, h⟩ := bind_eq_ok_iff.mp h
  obtain rfl := Except.ok.inj h
  cases he : e.field with
  | text name =>
      rw [he] at hfield
      obtain rfl := Except.ok.inj hfield
      exact ⟨rfl, rfl⟩
  | _ =>
      rw [he] at hfield
      cases hfield

/-- Lines that are made part by part are those of the parts one after the other. -/
theorem marks_flatten {α : Type} {items : List α} {make : α → Except Fault (List Row)}
    {fields : α → List (Option String)}
    (hmake : ∀ a lines, make a = .ok lines → List.Forall₂ (Marks known) (fields a) lines)
    {lines : List Row} (h : (do return (← items.mapM make).flatten) = Except.ok lines) :
    List.Forall₂ (Marks known) (items.flatMap fields) lines := by
  obtain ⟨parts, hparts, h⟩ := bind_eq_ok_iff.mp h
  obtain rfl := Except.ok.inj h
  exact List.rel_flatten (List.forall₂_map_left_iff.mpr ((mapM_eq_ok_iff.mp hparts).imp hmake))

theorem marks_mapM {α : Type} {items : List α} {make : α → Except Fault Row} {field : α → Option String}
    (hmake : ∀ a line, make a = .ok line → Marks known (field a) line) {lines : List Row}
    (h : items.mapM make = .ok lines) : List.Forall₂ (Marks known) (items.map field) lines :=
  List.forall₂_map_left_iff.mpr ((mapM_eq_ok_iff.mp h).imp hmake)

theorem marks_ruleLines {l : Library} {d : Definition} {rules : RuleSet} {tests : List Row}
    (h : ruleLines known (baseCells l d) rules = .ok tests) :
    List.Forall₂ (Marks known) (rules.flatMap fun group => group.map fun e => some e.field.display)
      tests := by
  have hnumbered : List.Forall₂ (Marks known)
      (rules.zipIdx.flatMap fun p => p.1.map fun e => some e.field.display) tests :=
    marks_flatten (fun _ _ => marks_mapM fun _ _ => marks_expressionLine) h
  rwa [← List.flatMap_map Prod.fst, List.zipIdx_map_fst] at hnumbered

theorem marks_definitionLines {l : Library} {d : Definition} {lines : List Row}
    (h : definitionLines known l d = .ok lines) : List.Forall₂ (Marks known) (fieldsOf d) lines := by
  obtain ⟨tests, htests, h⟩ := bind_eq_ok_iff.mp h
  obtain ⟨attributes, hattributes, h⟩ := bind_eq_ok_iff.mp h
  obtain rfl := Except.ok.inj h
  refine List.rel_append (List.rel_append ?_ (marks_ruleLines htests))
    (marks_mapM (fun _ _ => marks_expressionLine) hattributes)
  split
  · exact .cons (marks_alwaysLine l d) .nil
  · exact .nil

/-- **The lines of the report** are about the fields of tests and attributes, in order. -/
theorem marks_lines {libraries : List Library} {ls : List Row} (h : lines f libraries = .ok ls) :
    List.Forall₂ (Marks (knownFields f)) (fieldsOfLines libraries) ls :=
  marks_flatten (fun _ _ => marks_flatten fun _ _ => marks_definitionLines) h

/-! ## Absent fields -/

theorem Marks.absentField?_eq_some_iff {field : Option String} {line : Row} (h : Marks known field line)
    (name : String) : absentField? line = some name ↔ field = some name ∧ name ≠ "" ∧ name ∉ known := by
  rw [absentField?, Datum.valueAt, Datum.valueAt, h.source, h.inData]
  cases field with
  | none => simp
  | some other =>
      by_cases hknown : other ∈ known
      · simp only [Option.getD_some, Option.elim_some, List.contains_iff_mem.mpr hknown, Option.some.injEq,
          reduceCtorEq, false_iff]
        rintro ⟨rfl, -, hnot⟩
        exact hnot hknown
      · have hcontains : known.contains other = false := by simpa using hknown
        simp only [Option.getD_some, Option.elim_some, hcontains, nonEmpty?, Option.some.injEq]
        split_ifs with hempty
        · refine iff_of_false not_false ?_
          rintro ⟨rfl, hne, -⟩
          exact hne hempty
        · rw [Option.some.injEq]
          exact ⟨fun heq => ⟨heq, heq ▸ hempty, heq ▸ hknown⟩, And.left⟩

theorem exists_absentField?_iff {fields : List (Option String)} {ls : List Row}
    (h : List.Forall₂ (Marks known) fields ls) (name : String) :
    (∃ line ∈ ls, absentField? line = some name) ↔ name ≠ "" ∧ some name ∈ fields ∧ name ∉ known := by
  induction h with
  | nil => simp
  | cons hline _ ih =>
      rw [List.exists_mem_cons_iff, hline.absentField?_eq_some_iff, ih, List.mem_cons, @eq_comm _ (some name)]
      tauto

/-- **The fields that a reader is warned of** are those of lines that are not known, if they have a name. -/
theorem mem_absentFields_iff {libraries : List Library} {ls : List Row} (h : lines f libraries = .ok ls)
    (name : String) :
    name ∈ absentFields ls ↔ name ≠ "" ∧ some name ∈ fieldsOfLines libraries ∧ name ∉ knownFields f := by
  rw [absentFields, mem_sortedNames_iff, List.mem_filterMap, exists_absentField?_iff (marks_lines h)]

/-! ## The report -/

/-- Every cell of the line fits into a frame. -/
def Fits (line : Row) : Prop := ∀ cell ∈ line, ¬ cell.2.TooLarge

/-- The lines are made, and all of them fit. -/
abbrev Made (lines : Except Fault (List Row)) : Prop :=
  Outcome (fun ls => ∀ line ∈ ls, Fits line) (fun _ => False) lines

/-- The expression can be described: the field and the pattern are texts. -/
structure Describable (e : Expression) : Prop where
  textual : e.Textual
  description : ¬ e.description.TooLarge

/-- The lines of the definition can be made. -/
structure Listable (d : Definition) : Prop where
  tag : ¬ d.tag.TooLarge
  status : ¬ d.status.TooLarge
  groups : CountsFit d.rules.length
  tests : ∀ group ∈ d.rules, ∀ e ∈ group, Describable e
  attributes : ∀ a ∈ d.attributes, Describable a.expression

theorem fits_baseCells {d : Definition} (h : Listable d) (l : Library) : Fits (baseCells l d) := by
  simp [Fits, baseCells, h.tag, h.status]

theorem shown_isOk {e : Expression} (h : Describable e) : ∃ d, e.shown = .ok d ∧ ¬ d.TooLarge := by
  obtain ⟨source, hpattern⟩ := h.textual.pattern
  rw [Expression.shown, Expression.patternText, hpattern]
  split
  · exact ⟨_, rfl, h.description⟩
  · exact ⟨_, rfl, not_tooLarge_text _⟩

theorem outcome_expressionLine {base : Row} (hbase : Fits base) (kind : String) {group : Datum}
    (hgroup : ¬ group.TooLarge) {e : Expression} (he : Describable e) :
    Outcome Fits (fun _ => False) (expressionLine known base kind group e) := by
  obtain ⟨field, hfield⟩ := he.textual.field
  obtain ⟨description, hshown, hfits⟩ := shown_isOk he
  rw [expressionLine, hfield, hshown]
  refine List.forall_mem_append.mpr ⟨hbase, ?_⟩
  simp [hgroup, hfits]

theorem made_flatten {α : Type} {items : List α} {make : α → Except Fault (List Row)}
    (hmake : ∀ a ∈ items, Made (make a)) : Made (do return (← items.mapM make).flatten) := by
  refine Outcome.bind (Outcome.mapM hmake) fun parts hparts => ?_
  intro line hline
  obtain ⟨part, hpart, hmem⟩ := List.mem_flatten.mp hline
  exact hparts part hpart line hmem

/-- The numbers of groups are at most as many as the groups. -/
theorem made_ruleLines {d : Definition} (h : Listable d) (l : Library) :
    Made (ruleLines known (baseCells l d) d.rules) := by
  refine made_flatten fun p hp => ?_
  have hnumber : ¬ (Datum.int (p.2 + 1)).TooLarge :=
    h.groups (p.2 + 1) (by simpa using List.snd_lt_of_mem_zipIdx hp)
  refine Outcome.mapM fun e he => outcome_expressionLine (fits_baseCells h l) _ hnumber ?_
  exact h.tests p.1 (List.fst_mem_of_mem_zipIdx hp) e he

theorem made_definitionLines {d : Definition} (h : Listable d) (l : Library) :
    Made (definitionLines known l d) := by
  have hbase := fits_baseCells h l
  have hattribute : ∀ a ∈ d.attributes, Outcome Fits (fun _ => False)
      (expressionLine known (baseCells l d) ("ATTRIBUTE:" ++ a.tag.display) (.text "") a.expression) :=
    fun a ha => outcome_expressionLine hbase _ (not_tooLarge_text _) (h.attributes a ha)
  refine Outcome.bind (made_ruleLines h l) fun tests htests => ?_
  refine Outcome.bind (Outcome.mapM hattribute) fun attributes hattributes => ?_
  refine List.forall_mem_append.mpr ⟨List.forall_mem_append.mpr ⟨?_, htests⟩, hattributes⟩
  split
  · refine List.forall_mem_singleton.mpr (List.forall_mem_append.mpr ⟨hbase, ?_⟩)
    simp
  · exact List.forall_mem_nil _

theorem made_lines (f : Frame) {libraries : List Library}
    (h : ∀ l ∈ libraries, ∀ d ∈ l.definitions, Listable d) : Made (lines f libraries) :=
  made_flatten fun l hl => made_flatten fun d hd => made_definitionLines (h l hl d hd) l

/-- **What the report says of fields.** It has a line for each test and each attribute, with the field that it
looks at, and one for each definition without tests. On a frame of scalar cells with at least one row, the line
says whether the field is known, and this is right exactly if the field is not a hidden column and not the
supposed name of a column that identifies rows. -/
theorem report_marks_fields (h : f.IsScalar) (hcolumns : f.columns ≠ []) (hrows : 0 < f.height)
    (libraries : List Library) :
    Reports (report f libraries) (∀ l ∈ libraries, ∀ d ∈ l.definitions, Listable d) (fun r =>
        r.column? "Source_Field" = some ((fieldsOfLines libraries).map fun field => .text (field.getD ""))
        ∧ r.column? "Field_In_Data" = some ((fieldsOfLines libraries).map fun field =>
            .bool (field.elim true (knownFields f).contains)))
      ∧ ∀ field, (field ∈ knownFields f ↔ field ∈ f.names) ↔ ¬ Hides f field ∧ ¬ Supposes f field := by
  refine ⟨⟨fun r hr => ?_, fun hlistable => ?_⟩, mem_knownFields_iff_mem_names_iff h hcolumns hrows⟩
  · obtain ⟨ls, hls, htable⟩ := bind_eq_ok_iff.mp hr
    have hmarks := marks_lines hls
    exact ⟨Frame.column?_of_forall₂ htable (by simp [columns]) _ (hmarks.imp fun _ _ hm => hm.source)
        fun _ _ => trivial,
      Frame.column?_of_forall₂ htable (by simp [columns]) _ (hmarks.imp fun _ _ hm => hm.inData)
        fun _ _ => trivial⟩
  · have hmade := made_lines f hlistable
    rw [report]
    cases hls : lines f libraries with
    | error fault => exact absurd (hmade.fault hls) not_false
    | ok ls => exact Frame.ofRecords_isOk columns (hmade.value hls)

/-- The amount is a column that is shown, and the name of a hidden column is not known. -/
theorem report_marks_fields_amount :
    let f : Frame := ⟨2, [("Tags", [.text "A", .null]), ("Amount", [.int 5, .int 7]),
      ("Hash", [.text "x", .text "y"])]⟩
    let libraries : List Library :=
      [{ definitions := [{ id := .text "1", tag := .text "A"
                           rules := [[{ field := .text "Amount", pattern := .text "__NUMERIC_GT:6" },
                             { field := .text "Hash", pattern := .text "x" }]] }] }]
    f.IsScalar ∧ f.columns ≠ [] ∧ 0 < f.height
      ∧ ∃ r, report f libraries = .ok r
        ∧ r.column? "Source_Field" = some [.text "Amount", .text "Hash"]
        ∧ r.column? "Field_In_Data" = some [.bool true, .bool false] := by
  intro f libraries
  have hscalar : f.IsScalar := by decide
  have hcolumns : f.columns ≠ [] := List.cons_ne_nil _ _
  have hdescribable : ∀ field source : String,
      Describable { field := .text field, pattern := .text source } := fun field source =>
    ⟨⟨⟨field, rfl⟩, ⟨source, rfl⟩⟩, not_tooLarge_of_plain trivial⟩
  have hlistable : ∀ l ∈ libraries, ∀ d ∈ l.definitions, Listable d := by
    refine List.forall_mem_singleton.mpr (List.forall_mem_singleton.mpr ?_)
    refine ⟨not_tooLarge_text _, not_tooLarge_text _, countsFit_of_lt (by decide), ?_, List.forall_mem_nil _⟩
    refine List.forall_mem_singleton.mpr (List.forall_mem_cons.mpr ⟨hdescribable _ _, ?_⟩)
    exact List.forall_mem_singleton.mpr (hdescribable _ _)
  obtain ⟨hreport, -⟩ := report_marks_fields hscalar hcolumns (by decide) libraries
  obtain ⟨r, hr⟩ := hreport.made hlistable
  obtain ⟨hsource, hinData⟩ := hreport.right r hr
  have hknown := mem_knownFields_iff hscalar hcolumns (by decide)
  have hamount : (knownFields f).contains "Amount" = true :=
    List.contains_iff_mem.mpr ((hknown "Amount").mpr (Or.inl ⟨by decide, by decide⟩))
  have hhash : (knownFields f).contains "Hash" = false := by
    rw [← Bool.not_eq_true, List.contains_iff_mem, hknown]
    rintro (⟨-, hshown⟩ | ⟨hid, -⟩)
    · exact hshown (by decide)
    · exact absurd hid (by decide)
  refine ⟨hscalar, hcolumns, by decide, r, hr, hsource, hinData.trans ?_⟩
  show some [Datum.bool ((knownFields f).contains "Amount"), Datum.bool ((knownFields f).contains "Hash")] = _
  rw [hamount, hhash]

/-- A test that the data is there for, and a warning that it is not. -/
theorem hidden_column_counts_as_absent :
    let f : Frame := ⟨1, [("Tags", [.text "A"]), ("Hash", [.text "x"])]⟩
    let libraries : List Library :=
      [{ definitions := [{ id := .text "1", tag := .text "A"
                           rules := [[{ field := .text "Hash", pattern := .text "x" }]] }] }]
    f.IsScalar ∧ "Hash" ∈ f.names
      ∧ (lines f libraries).toOption.map absentFields = some ["Hash"]
      ∧ ((report f libraries).toOption.bind (·.column? "Field_In_Data")).map (·.map Datum.display)
        = some ["False"] := by
  decide +kernel

end Catalog

end StatementTagging
