import StatementTagging.Proofs.Analysis
import StatementTagging.Proofs.Rule.TagTable
import StatementTagging.Proofs.Tagging

set_option autoImplicit false

/-! # Values and checks in their columns

An analysis keeps extracted values and checks in tables of tables, a frame in columns. If the names of the
columns tell the pairs of tags apart, nothing is lost on the way: the cell of a pair holds what the
analysis has for the pair, or null (`cell_valueColumn`, `cell_checkColumn`).
-/

namespace StatementTagging

variable {α : Type}

/-! ## Tables of tables -/

namespace TagTable

/-- The value under a tag and a name in a table of tables. -/
def within (table : TagTable (TagTable α)) (tag name : String) : Option α :=
  (table.under tag).bind (·.under name)

/-- A table of tables whose pairs of tags are all of some kind. -/
def Nested (P : String → String → Prop) (table : TagTable (TagTable α)) : Prop :=
  table.Keyed ∧ ∀ tag inner, table.under tag = some inner →
    inner.Keyed ∧ ∀ name v, inner.under name = some v → P tag name

theorem Nested.nil (P : String → String → Prop) : Nested P ([] : TagTable (TagTable α)) :=
  ⟨Keyed.nil, fun _ _ h => nomatch h⟩

theorem Nested.upsert {P : String → String → Prop} {table : TagTable (TagTable α)} (h : Nested P table)
    {tag : String} {inner : TagTable α} (hinner : inner.Keyed)
    (hnames : ∀ name v, inner.under name = some v → P tag name) :
    Nested P (upsert Datum.same (.text tag) inner table) := by
  refine ⟨h.1.upsert tag inner, fun other found hfound => ?_⟩
  rw [under_upsert] at hfound
  split at hfound
  · next heq =>
      obtain rfl := heq
      obtain rfl := Option.some.inj hfound
      exact ⟨hinner, hnames⟩
  · exact h.2 other found hfound

theorem Nested.of_within {P : String → String → Prop} {table : TagTable (TagTable α)} (h : Nested P table)
    {tag name : String} {v : α} (hv : table.within tag name = some v) : P tag name := by
  obtain ⟨inner, hinner, hname⟩ := Option.bind_eq_some_iff.mp hv
  exact (h.2 tag inner hinner).2 name v hname

/-- What is found in a table stands in it. -/
theorem Nested.mem_of_within {P : String → String → Prop} {table : TagTable (TagTable α)} (h : Nested P table)
    {tag name : String} {v : α} (hv : table.within tag name = some v) :
    ∃ inner, (.text tag, inner) ∈ table ∧ (.text name, v) ∈ inner := by
  obtain ⟨inner, hinner, hname⟩ := Option.bind_eq_some_iff.mp hv
  exact ⟨inner, (h.1.mem_iff _).mpr ⟨tag, rfl, hinner⟩,
    ((h.2 tag inner hinner).1.mem_iff _).mpr ⟨name, rfl, hname⟩⟩

/-- The table as a list of cells in named columns. -/
def spread (column : Datum → Datum → String) (cell : α → Datum) (table : TagTable (TagTable α)) :
    List (String × Datum) :=
  table.flatMap fun (tag, inner) => inner.map fun (name, v) => (column tag name, cell v)

theorem mem_spread_iff {P : String → String → Prop} {table : TagTable (TagTable α)} (h : Nested P table)
    (column : Datum → Datum → String) (cell : α → Datum) (c : String) (d : Datum) :
    (c, d) ∈ spread column cell table ↔ ∃ tag name v, table.within tag name = some v
      ∧ P tag name ∧ column (.text tag) (.text name) = c ∧ cell v = d := by
  rw [spread, List.mem_flatMap]
  constructor
  · rintro ⟨⟨key, inner⟩, hmem, hcell⟩
    obtain ⟨tag, rfl, hunder⟩ := (h.1.mem_iff _).mp hmem
    obtain ⟨hkeyed, hnames⟩ := h.2 tag inner hunder
    obtain ⟨⟨key', v⟩, hmem', heq⟩ := List.mem_map.mp hcell
    obtain ⟨name, rfl, hname⟩ := (hkeyed.mem_iff _).mp hmem'
    obtain ⟨rfl, rfl⟩ := Prod.mk.inj heq
    refine ⟨tag, name, v, ?_, hnames name v hname, rfl, rfl⟩
    rw [within, hunder]
    exact hname
  · rintro ⟨tag, name, v, hwithin, -, rfl, rfl⟩
    obtain ⟨inner, hinner, hname⟩ := h.mem_of_within hwithin
    exact ⟨(.text tag, inner), hinner, List.mem_map.mpr ⟨(.text name, v), hname, rfl⟩⟩

end TagTable

/-! ## Tables of attributes -/

theorem keyed_put {table : TagTable α} (h : table.Keyed) {tag : Datum} (htag : tag.IsText) (value : α) :
    Outcome TagTable.Keyed (fun _ => True) (table.put tag value) := by
  obtain ⟨tag, rfl⟩ := htag
  exact h.upsert tag value

theorem keyed_extractAll {attributes : List Attribute} (h : ∀ a ∈ attributes, a.tag.IsText) {row : Row}
    {table : TagTable (Option String)} (hrun : extractAll attributes row = .ok table) : table.Keyed :=
  extractAll_induction TagTable.Keyed.nil (fun _ ht a ha v => keyed_put ht (h a ha) v) hrun

theorem keyed_verifyAll {attributes : List Attribute} (h : ∀ a ∈ attributes, a.tag.IsText)
    {extracted : TagTable Datum} {table : TagTable Bool}
    (hrun : verifyAll attributes extracted = .ok table) : table.Keyed :=
  verifyAll_induction TagTable.Keyed.nil (fun _ ht a ha v => keyed_put ht (h a ha) v) hrun

/-! ## Analyses -/

/-- The libraries have a definition with the tag that has an attribute with the name. -/
def HasPair (libraries : List Library) (tag name : String) : Prop :=
  ∃ l ∈ libraries, ∃ d ∈ l.definitions, d.tag = .text tag ∧ ∃ a ∈ d.attributes, a.tag = .text name

/-- The tags of the definitions and of their attributes are texts. -/
def Labelled (libraries : List Library) : Prop :=
  ∀ l ∈ libraries, ∀ d ∈ l.definitions, d.tag.IsText ∧ ∀ a ∈ d.attributes, a.tag.IsText

variable {libraries : List Library} {today : String} {row : Row} {a : Analysis}

theorem isText_of_mem_tags (hlabels : Labelled libraries) (h : analyzeRow libraries today row = .ok a) :
    ∀ t ∈ a.tags, t.IsText := by
  obtain ⟨hsame, hmatched⟩ := tags_of_analyzeRow h
  intro t ht
  rw [hsame] at ht
  obtain ⟨d, hd, rfl⟩ := List.mem_map.mp ht
  obtain ⟨l, hl, hmem⟩ := hmatched d hd
  exact (hlabels l hl d hmem).1

/-- Each tag, and each name under a tag, is in an analysis once. -/
theorem keyed_of_analyzeRow (hlabels : Labelled libraries) (h : analyzeRow libraries today row = .ok a) :
    a.attributes.Nested (fun _ _ => True) ∧ a.verified.Nested (fun _ _ => True) := by
  refine analyzeRow_induction (P := fun a => a.attributes.Nested (fun _ _ => True)
    ∧ a.verified.Nested (fun _ _ => True)) ⟨.nil _, .nil _⟩ ?_ h
  rintro a d a' ⟨hattributes, hverified⟩ ⟨l, hl, hd⟩ hadded
  obtain ⟨⟨tag, htag⟩, hnames⟩ := hlabels l hl d hd
  obtain ⟨-, extracted, checks, hextracted, hchecks, rfl⟩ := (Analysis.add_eq_ok_iff a a' d row).mp hadded
  dsimp only
  rw [htag]
  exact ⟨hattributes.upsert (keyed_extractAll hnames hextracted) fun _ _ _ => trivial,
    hverified.upsert (keyed_verifyAll hnames hchecks) fun _ _ _ => trivial⟩

theorem nested_of_pairsFrom {table : TagTable (TagTable α)} (h : table.Nested fun _ _ => True)
    (hpairs : PairsFrom libraries table) : table.Nested (HasPair libraries) := by
  refine ⟨h.1, fun tag inner hinner => ⟨(h.2 tag inner hinner).1, fun name v hname => ?_⟩⟩
  obtain ⟨l, hl, d, hd, htag, hnames⟩ := hpairs (.text tag, inner) ((h.1.mem_iff _).mpr ⟨tag, rfl, hinner⟩)
  obtain ⟨a, ha, hatag⟩ :=
    hnames (.text name, v) (((h.2 tag inner hinner).1.mem_iff _).mpr ⟨name, rfl, hname⟩)
  exact ⟨l, hl, d, hd, htag, a, ha, hatag⟩

/-- The pairs of tags in an analysis are pairs of the libraries. -/
theorem nested_of_analyzeRow (hlabels : Labelled libraries) (h : analyzeRow libraries today row = .ok a) :
    a.attributes.Nested (HasPair libraries) ∧ a.verified.Nested (HasPair libraries) := by
  obtain ⟨hattributes, hverified⟩ := keyed_of_analyzeRow hlabels h
  obtain ⟨hpairs, hpairs'⟩ := pairsFrom_of_analyzeRow h (isText_of_mem_tags hlabels h)
  exact ⟨nested_of_pairsFrom hattributes hpairs, nested_of_pairsFrom hverified hpairs'⟩

/-! ## Cells -/

/-- The names of columns tell the pairs of the libraries apart. -/
def TellsApart (libraries : List Library) (column : Datum → Datum → String) : Prop :=
  ∀ tag name tag' name', HasPair libraries tag name → HasPair libraries tag' name' →
    column (.text tag) (.text name) = column (.text tag') (.text name') → tag = tag' ∧ name = name'

theorem cells_eq (a : Analysis) : a.cells
    = TagTable.spread valueColumn valueDatum a.attributes ++ TagTable.spread checkColumn .bool a.verified :=
  rfl

theorem valueColumn_ne_checkColumn (tag name tag' name' : Datum) :
    valueColumn tag name ≠ checkColumn tag' name' := by
  intro h
  have hhead := congrArg (fun s : String => s.toList.head?) h
  simp [valueColumn, checkColumn] at hhead

theorem isCheckColumn_valueColumn (tag name : Datum) : isCheckColumn (valueColumn tag name) = false := by
  rw [isCheckColumn, valueColumn, String.toList_append, String.toList_append, String.toList_append]
  rfl

theorem isCheckColumn_checkColumn (tag name : Datum) : isCheckColumn (checkColumn tag name) = true := by
  simp [isCheckColumn, checkColumn]

theorem mem_attributeColumns {tag name : String} (h : HasPair libraries tag name) :
    valueColumn (.text tag) (.text name) ∈ attributeColumns libraries
      ∧ checkColumn (.text tag) (.text name) ∈ attributeColumns libraries := by
  obtain ⟨l, hl, d, hd, htag, a, ha, hname⟩ := h
  rw [← htag, ← hname]
  exact columns_mem_attributeColumns hl hd ha

/-- The cells in columns of one kind are the values of a table. -/
def Analysis.Gives (a : Analysis) (column : Datum → Datum → String) (cell : α → Datum)
    (table : TagTable (TagTable α)) : Prop :=
  ∀ tag name d, (column (.text tag) (.text name), d) ∈ a.cells ↔ ∃ tag' name' v,
    table.within tag' name' = some v ∧ column (.text tag') (.text name') = column (.text tag) (.text name)
      ∧ cell v = d

/-- A table that is spread over columns of its own. -/
theorem gives_of_spread {P : String → String → Prop} {table : TagTable (TagTable α)} (h : table.Nested P)
    {column : Datum → Datum → String} {cell : α → Datum} {others : List (String × Datum)}
    (hcells : ∀ e, e ∈ a.cells ↔ e ∈ table.spread column cell ∨ e ∈ others)
    (hothers : ∀ e ∈ others, ∀ tag name, e.1 ≠ column tag name) : a.Gives column cell table := by
  intro tag name d
  rw [hcells, TagTable.mem_spread_iff h]
  constructor
  · rintro (⟨tag', name', v, hv, -, hcolumn, hcell⟩ | hother)
    · exact ⟨tag', name', v, hv, hcolumn, hcell⟩
    · exact absurd rfl (hothers _ hother (.text tag) (.text name))
  · rintro ⟨tag', name', v, hv, hcolumn, hcell⟩
    exact Or.inl ⟨tag', name', v, hv, h.of_within hv, hcolumn, hcell⟩

/-- **What an analysis gives to columns** are its values and its checks. -/
theorem gives_of_analyzeRow (hlabels : Labelled libraries) (h : analyzeRow libraries today row = .ok a) :
    a.Gives valueColumn valueDatum a.attributes ∧ a.Gives checkColumn .bool a.verified := by
  obtain ⟨hattributes, hverified⟩ := nested_of_analyzeRow hlabels h
  have hcells : ∀ e, e ∈ a.cells ↔ e ∈ TagTable.spread valueColumn valueDatum a.attributes
      ∨ e ∈ TagTable.spread checkColumn .bool a.verified := by
    intro e
    rw [cells_eq, List.mem_append]
  refine ⟨gives_of_spread hattributes hcells ?_,
    gives_of_spread hverified (fun e => (hcells e).trans or_comm) ?_⟩
  · rintro ⟨column, d⟩ he tag name heq
    obtain ⟨tag', name', v, -, -, rfl, -⟩ := (TagTable.mem_spread_iff hverified _ _ _ _).mp he
    exact valueColumn_ne_checkColumn _ _ _ _ heq.symm
  · rintro ⟨column, d⟩ he tag name heq
    obtain ⟨tag', name', v, -, -, rfl, -⟩ := (TagTable.mem_spread_iff hattributes _ _ _ _).mp he
    exact valueColumn_ne_checkColumn _ _ _ _ heq

namespace Analysis.Gives

variable {column : Datum → Datum → String} {cell : α → Datum} {table : TagTable (TagTable α)}
  {tag name : String}

/-- The cell of a pair that has a value is the value of some pair with its column. -/
theorem exists_within (h : a.Gives column cell table) {v : α} (hv : table.within tag name = some v) :
    ∃ tag' name' v', table.within tag' name' = some v'
      ∧ column (.text tag') (.text name') = column (.text tag) (.text name)
      ∧ cell v' = a.cell (column (.text tag) (.text name)) := by
  refine (h tag name _).mp ((cell_cases a _).resolve_right fun hnone => hnone.1 (cell v) ?_)
  exact (h tag name _).mpr ⟨tag, name, v, hv, rfl, rfl⟩

/-- The cell of a pair that shares its column with no other. -/
theorem cell_eq (h : a.Gives column cell table) (hnested : table.Nested (HasPair libraries))
    (hapart : TellsApart libraries column) (hpair : HasPair libraries tag name) :
    a.cell (column (.text tag) (.text name)) = ((table.within tag name).map cell).getD .null := by
  have hsame : ∀ {tag' name' v}, table.within tag' name' = some v →
      column (.text tag') (.text name') = column (.text tag) (.text name) →
      table.within tag name = some v := by
    intro tag' name' v hv hcolumn
    obtain ⟨rfl, rfl⟩ := hapart tag' name' tag name (hnested.of_within hv) hpair hcolumn
    exact hv
  rcases cell_cases a (column (.text tag) (.text name)) with hmem | ⟨hnone, hnull⟩
  · obtain ⟨tag', name', v, hv, hcolumn, hcell⟩ := (h tag name _).mp hmem
    rw [hsame hv hcolumn]
    exact hcell.symm
  · cases hv : table.within tag name with
    | none => exact hnull
    | some v => exact absurd ((h tag name _).mpr ⟨tag, name, v, hv, rfl, rfl⟩) (hnone _)

end Analysis.Gives

/-- **The cell of an extracted value.** -/
theorem cell_valueColumn (hlabels : Labelled libraries) (h : analyzeRow libraries today row = .ok a)
    (hapart : TellsApart libraries valueColumn) {tag name : String} (hpair : HasPair libraries tag name) :
    a.cell (valueColumn (.text tag) (.text name))
      = ((a.attributes.within tag name).map valueDatum).getD .null :=
  (gives_of_analyzeRow hlabels h).1.cell_eq (nested_of_analyzeRow hlabels h).1 hapart hpair

/-- **The cell of a check.** -/
theorem cell_checkColumn (hlabels : Labelled libraries) (h : analyzeRow libraries today row = .ok a)
    (hapart : TellsApart libraries checkColumn) {tag name : String} (hpair : HasPair libraries tag name) :
    a.cell (checkColumn (.text tag) (.text name))
      = ((a.verified.within tag name).map .bool).getD .null :=
  (gives_of_analyzeRow hlabels h).2.cell_eq (nested_of_analyzeRow hlabels h).2 hapart hpair

end StatementTagging
