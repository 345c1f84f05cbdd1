import StatementTagging.Proofs.Datum
import StatementTagging.Proofs.Outcome
import StatementTagging.Table.Frame

set_option autoImplicit false

/-! # Frames by their columns

A column that is given to a frame keeps its values, up to missing ones, unless it is a column of numbers in
which some value is no integer; then its integers become floating-point numbers
(`typedColumn_spec`). In particular values that are no numbers are kept (`typedColumn_of_plain`).

A frame is spoken of through its columns: what a new column does to them
(`column?_withColumn`), and the rows as cells at a position of each column (`valueAt_row`).
-/

namespace StatementTagging

/-! ## Types of columns -/

/-- A column of numbers in which not every row has an integer. -/
structure MixedNumbers (values : List (Option Datum)) : Prop where
  numeric : ∀ d, some d ∈ values → d.IsNumeric
  notInteger : ∃ v ∈ values, ∀ n, v ≠ some (.int n)

variable {s s' : ColumnScan} {values : List (Option Datum)}

/-- Something other than an integer has been seen. -/
def ColumnScan.seenOther (s : ColumnScan) : Bool := s.float || s.null || s.absent

/-- What a scan that goes to the end has seen: without a truth value only numbers, and something other than
an integer only if there is such a value. -/
structure ColumnScan.Covers (s : ColumnScan) (values : List (Option Datum)) (s' : ColumnScan) : Prop where
  numeric : s'.bool = false → s.bool = false ∧ ∀ d, some d ∈ values → d.IsNumeric
  notInteger : s'.seenOther = true → s.seenOther = true ∨ ∃ v ∈ values, ∀ n, v ≠ some (.int n)

/-- One more value in front. -/
theorem ColumnScan.Covers.cons {s₁ : ColumnScan} {v : Option Datum} (h : s₁.Covers values s')
    (hbool : s₁.bool = false → s.bool = false) (hnumeric : s₁.bool = false → ∀ d ∈ v, d.IsNumeric)
    (hother : s₁.seenOther = true → s.seenOther = true ∨ ∀ n, v ≠ some (.int n)) :
    s.Covers (v :: values) s' := by
  constructor
  · intro hs'
    obtain ⟨hs₁, hr⟩ := h.numeric hs'
    refine ⟨hbool hs₁, fun d hd => ?_⟩
    rcases List.mem_cons.mp hd with hd | hd
    · exact hnumeric hs₁ d hd.symm
    · exact hr d hd
  · intro hs'
    rcases h.notInteger hs' with hs₁ | ⟨w, hw, hint⟩
    · exact (hother hs₁).imp_right fun hv => ⟨v, List.mem_cons_self, hv⟩
    · exact Or.inr ⟨w, List.mem_cons_of_mem _ hw, hint⟩

theorem covers_of_scanColumn (h : scanColumn s values = .ok (some s')) : s.Covers values s' := by
  fun_induction scanColumn s values with
  | case1 s =>
      obtain rfl := Option.some.inj (Except.ok.inj h)
      exact ⟨fun hs => ⟨hs, fun d hd => absurd hd List.not_mem_nil⟩, Or.inl⟩
  | case2 s r ih => exact (ih h).cons id (fun _ d hd => nomatch hd) fun _ => Or.inr fun n hn => nomatch hn
  | case3 s r ih =>
      refine (ih h).cons id (fun _ d hd => ?_) fun _ => Or.inr fun n hn => nomatch hn
      obtain rfl := Option.some.inj hd
      trivial
  | case4 s b r ih =>
      refine (ih h).cons (fun hs => ?_) (fun hs => ?_) fun _ => Or.inr fun n hn => nomatch hn
      · cases hs
      · cases hs
  | case5 s x r ih =>
      refine (ih h).cons (fun hs => ?_) (fun _ d hd => ?_) fun _ => Or.inr fun n hn => nomatch hn
      · split at hs <;> exact hs
      · obtain rfl := Option.some.inj hd
        trivial
  | case6 => cases h
  | case7 s n r _ _ ih =>
      refine (ih h).cons id (fun _ d hd => ?_) Or.inl
      obtain rfl := Option.some.inj hd
      trivial
  | case8 => cases h
  | case9 s n r _ _ _ _ _ ih =>
      refine (ih h).cons id (fun _ d hd => ?_) Or.inl
      obtain rfl := Option.some.inj hd
      trivial
  | case10 => cases h

/-- Only an integer beyond the range of floating-point numbers stops a scan. -/
theorem scanColumn_isOk (s : ColumnScan) (h : ∀ d, some d ∈ values → ¬ d.TooLarge) :
    ∃ r, scanColumn s values = .ok r := by
  have hrest : ∀ {v : Option Datum} {r : List (Option Datum)},
      (∀ d, some d ∈ v :: r → ¬ d.TooLarge) → ∀ d, some d ∈ r → ¬ d.TooLarge :=
    fun hall d hd => hall d (List.mem_cons_of_mem _ hd)
  fun_induction scanColumn s values with
  | case1 s => exact ⟨_, rfl⟩
  | case2 s r ih => exact ih (hrest h)
  | case3 s r ih => exact ih (hrest h)
  | case4 s b r ih => exact ih (hrest h)
  | case5 s x r ih => exact ih (hrest h)
  | case6 s n r hlarge => exact absurd ⟨n, rfl, Option.isNone_iff_eq_none.mp hlarge⟩ (h _ List.mem_cons_self)
  | case7 s n r _ _ ih => exact ih (hrest h)
  | case8 => exact ⟨_, rfl⟩
  | case9 s n r _ _ _ _ _ ih => exact ih (hrest h)
  | case10 => exact ⟨_, rfl⟩

/-- **A column keeps its values**, up to missing ones, unless it is one of numbers that are not all
integers. -/
theorem typedColumn_spec {cells : List Datum} (h : typedColumn values = .ok cells) :
    cells = values.map cellOf
      ∨ MixedNumbers values ∧ cells = values.map fun v => asFloat (cellOf v) := by
  obtain ⟨r, hr, h⟩ := bind_eq_ok_iff.mp h
  cases r with
  | none => exact Or.inl (Except.ok.inj h).symm
  | some s =>
      obtain rfl := Except.ok.inj h
      cases hfloat : s.isFloat with
      | false => exact Or.inl (by simp)
      | true =>
          have hcovers := covers_of_scanColumn hr
          obtain ⟨hbool, hother⟩ : s.bool = false ∧ s.seenOther = true := by
            rw [ColumnScan.isFloat] at hfloat
            rw [ColumnScan.seenOther]
            revert hfloat
            cases s.bool <;> cases s.float <;> cases s.null <;> cases s.absent <;> simp
          refine Or.inr ⟨⟨(hcovers.numeric hbool).2, ?_⟩, by simp⟩
          exact (hcovers.notInteger hother).resolve_left (by decide)

theorem typedColumn_isOk (values : List (Option Datum)) (h : ∀ d, some d ∈ values → ¬ d.TooLarge) :
    ∃ cells, typedColumn values = .ok cells := by
  obtain ⟨r, hr⟩ := scanColumn_isOk {} h
  rw [typedColumn, hr]
  cases r with
  | none => exact ⟨_, rfl⟩
  | some s => exact ⟨_, rfl⟩

theorem not_tooLarge_of_plain {d : Datum} (h : d.IsPlain) : ¬ d.TooLarge := by
  rintro ⟨n, rfl, -⟩
  exact h

@[simp]
theorem not_tooLarge_text (s : String) : ¬ (Datum.text s).TooLarge := not_tooLarge_of_plain trivial

@[simp]
theorem not_tooLarge_bool (b : Bool) : ¬ (Datum.bool b).TooLarge := not_tooLarge_of_plain trivial

theorem not_tooLarge_float (x : Float) : ¬ (Datum.float x).TooLarge := by
  rintro ⟨n, hn, -⟩
  cases hn

theorem cellOf_of_plain {d : Datum} (h : d.IsPlain) : cellOf (some d) = d := by
  cases d with
  | int n => exact h.elim
  | float x => exact h.elim
  | _ => rfl

/-- Values that are no numbers are kept. -/
theorem typedColumn_of_plain {cells : List Datum} (h : ∀ d ∈ cells, d.IsPlain) :
    typedColumn (cells.map some) = .ok cells := by
  have hplain : ∀ d, some d ∈ cells.map some → d.IsPlain := by
    intro d hd
    obtain ⟨d', hd', heq⟩ := List.mem_map.mp hd
    exact Option.some.inj heq ▸ h d' hd'
  obtain ⟨typed, htyped⟩ := typedColumn_isOk _ fun d hd => not_tooLarge_of_plain (hplain d hd)
  rw [htyped]
  congr 1
  rcases typedColumn_spec htyped with rfl | ⟨hmixed, rfl⟩
  · rw [List.map_map]
    exact (List.map_congr_left fun d hd => cellOf_of_plain (h d hd)).trans (List.map_id _)
  · -- a value that is plain and numeric is null
    have hnull : ∀ d ∈ cells, d = .null := by
      intro d hd
      have hnumeric := hmixed.numeric d (List.mem_map_of_mem hd)
      have hd := h d hd
      cases d with
      | null => rfl
      | int n => exact hd.elim
      | float x => exact hd.elim
      | bool b => exact hnumeric.elim
      | text s => exact hnumeric.elim
      | list items => exact hnumeric.elim
      | record es => exact hnumeric.elim
    rw [List.map_map]
    refine (List.map_congr_left fun d hd => ?_).trans (List.map_id _)
    rw [hnull d hd]
    rfl

/-- Integers that fill a column are kept. -/
theorem typedColumn_ints (ns : List Int) {cells : List Datum}
    (h : typedColumn (ns.map fun n => some (.int n)) = .ok cells) : cells = ns.map .int := by
  rcases typedColumn_spec h with rfl | ⟨hmixed, -⟩
  · rw [List.map_map]
    rfl
  · obtain ⟨v, hv, hnot⟩ := hmixed.notInteger
    obtain ⟨n, -, rfl⟩ := List.mem_map.mp hv
    exact absurd rfl (hnot n)

/-! ## Columns of frames -/

namespace Frame

variable {f f' : Frame} {name : String} {cells : List Datum}

/-- The cell of a column at a position. -/
def cell? (f : Frame) (column : String) (i : Nat) : Option Datum := (f.column? column).bind (·[i]?)

theorem withColumn_eq_ok_iff :
    f.withColumn name cells = .ok f' ↔ cells.length = f.height ∧ ∃ typed,
      typedColumn (cells.map some) = .ok typed
        ∧ f' = { f with columns := upsert (· == ·) name typed f.columns } := by
  rw [withColumn]
  by_cases hlength : cells.length = f.height
  · rw [if_neg (by simpa using hlength)]
    simp only [bind_eq_ok_iff, hlength, true_and]
    exact exists_congr fun typed => and_congr_right fun _ =>
      ⟨fun h => (Except.ok.inj h).symm, fun h => h ▸ rfl⟩
  · rw [if_pos hlength]
    exact iff_of_false (fun h => nomatch h) fun h => hlength h.1

theorem height_withColumn (h : f.withColumn name cells = .ok f') : f'.height = f.height := by
  obtain ⟨-, typed, -, rfl⟩ := withColumn_eq_ok_iff.mp h
  rfl

/-- What a new column does to the others: nothing. -/
theorem column?_withColumn (h : f.withColumn name cells = .ok f') :
    ∃ typed, typedColumn (cells.map some) = .ok typed
      ∧ ∀ other, f'.column? other = if name = other then some typed else f.column? other := by
  obtain ⟨-, typed, htyped, rfl⟩ := withColumn_eq_ok_iff.mp h
  exact ⟨typed, htyped, fun other => lookup_upsert other⟩

/-- A column of values that are no numbers is added as it is. -/
theorem withColumn_plain (name : String) (hlength : cells.length = f.height) (h : ∀ d ∈ cells, d.IsPlain) :
    ∃ f', f.withColumn name cells = .ok f' ∧ f'.height = f.height
      ∧ ∀ other, f'.column? other = if name = other then some cells else f.column? other :=
  ⟨_, withColumn_eq_ok_iff.mpr ⟨hlength, cells, typedColumn_of_plain h, rfl⟩, rfl,
    fun other => lookup_upsert other⟩

/-- Values that fill a column and are not too large make one. -/
theorem withColumn_isOk (name : String) (hlength : cells.length = f.height)
    (hfit : ∀ d ∈ cells, ¬ d.TooLarge) : ∃ f', f.withColumn name cells = .ok f' ∧ f'.height = f.height := by
  obtain ⟨typed, htyped⟩ := typedColumn_isOk (cells.map some) <| by
    intro d hd
    obtain ⟨d', hd', heq⟩ := List.mem_map.mp hd
    exact Option.some.inj heq ▸ hfit d' hd'
  exact ⟨_, withColumn_eq_ok_iff.mpr ⟨hlength, typed, htyped, rfl⟩, rfl⟩

/-! ## Several columns -/

/-- Adds columns one after the other. -/
def withColumns (f : Frame) (columns : List (String × List Datum)) : Except Fault Frame :=
  columns.foldlM (fun f column => f.withColumn column.1 column.2) f

/-- The frame has the values of the column, in the type that they get. -/
def HasColumn (f : Frame) (column : String × List Datum) : Prop :=
  column.2.length = f.height
    ∧ ∃ typed, typedColumn (column.2.map some) = .ok typed ∧ f.column? column.1 = some typed

/-- Columns with different names are all there, and the others are those that were there. -/
theorem hasColumn_withColumns {columns : List (String × List Datum)} (hnames : (columns.map (·.1)).Nodup)
    (h : f.withColumns columns = .ok f') : f'.height = f.height ∧ (∀ column ∈ columns, f'.HasColumn column)
      ∧ ∀ name ∉ columns.map (·.1), f'.column? name = f.column? name := by
  induction columns generalizing f with
  | nil =>
      obtain rfl := Except.ok.inj h
      exact ⟨rfl, fun column hcolumn => absurd hcolumn List.not_mem_nil, fun _ _ => rfl⟩
  | cons column r ih =>
      obtain ⟨hnew, hr⟩ := List.nodup_cons.mp hnames
      obtain ⟨f₁, h₁, hrest⟩ := bind_eq_ok_iff.mp h
      obtain ⟨hheight, hadded, hothers⟩ := ih hr hrest
      obtain ⟨typed, htyped, hcolumns⟩ := column?_withColumn h₁
      have hheight₁ := height_withColumn h₁
      refine ⟨hheight.trans hheight₁, List.forall_mem_cons.mpr ⟨⟨?_, typed, htyped, ?_⟩, hadded⟩, ?_⟩
      · rw [hheight, hheight₁]
        exact (withColumn_eq_ok_iff.mp h₁).1
      · rw [hothers _ hnew, hcolumns, if_pos rfl]
      · intro name hname
        rw [List.map_cons, List.mem_cons, not_or] at hname
        rw [hothers name hname.2, hcolumns, if_neg (Ne.symm hname.1)]

theorem withColumns_isOk {columns : List (String × List Datum)}
    (h : ∀ column ∈ columns, column.2.length = f.height ∧ ∀ d ∈ column.2, ¬ d.TooLarge) :
    ∃ f', f.withColumns columns = .ok f' ∧ f'.height = f.height := by
  induction columns generalizing f with
  | nil => exact ⟨f, rfl, rfl⟩
  | cons column r ih =>
      obtain ⟨⟨hlength, hfit⟩, hr⟩ := List.forall_mem_cons.mp h
      obtain ⟨f₁, h₁, hheight₁⟩ := withColumn_isOk column.1 hlength hfit
      obtain ⟨f', h', hheight⟩ := ih (f := f₁) (by rwa [hheight₁])
      exact ⟨f', bind_eq_ok_iff.mpr ⟨f₁, h₁, h'⟩, hheight.trans hheight₁⟩

/-- A column that is there is added without any change. -/
theorem withColumn_of_hasColumn {column : String × List Datum} (h : f.HasColumn column) :
    f.withColumn column.1 column.2 = .ok f := by
  obtain ⟨hlength, typed, htyped, hcolumn⟩ := h
  refine withColumn_eq_ok_iff.mpr ⟨hlength, typed, htyped, ?_⟩
  rw [upsert_self hcolumn]

/-- **Adding the same columns again changes nothing.** -/
theorem withColumns_again {columns : List (String × List Datum)} (hnames : (columns.map (·.1)).Nodup)
    (h : f.withColumns columns = .ok f') : f'.withColumns columns = .ok f' :=
  foldlM_eq_ok_self fun column hcolumn => withColumn_of_hasColumn ((hasColumn_withColumns hnames h).2.1 column hcolumn)

/-! ## Rows of frames -/

theorem rowsFrom_eq (columns : List (String × List Datum)) (n : Nat) :
    rowsFrom columns n
      = (List.range n).map fun i => columns.map fun (name, cells) => (name, cells.getD i .null) := by
  induction n generalizing columns with
  | zero => rfl
  | succ n ih =>
      rw [rowsFrom, ih, List.range_succ_eq_map, List.map_cons, List.map_map]
      congr 1
      · refine List.map_congr_left fun c _ => ?_
        show (c.1, c.2.headD .null) = (c.1, c.2.getD 0 .null)
        rw [List.headD_eq_head?_getD, List.getD_eq_getElem?_getD, List.head?_eq_getElem?]
      · refine List.map_congr_left fun i _ => ?_
        rw [List.map_map]
        refine List.map_congr_left fun c _ => ?_
        show (c.1, c.2.tail.getD i .null) = (c.1, c.2.getD (i + 1) .null)
        rw [List.getD_eq_getElem?_getD, List.getD_eq_getElem?_getD, List.getElem?_tail]

theorem length_rows (hcolumns : f.columns ≠ []) : f.rows.length = f.height := by
  rw [rows, if_neg (by simpa using hcolumns), rowsFrom_eq, List.length_map, List.length_range]

theorem lookup_map_snd {α β : Type} (g : α → β) (entries : List (String × α)) (key : String) :
    (entries.map fun e => (e.1, g e.2)).lookup key = (entries.lookup key).map g := by
  induction entries with
  | nil => rfl
  | cons e r ih =>
      rw [List.map_cons, List.lookup_cons, List.lookup_cons, ih]
      cases key == e.1 <;> rfl

/-- The value of a row under a name is the cell of the column. -/
theorem valueAt_row {i : Nat} (hi : i < f.rows.length) (key : String) :
    Datum.valueAt f.rows[i] key = (f.cell? key i).getD .null := by
  by_cases hcolumns : f.columns = []
  · have hrows : f.rows = [] := by rw [rows, if_pos (by simpa using hcolumns)]
    rw [hrows] at hi
    exact absurd hi (Nat.not_lt_zero i)
  · have hrows : f.rows = rowsFrom f.columns f.height := by rw [rows, if_neg (by simpa using hcolumns)]
    simp only [hrows, rowsFrom_eq, List.getElem_map, List.getElem_range]
    rw [Datum.valueAt, lookup_map_snd fun cells : List Datum => cells.getD i .null, cell?, column?]
    cases f.columns.lookup key with
    | none => rfl
    | some cells => exact List.getD_eq_getElem?_getD

/-! ## Frames of records -/

theorem lookup_mapM {g : String → Except Fault (List Datum)} {names : List String}
    {columns : List (String × List Datum)}
    (h : names.mapM (fun name => do return (name, ← g name)) = .ok columns) (name : String) :
    (name ∈ names ∧ ∃ cells, g name = .ok cells ∧ columns.lookup name = some cells)
      ∨ name ∉ names ∧ columns.lookup name = none := by
  induction names generalizing columns with
  | nil =>
      obtain rfl := Except.ok.inj h
      exact Or.inr ⟨List.not_mem_nil, rfl⟩
  | cons n r ih =>
      rw [List.mapM_cons] at h
      obtain ⟨c, hc, h⟩ := bind_eq_ok_iff.mp h
      obtain ⟨cells, hcells, hpair⟩ := bind_eq_ok_iff.mp hc
      obtain ⟨rest, hrest, h⟩ := bind_eq_ok_iff.mp h
      obtain rfl := Except.ok.inj hpair
      obtain rfl := Except.ok.inj h
      rw [List.lookup_cons, List.mem_cons]
      by_cases hname : name = n
      · subst hname
        exact Or.inl ⟨Or.inl rfl, cells, hcells, by simp⟩
      · rw [beq_eq_false_iff_ne.mpr hname]
        rcases ih hrest with ⟨hmem, found⟩ | ⟨hnot, hnone⟩
        · exact Or.inl ⟨Or.inr hmem, found⟩
        · exact Or.inr ⟨fun hor => hor.elim hname hnot, hnone⟩

/-- The columns of a frame of records. -/
theorem column?_ofRecords {names : List String} {rows : List Row} (h : ofRecords names rows = .ok f)
    (name : String) :
    (name ∈ names ∧ ∃ cells, typedColumn (rows.map (·.lookup name)) = .ok cells
        ∧ f.column? name = some cells)
      ∨ name ∉ names ∧ f.column? name = none := by
  obtain ⟨columns, hcolumns, h⟩ := bind_eq_ok_iff.mp h
  obtain rfl := Except.ok.inj h
  exact lookup_mapM hcolumns name

theorem height_ofRecords {names : List String} {rows : List Row} (h : ofRecords names rows = .ok f) :
    f.height = rows.length := by
  obtain ⟨columns, -, h⟩ := bind_eq_ok_iff.mp h
  exact congrArg Frame.height (Except.ok.inj h).symm

theorem ofRecords_isOk (names : List String) {rows : List Row}
    (h : ∀ row ∈ rows, ∀ e ∈ row, ¬ e.2.TooLarge) : ∃ f, ofRecords names rows = .ok f := by
  have hcolumns : ∀ name ∈ names, ∃ c,
      (do return (name, ← typedColumn (rows.map (·.lookup name))) :
        Except Fault (String × List Datum)) = .ok c := by
    intro name _
    obtain ⟨cells, hcells⟩ := typedColumn_isOk (rows.map (·.lookup name)) <| by
      intro d hd
      obtain ⟨row, hrow, hlookup⟩ := List.mem_map.mp hd
      obtain ⟨l, r, rfl, -⟩ := List.lookup_eq_some_iff.mp hlookup
      exact h _ hrow (name, d) (List.mem_append_right _ List.mem_cons_self)
    exact ⟨(name, cells), by rw [hcells]; rfl⟩
  obtain ⟨columns, hrun⟩ := mapM_isOk hcolumns
  refine ⟨⟨rows.length, columns⟩, ?_⟩
  rw [ofRecords, hrun]
  rfl

/-! ## Columns of records made from items -/

section Items

variable {α : Type} {items : List α} {record : α → Row} {names : List String}

/-- A column whose values are no numbers holds them. -/
theorem column?_of_forall₂ {rows : List Row} (h : ofRecords names rows = .ok f) (hname : name ∈ names)
    (value : α → Datum) (hvalue : List.Forall₂ (fun i row => row.lookup name = some (value i)) items rows)
    (hplain : ∀ i ∈ items, (value i).IsPlain) : f.column? name = some (items.map value) := by
  rcases column?_ofRecords h name with ⟨-, cells, htyped, hcells⟩ | ⟨hnot, -⟩
  · have hvalues : rows.map (·.lookup name) = (items.map value).map some := by
      rw [List.map_map, ← List.forall₂_eq_eq_eq, List.forall₂_map_left_iff, List.forall₂_map_right_iff]
      exact hvalue.flip
    have hall : ∀ d ∈ items.map value, d.IsPlain := List.forall_mem_map.mpr hplain
    rw [hvalues, typedColumn_of_plain hall] at htyped
    rw [hcells, Except.ok.inj htyped]
  · exact absurd hname hnot

theorem column?_plain (h : ofRecords names (items.map record) = .ok f) (hname : name ∈ names)
    (value : α → Datum) (hvalue : ∀ i, (record i).lookup name = some (value i))
    (hplain : ∀ i ∈ items, (value i).IsPlain) : f.column? name = some (items.map value) :=
  column?_of_forall₂ h hname value
    (List.forall₂_map_right_iff.mpr (List.forall₂_same.mpr fun i _ => hvalue i)) hplain

/-- A column of integers holds them. -/
theorem column?_ints (h : ofRecords names (items.map record) = .ok f) (hname : name ∈ names) (n : α → Int)
    (hvalue : ∀ i, (record i).lookup name = some (.int (n i))) :
    f.column? name = some (items.map fun i => .int (n i)) := by
  rcases column?_ofRecords h name with ⟨-, cells, htyped, hcells⟩ | ⟨hnot, -⟩
  · have hvalues : (items.map record).map (·.lookup name)
        = (items.map n).map fun n => some (Datum.int n) := by
      rw [List.map_map, List.map_map]
      exact List.map_congr_left fun i _ => hvalue i
    rw [hvalues] at htyped
    rw [hcells, typedColumn_ints _ htyped, List.map_map]
    rfl
  · exact absurd hname hnot

end Items

/-! ## Rows that are kept -/

/-- The cells of a column that stay. -/
def kept (marks : List Bool) (cells : List Datum) : List Datum := ((cells.zip marks).filter (·.2)).map (·.1)

theorem mem_of_mem_kept {marks : List Bool} {d : Datum} (h : d ∈ kept marks cells) : d ∈ cells := by
  obtain ⟨⟨d, m⟩, hmem, rfl⟩ := List.mem_map.mp h
  exact (List.of_mem_zip (List.mem_of_mem_filter hmem)).1

theorem length_kept_le (marks : List Bool) (cells : List Datum) : (kept marks cells).length ≤ marks.length := by
  rw [kept, List.length_map]
  refine Nat.le_trans (List.length_filter_le _ _) ?_
  rw [List.length_zip]
  exact Nat.min_le_right _ _

theorem kept_cons (m : Bool) (marks : List Bool) (d : Datum) (cells : List Datum) :
    kept (m :: marks) (d :: cells) = if m then d :: kept marks cells else kept marks cells := by
  cases m <;> rfl

theorem column?_keep (marks : List Bool) : (f.keep marks).column? name = (f.column? name).map (kept marks) :=
  lookup_map_snd (kept marks) f.columns name

section Marks

variable {α : Type} (items : List α) (mark : α → Bool)

theorem height_keep (f : Frame) : (f.keep (items.map mark)).height = items.countP mark := by
  show (items.map mark).count true = _
  rw [List.count, List.countP_map]
  exact List.countP_congr fun a _ => by simp

theorem kept_map (value : α → Datum) :
    kept (items.map mark) (items.map value) = (items.filter mark).map value := by
  induction items with
  | nil => rfl
  | cons a r ih =>
      rw [List.map_cons, List.map_cons, kept_cons, List.filter_cons, ih]
      cases mark a <;> rfl

end Marks

end Frame

end StatementTagging
