import StatementTagging.Datum.Access

set_option autoImplicit false

/-! # Frames

A frame is a table with named columns. When a frame is made from records, each column gets one type:
integers beside missing values or beside numbers with a fraction become floating-point numbers, and
all other columns keep their values.
-/

namespace StatementTagging

/-- Columns of equal height, in order. -/
structure Frame where
  height : Nat
  columns : List (String × List Datum)

/-! ## Types of columns -/

/-- What has been seen of a column. -/
structure ColumnScan where
  /-- A value that is null. -/
  null : Bool := false
  /-- A record without the value, or a value that is not a number. -/
  absent : Bool := false
  bool : Bool := false
  float : Bool := false
  int : Bool := false
  /-- An integer that needs all 64 bits without a sign. -/
  wide : Bool := false
  /-- An integer below zero. -/
  negative : Bool := false

/-- Goes through a column. The answer is nothing as soon as the values must be kept as they are; an
integer too large for any number type is a fault unless that has been settled before. -/
def scanColumn (s : ColumnScan) : List (Option Datum) → Except Fault (Option ColumnScan)
  | [] => .ok (some s)
  | none :: r => scanColumn { s with absent := true } r
  | some .null :: r => scanColumn { s with null := true } r
  | some (.bool _) :: r => scanColumn { s with bool := true } r
  | some (.float x) :: r =>
    scanColumn (if x.isNaN then { s with absent := true } else { s with float := true }) r
  | some (.int n) :: r =>
    if (floatOfInt? n).isNone then .error .numberTooLarge
    else if s.null then scanColumn { s with int := true } r
    else
      let wide := s.wide || (0x7fffffffffffffff < n && n ≤ 0xffffffffffffffff)
      let negative := s.negative || (-0x8000000000000000 ≤ n && n < 0)
      if (wide && negative) || 0xffffffffffffffff < n || n < -0x8000000000000000 then .ok none
      else scanColumn { s with int := true, wide := wide, negative := negative } r
  | some _ :: _ => .ok none

/-- The column is one of floating-point numbers. -/
def ColumnScan.isFloat (s : ColumnScan) : Bool :=
  !s.bool && (s.float || (s.int && (s.null || s.absent)))

/-- A value in a column of floating-point numbers. -/
def asFloat (d : Datum) : Datum :=
  match d with
  | .int n => .float ((floatOfInt? n).getD 0)
  | d => d

/-- A cell: missing values of all kinds are null. -/
def cellOf (d : Option Datum) : Datum :=
  match d with
  | some d => if d.isMissing then .null else d
  | none => .null

/-- The cells of a column with one type. -/
def typedColumn (values : List (Option Datum)) : Except Fault (List Datum) := do
  match ← scanColumn {} values with
  | some s => return values.map fun v => if s.isFloat then asFloat (cellOf v) else cellOf v
  | none => return values.map cellOf

namespace Frame

/-! ## Making frames -/

/-- The frame of records with the given columns. -/
def ofRecords (names : List String) (rows : List Row) : Except Fault Frame := do
  let columns ← names.mapM fun name => do
    return (name, ← typedColumn (rows.map fun row => row.lookup name))
  return ⟨rows.length, columns⟩

/-- The frame of rows, with the columns in order of first appearance. -/
def ofRows (rows : List Row) : Except Fault Frame :=
  ofRecords ((rows.flatten.map (·.1)).eraseDups) rows

/-! ## Looking into frames -/

/-- The names of the columns. -/
def names (f : Frame) : List String := f.columns.map (·.1)

/-- The cells of a column. -/
def column? (f : Frame) (name : String) : Option (List Datum) := f.columns.lookup name

/-- The first `n` rows of columns as records. -/
def rowsFrom (columns : List (String × List Datum)) : Nat → List Row
  | 0 => []
  | n + 1 =>
    columns.map (fun (name, cells) => (name, cells.headD .null))
      :: rowsFrom (columns.map fun (name, cells) => (name, cells.tail)) n

/-- The rows as records; without columns there are none. -/
def rows (f : Frame) : List Row :=
  if f.columns.isEmpty then [] else rowsFrom f.columns f.height

/-- The rows as lists of cells. -/
def cells (f : Frame) : List (List Datum) := f.rows.map fun row => row.map (·.2)

/-- The rows at which a test of the cells of some column holds. -/
def keep (f : Frame) (marks : List Bool) : Frame :=
  let chosen (cells : List Datum) : List Datum :=
    ((cells.zip marks).filter (·.2)).map (·.1)
  { height := marks.count true
    columns := f.columns.map fun (name, cells) => (name, chosen cells) }

/-! ## Changing frames -/

/-- The frame with a column of values: in place of the one with that name, or at the end. There must be
a value for each row. -/
def withColumn (f : Frame) (name : String) (values : List Datum) : Except Fault Frame := do
  if values.length ≠ f.height then throw (.lengthMismatch values.length f.height)
  let cells ← typedColumn (values.map some)
  return { f with columns := upsert (· == ·) name cells f.columns }

end Frame

end StatementTagging
