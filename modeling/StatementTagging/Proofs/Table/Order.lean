import StatementTagging.Field
import StatementTagging.Proofs.Table.Frame

set_option autoImplicit false

/-! # The rows of a frame in an order

A list of numbers of rows makes a frame out of another one: its rows are those with these numbers, in this
order (`Frame.inOrder`). The whole frame is the one for all numbers in their own order
(`inOrder_range`), and the rows that a test keeps are those for the numbers that pass it (`keep_inOrder`). So
what holds of all orders of rows is a statement about lists of numbers.
-/

namespace StatementTagging.Frame

variable {f : Frame} {order order' : List Nat}

/-- Every column has a cell for each row. -/
def IsRectangular (f : Frame) : Prop := ∀ column ∈ f.columns, column.2.length = f.height

instance : DecidablePred IsRectangular := fun f =>
  inferInstanceAs (Decidable (∀ column ∈ f.columns, column.2.length = f.height))

/-- The cells with the given numbers; beyond the end they are null. -/
def cellsAt (order : List Nat) (cells : List Datum) : List Datum := order.map fun i => cells.getD i .null

/-- The rows with the given numbers, in that order. -/
def inOrder (f : Frame) (order : List Nat) : Frame :=
  { height := order.length
    columns := f.columns.map fun (name, cells) => (name, cellsAt order cells) }

theorem height_inOrder (f : Frame) (order : List Nat) : (f.inOrder order).height = order.length := rfl

theorem column?_inOrder (f : Frame) (order : List Nat) (name : String) :
    (f.inOrder order).column? name = (f.column? name).map (cellsAt order) :=
  lookup_map_snd (cellsAt order) f.columns name

theorem cellsAt_range (cells : List Datum) : cellsAt (List.range cells.length) cells = cells := by
  refine List.ext_getElem (by simp [cellsAt]) fun i hi hi' => ?_
  simp [cellsAt, List.getD_eq_getElem?_getD, List.getElem?_eq_getElem hi']

/-- **All rows in their own order** are the frame. -/
theorem inOrder_range (hf : f.IsRectangular) : f.inOrder (List.range f.height) = f := by
  have hcolumns : (f.columns.map fun (name, cells) => (name, cellsAt (List.range f.height) cells))
      = f.columns := by
    refine (List.map_congr_left fun column hcolumn => ?_).trans (List.map_id _)
    show (column.1, cellsAt (List.range f.height) column.2) = column
    rw [← hf column hcolumn, cellsAt_range]
  rw [inOrder, hcolumns, List.length_range]

/-- **The rows that a test of their numbers keeps.** -/
theorem keep_inOrder (f : Frame) (order : List Nat) (test : Nat → Bool) :
    (f.inOrder order).keep (order.map test) = f.inOrder (order.filter test) := by
  have hheight : ((f.inOrder order).keep (order.map test)).height = (order.filter test).length := by
    rw [height_keep, List.countP_eq_length_filter]
  have hcolumns : ((f.inOrder order).keep (order.map test)).columns
      = (f.inOrder (order.filter test)).columns := by
    show (f.columns.map _).map _ = f.columns.map _
    rw [List.map_map]
    refine List.map_congr_left fun column _ => ?_
    exact Prod.ext rfl (kept_map order test fun i => column.2.getD i .null)
  exact congrArg₂ Frame.mk hheight hcolumns

/-- A row of a frame by its number. -/
def rowAt (f : Frame) (i : Nat) : Row := f.columns.map fun (name, cells) => (name, cells.getD i .null)

theorem rows_inOrder (f : Frame) (order : List Nat) :
    (f.inOrder order).rows = if f.columns = [] then [] else order.map f.rowAt := by
  by_cases hcolumns : f.columns = []
  · rw [if_pos hcolumns, rows, if_pos (by simp [inOrder, hcolumns])]
  · rw [if_neg hcolumns, rows, if_neg (by simp [inOrder, hcolumns]), rowsFrom_eq, height_inOrder]
    refine List.ext_getElem (by simp) fun i hi hi' => ?_
    rw [List.length_map] at hi'
    simp [inOrder, rowAt, cellsAt, List.getD_eq_getElem?_getD, List.getElem?_eq_getElem hi',
      Function.comp_def]

/-- The same rows in another order. -/
theorem rows_perm (f : Frame) (h : order.Perm order') :
    (f.inOrder order).rows.Perm (f.inOrder order').rows := by
  rw [rows_inOrder, rows_inOrder]
  split
  · exact List.Perm.refl []
  · exact h.map f.rowAt

end StatementTagging.Frame
