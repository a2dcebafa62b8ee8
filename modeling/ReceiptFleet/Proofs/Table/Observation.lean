import ReceiptFleet.Proofs.Table.Sharing

/-!
What the columns of a table have seen. A column sees the cells at its place, in whatever order the rows
come, and keeps the least and the greatest of their widths; a layout reads these two and what the column was
defined to be, and nothing that an earlier layout has left. So a table that is filled and laid out in turns
comes to the same columns as one that is given its rows in another order and is laid out once.
-/

namespace ReceiptFleet.Table

open ReceiptFleet.Text (trim)

-----------------------------------------------------------------------------------------
-- Rows as their columns see them
-----------------------------------------------------------------------------------------

/-- The widths of the cells at a place, as their column sees them. -/
def widthsAt (i : Nat) (rows : List (List String)) : List Nat :=
  rows.filterMap fun row => row[i]?.map fun cell => Text.Gbk.width (trim cell)

/-- The number of cells of the longest row. -/
def longest (rows : List (List String)) : Nat := (rows.map List.length).max?.getD 0

/-- The column of cells beyond all columns that there are. -/
def Column.plain : Column := {}

/-- Columns that have seen rows, each of them the cells at its place. -/
def observing (columns : List Column) (rows : List (List String)) : List Column :=
  columns.mapIdx fun i c => (widthsAt i rows).foldl Column.observe c

@[simp] theorem longest_nil : longest [] = 0 := rfl

@[simp] theorem longest_cons (row : List String) (rows : List (List String))
    : longest (row :: rows) = max row.length (longest rows) := by
  rw [longest, longest, List.map_cons, List.max?_cons]
  cases (rows.map List.length).max? <;> simp

theorem longest_le_iff {rows : List (List String)} {n : Nat}
    : longest rows ≤ n ↔ ∀ row ∈ rows, row.length ≤ n := by
  induction rows with
  | nil => simp
  | cons row rows ih => simp only [longest_cons, Nat.max_le, ih, List.forall_mem_cons]

theorem longest_append (rows more : List (List String))
    : longest (rows ++ more) = max (longest rows) (longest more) := by
  induction rows with
  | nil => simp
  | cons row rows ih => simp [ih, Nat.max_assoc]

theorem widthsAt_append (i : Nat) (rows more : List (List String))
    : widthsAt i (rows ++ more) = widthsAt i rows ++ widthsAt i more :=
  List.filterMap_append

/-- Rows have no cells beyond the longest of them. -/
theorem widthsAt_eq_nil_iff {i : Nat} {rows : List (List String)}
    : widthsAt i rows = [] ↔ longest rows ≤ i := by
  induction rows with
  | nil => simp [widthsAt]
  | cons row rows ih =>
      rw [widthsAt] at ih
      rw [widthsAt, List.filterMap_cons, longest_cons, Nat.max_le, ← ih]
      cases cell : row[i]? with
      | none =>
          have beyond : row.length ≤ i := List.getElem?_eq_none_iff.mp cell
          simp only [Option.map_none, beyond, true_and]
      | some text =>
          have reaches : i < row.length := (List.getElem?_eq_some_iff.mp cell).1
          simp [Nat.not_le_of_lt reaches]

theorem rightpad_of_le {α : Type} {xs : List α} {n : Nat} (enough : n ≤ xs.length) (x : α)
    : xs.rightpad n x = xs := by
  rw [List.rightpad, Nat.sub_eq_zero_of_le enough, List.replicate_zero, List.append_nil]

theorem rightpad_rightpad {α : Type} (xs : List α) (n m : Nat) (x : α)
    : (xs.rightpad n x).rightpad m x = xs.rightpad (max n m) x := by
  rw [List.rightpad, List.length_rightpad, List.rightpad, List.rightpad, List.append_assoc,
    List.replicate_append_replicate]
  congr 2
  omega

theorem map_rightpad {α β : Type} (f : α → β) (xs : List α) (n : Nat) (x : α)
    : (xs.rightpad n x).map f = (xs.map f).rightpad n (f x) := by
  rw [List.rightpad, List.map_append, List.map_replicate, List.rightpad, List.length_map]

@[simp] theorem length_observing (columns : List Column) (rows : List (List String))
    : (observing columns rows).length = columns.length :=
  List.length_mapIdx

theorem getElem?_observing (columns : List Column) (rows : List (List String)) (i : Nat)
    : (observing columns rows)[i]?
      = columns[i]?.map ((widthsAt i rows).foldl Column.observe) :=
  List.getElem?_mapIdx

@[simp] theorem observing_nil (columns : List Column)
    : observing columns [] = columns := by
  refine List.ext_getElem? fun i => ?_
  rw [getElem?_observing]
  exact Option.map_id_apply

theorem observing_observing (columns : List Column) (rows more : List (List String))
    : observing (observing columns rows) more = observing columns (rows ++ more) := by
  refine List.ext_getElem? fun i => ?_
  simp only [getElem?_observing, Option.map_map, widthsAt_append]
  congr 1
  funext c
  exact List.foldl_append.symm

/-- Columns behind the longest row have seen nothing. -/
theorem observing_append {columns : List Column} {rows : List (List String)}
    (fit : longest rows ≤ columns.length) (more : List Column)
    : observing (columns ++ more) rows = observing columns rows ++ more := by
  rw [observing, List.mapIdx_append, observing]
  congr 1
  refine List.ext_getElem? fun i => ?_
  have unseen : widthsAt (i + columns.length) rows = [] := widthsAt_eq_nil_iff.mpr (by omega)
  rw [List.getElem?_mapIdx, unseen]
  exact Option.map_id_apply

theorem rightpad_observing {columns : List Column} {rows : List (List String)}
    (fit : longest rows ≤ columns.length) (count : Nat)
    : (observing columns rows).rightpad count .plain
      = observing (columns.rightpad count .plain) rows := by
  rw [List.rightpad, length_observing, List.rightpad, observing_append fit]

/-- A row is seen place by place, by induction over its cells. -/
theorem getElem?_observeRow (columns : List Column) (cells : List String) (i : Nat)
    : (observeRow columns cells)[i]?
      = (cells[i]?.map fun cell =>
          (columns[i]?.getD .plain).observe (Text.Gbk.width cell)).or columns[i]? := by
  induction cells generalizing columns i with
  | nil => cases columns <;> rfl
  | cons cell cells ih =>
      cases columns <;> cases i with
      | zero => rfl
      | succ i => simp only [observeRow, List.getElem?_cons_succ, ih, List.getElem?_nil]

theorem columns_pushRow (t : Table) (row : List String)
    : (t.pushRow row).columns = observing (t.columns.rightpad row.length .plain) [row] := by
  refine List.ext_getElem? fun i => ?_
  have seen : (t.pushRow row).columns = observeRow t.columns (row.map trim) := rfl
  rw [seen, getElem?_observeRow, getElem?_observing, List.rightpad, List.getElem?_map]
  cases found : row[i]? with
  | none =>
      have beyond : row.length ≤ i := List.getElem?_eq_none_iff.mp found
      have unseen : widthsAt i [row] = [] := widthsAt_eq_nil_iff.mpr (by simpa using beyond)
      have noMore : (List.replicate (row.length - t.columns.length) Column.plain)[i - t.columns.length]?
          = none := by
        rw [List.getElem?_replicate, if_neg (by omega)]
      rw [unseen, Option.map_none, Option.map_none, Option.none_or, List.getElem?_append, noMore]
      split
      · exact Option.map_id_apply.symm
      · rw [List.getElem?_eq_none (by omega)]
        rfl
  | some cell =>
      have reaches : i < row.length := (List.getElem?_eq_some_iff.mp found).1
      have widths : widthsAt i [row] = [Text.Gbk.width (trim cell)] := by
        simp [widthsAt, found]
      rw [widths, Option.map_some, Option.map_some, Option.some_or, List.getElem?_append]
      split
      · rename_i within
        rw [List.getElem?_eq_getElem within]
        rfl
      · rename_i new
        rw [List.getElem?_eq_none (by omega), List.getElem?_replicate, if_pos (by omega)]
        rfl

/-- Rows are seen by the columns that there are, and by plain ones for the cells beyond them. The induction
is over the rows. -/
theorem columns_foldl_pushRow (t : Table) (rows : List (List String))
    : (rows.foldl pushRow t).columns
      = observing (t.columns.rightpad (longest rows) .plain) rows := by
  induction rows generalizing t with
  | nil =>
      rw [longest_nil, rightpad_of_le (Nat.zero_le _), observing_nil]
      rfl
  | cons row rows ih =>
      have fit : longest [row] ≤ (t.columns.rightpad row.length .plain).length := by
        rw [List.length_rightpad, longest_cons, longest_nil, Nat.max_zero]
        exact Nat.le_max_left _ _
      rw [List.foldl_cons, ih, columns_pushRow, rightpad_observing fit, observing_observing,
        rightpad_rightpad, longest_cons]
      rfl

-----------------------------------------------------------------------------------------
-- Least and greatest widths
-----------------------------------------------------------------------------------------

/-- A column keeps the least and the greatest of the widths that it has seen, by induction over them. -/
theorem foldl_observe (c : Column) (widths : List Nat)
    : widths.foldl Column.observe c
      = { c with
          minLength := (c.minLength.toList ++ widths).min?
          maxLength := (c.maxLength :: widths).max?.getD 0 } := by
  simp only [List.max?_cons', Option.getD_some]
  induction widths generalizing c with
  | nil => obtain ⟨_, _, _ | _, _, _, _⟩ := c <;> rfl
  | cons width widths ih => obtain ⟨_, _, _ | _, _, _, _⟩ := c <;> exact ih _

/-- A column that has seen nothing before has seen the least and the greatest of the widths. -/
theorem foldl_observe_new (align : Align) (expand : Bool) (widths : List Nat)
    : widths.foldl Column.observe { align, expand }
      = { align, expand, minLength := widths.min?, maxLength := widths.max?.getD 0 } := by
  rw [foldl_observe, List.max?_cons]
  cases widths.max? <;> simp

/-- The least of some numbers depends on which they are, and not on their order. -/
theorem min?_congr {xs ys : List Nat} (same : ∀ x, x ∈ xs ↔ x ∈ ys)
    : xs.min? = ys.min? := by
  refine Option.ext fun least => ?_
  simp only [List.min?_eq_some_iff, same]

theorem max?_congr {xs ys : List Nat} (same : ∀ x, x ∈ xs ↔ x ∈ ys)
    : xs.max? = ys.max? := by
  refine Option.ext fun greatest => ?_
  simp only [List.max?_eq_some_iff, same]

/-- What columns have seen depends on which rows they were, and not on their order. -/
theorem observing_congr (columns : List Column) {rows others : List (List String)}
    (same : ∀ row, row ∈ others ↔ row ∈ rows)
    : observing columns others = observing columns rows := by
  refine List.ext_getElem? fun i => ?_
  have widths (width : Nat) : width ∈ widthsAt i others ↔ width ∈ widthsAt i rows := by
    simp only [widthsAt, List.mem_filterMap, same]
  simp only [getElem?_observing]
  congr 1
  funext c
  have least
      : (c.minLength.toList ++ widthsAt i others).min?
        = (c.minLength.toList ++ widthsAt i rows).min? :=
    min?_congr fun width => by rw [List.mem_append, List.mem_append, widths]
  have greatest
      : (c.maxLength :: widthsAt i others).max? = (c.maxLength :: widthsAt i rows).max? :=
    max?_congr fun width => by rw [List.mem_cons, List.mem_cons, widths]
  rw [foldl_observe, foldl_observe, least, greatest]

theorem longest_congr {rows others : List (List String)}
    (same : ∀ row, row ∈ others ↔ row ∈ rows)
    : longest others = longest rows := by
  have greatest : (others.map List.length).max? = (rows.map List.length).max? :=
    max?_congr fun length => by simp only [List.mem_map, same]
  rw [longest, greatest, longest]

end ReceiptFleet.Table
