import Mathlib.Algebra.GroupWithZero.Nat
import ReceiptFleet.Proofs.Text.Trimming
import ReceiptFleet.Table.Basic

/-!
Rows and their columns. The columns of a table have seen every cell of every row that the table was
given, and a rendered row takes, for each column, the greater of the column's length and the cell's
width, and the margin.
-/

namespace ReceiptFleet.Table

open ReceiptFleet.Text (trim)

-----------------------------------------------------------------------------------------
-- Columns that have seen a row
-----------------------------------------------------------------------------------------

/-- The columns have seen a row: there is one for each of its cells, and none of these is wider than
the widest cell of its column. -/
def Covers : List Column → List String → Prop
  | _, [] => True
  | [], _ :: _ => False
  | c :: columns, cell :: cells => Text.Gbk.width cell ≤ c.maxLength ∧ Covers columns cells

theorem Covers.length_le {columns : List Column} {cells : List String}
    (covers : Covers columns cells)
    : cells.length ≤ columns.length := by
  induction columns generalizing cells with
  | nil =>
      cases cells with
      | nil => exact Nat.le_refl _
      | cons cell cells => exact covers.elim
  | cons c columns ih =>
      cases cells with
      | nil => exact Nat.zero_le _
      | cons cell cells => exact Nat.succ_le_succ (ih covers.2)

theorem Covers.width_le {columns : List Column} {cells : List String}
    (covers : Covers columns cells) {c : Column} {cell : String}
    (member : (c, cell) ∈ columns.zip cells)
    : Text.Gbk.width cell ≤ c.maxLength := by
  induction columns generalizing cells with
  | nil => cases member
  | cons first columns ih =>
      cases cells with
      | nil => cases member
      | cons text cells =>
          rcases List.mem_cons.mp member with same | later
          · obtain ⟨rfl, rfl⟩ := Prod.mk.inj same
            exact covers.1
          · exact ih covers.2 later

/-- Empty cells behind a row need no more than columns. -/
theorem Covers.append_empty {columns : List Column} {cells : List String}
    (covers : Covers columns cells) {more : Nat} (room : cells.length + more ≤ columns.length)
    : Covers columns (cells ++ List.replicate more "") := by
  induction columns generalizing cells more with
  | nil =>
      obtain ⟨rfl, rfl⟩ : cells = [] ∧ more = 0 := by
        simpa using room
      trivial
  | cons c columns ih =>
      cases cells with
      | cons cell cells =>
          exact ⟨covers.1, ih covers.2 (by simp only [List.length_cons] at room; omega)⟩
      | nil =>
          cases more with
          | zero => trivial
          | succ more =>
              have rest : Covers columns ([] ++ List.replicate more "") :=
                ih (by simp [Covers])
                  (by simp only [List.length_cons, List.length_nil] at room ⊢; omega)
              exact ⟨Nat.zero_le _, rest⟩

theorem Covers.append {columns : List Column} {cells : List String}
    (covers : Covers columns cells) (more : List Column)
    : Covers (columns ++ more) cells := by
  induction columns generalizing cells with
  | nil =>
      cases cells with
      | nil => simp [Covers]
      | cons cell cells => exact covers.elim
  | cons c columns ih =>
      cases cells with
      | nil => trivial
      | cons cell cells => exact ⟨covers.1, ih covers.2⟩

/-- The columns see the row that they are given, by induction over both. -/
theorem covers_observeRow (columns : List Column) (cells : List String)
    : Covers (observeRow columns cells) cells := by
  induction cells generalizing columns with
  | nil => cases columns <;> trivial
  | cons cell cells ih =>
      cases columns with
      | nil => exact ⟨Nat.le_max_right _ _, ih []⟩
      | cons c columns => exact ⟨Nat.le_max_right _ _, ih columns⟩

/-- Columns do not forget a row when they are given another one. -/
theorem Covers.observeRow {columns : List Column} {cells : List String}
    (covers : Covers columns cells) (others : List String)
    : Covers (observeRow columns others) cells := by
  induction columns generalizing cells others with
  | nil =>
      cases cells with
      | nil => cases others <;> trivial
      | cons cell cells => exact covers.elim
  | cons c columns ih =>
      cases others with
      | nil => exact covers
      | cons other others =>
          cases cells with
          | nil => trivial
          | cons cell cells =>
              exact ⟨Nat.le_trans covers.1 (Nat.le_max_left _ _), ih covers.2 others⟩

/-- A table that sees a row at one of its steps and forgets none at the others has seen it in the
end. -/
theorem covers_foldl {α : Type} {step : Table → α → Table} {cells : List String} {item : α}
    (sees : ∀ t, Covers (step t item).columns cells)
    (keeps : ∀ t other, Covers t.columns cells → Covers (step t other).columns cells)
    {items : List α} (member : item ∈ items) (t : Table)
    : Covers (items.foldl step t).columns cells := by
  obtain ⟨before, after, rfl⟩ := List.append_of_mem member
  rw [List.foldl_append, List.foldl_cons]
  have seen := sees (before.foldl step t)
  generalize step (before.foldl step t) item = met at seen
  induction after generalizing met with
  | nil => exact seen
  | cons next after ih => exact ih (by simp) (step met next) (keeps met next seen)

/-- A table has seen each of the rows that it was given. -/
theorem covers_of_pushed (t : Table) {rows : List (List String)} {row : List String}
    (pushed : row ∈ rows)
    : Covers (rows.foldl pushRow t).columns (row.map trim) :=
  covers_foldl (fun _ => covers_observeRow _ _) (fun _ _ covers => covers.observeRow _) pushed t

-----------------------------------------------------------------------------------------
-- The width of a rendered row
-----------------------------------------------------------------------------------------

/-- The width of a row, column by column: a cell takes at least the length of its column, and the
margin stands behind it. -/
def rowWidth (columns : List Column) (cells : List String) : Nat :=
  (List.zipWith (fun c cell => max c.length (Text.Gbk.width cell) + c.margin) columns cells).sum

@[simp] theorem width_spaces (n : Nat)
    : Text.Gbk.width (Column.spaces n) = n := by
  rw [Column.spaces, Text.Gbk.width, String.toList_ofList]
  induction n with
  | zero => rfl
  | succ n ih =>
      rw [List.replicate_succ, Text.Gbk.charsWidth, Text.Gbk.charWidth_space, ih, Nat.add_comm]

/-- The spaces around a cell fill its column and add the margin, whichever way it stands. -/
theorem padding_fills (c : Column) (width : Nat)
    : (c.padding width).1 + width + (c.padding width).2 = max c.length width + c.margin := by
  unfold Column.padding
  cases c.align <;> simp only <;> omega

theorem width_render (c : Column) (cell : String)
    : Text.Gbk.width (c.render cell) = max c.length (Text.Gbk.width cell) + c.margin := by
  simp only [Column.render, Column.pad, Text.Gbk.width_append, width_spaces]
  exact padding_fills c (Text.Gbk.width cell)

/-- A rendered row has the widths of its columns, by induction over the columns. -/
theorem width_renderRow (t : Table) (cells : List String)
    : Text.Gbk.width (t.renderRow cells) = rowWidth t.columns (cells.map trim) := by
  unfold renderRow
  induction t.columns generalizing cells with
  | nil => rfl
  | cons c columns ih =>
      cases cells with
      | nil => rfl
      | cons cell cells =>
          simp only [List.zipWith_cons_cons, String.join_cons, Text.Gbk.width_append, width_render,
            ih, rowWidth, List.map_cons, List.sum_cons]

/-- How far the columns reach: their lengths and margins together. -/
def extent (columns : List Column) : Nat := (columns.map fun c => c.length + c.margin).sum

/-- A row with a cell for every column reaches at least as far as the columns, and farther exactly
if one of its cells is wider than its column. The induction is over the columns. -/
theorem extent_le_rowWidth {columns : List Column} {cells : List String}
    (full : columns.length ≤ cells.length)
    : extent columns ≤ rowWidth columns cells
      ∧ (rowWidth columns cells = extent columns
          ↔ ∀ c cell, (c, cell) ∈ columns.zip cells → Text.Gbk.width cell ≤ c.length) := by
  induction columns generalizing cells with
  | nil => exact ⟨Nat.le_refl _, fun _ => nofun, fun _ => rfl⟩
  | cons c columns ih =>
      cases cells with
      | nil => simp at full
      | cons cell cells =>
          obtain ⟨least, exact_iff⟩ := ih (Nat.le_of_succ_le_succ full)
          simp only [extent, rowWidth, List.map_cons, List.sum_cons, List.zipWith_cons_cons,
            List.zip_cons_cons, List.mem_cons, Prod.mk.injEq] at least exact_iff ⊢
          refine ⟨by omega, ?_⟩
          constructor
          · intro same d text member
            rcases member with ⟨rfl, rfl⟩ | later
            · omega
            · exact exact_iff.mp (by omega) d text later
          · intro fits
            have here := fits c cell (.inl ⟨rfl, rfl⟩)
            have there := exact_iff.mpr fun d text later => fits d text (.inr later)
            omega

/-- A row can only reach farther than the columns by a cell that is wider than its column. -/
theorem exists_wider_of_extent_lt {columns : List Column} {cells : List String}
    (full : columns.length ≤ cells.length) (longer : extent columns < rowWidth columns cells)
    : ∃ c cell, (c, cell) ∈ columns.zip cells ∧ c.length < Text.Gbk.width cell := by
  by_contra none
  have fit (c : Column) (cell : String) (member : (c, cell) ∈ columns.zip cells)
      : Text.Gbk.width cell ≤ c.length :=
    Nat.le_of_not_lt fun wider => none ⟨c, cell, member, wider⟩
  exact Nat.ne_of_gt longer ((extent_le_rowWidth full).2.mpr fit)

end ReceiptFleet.Table
