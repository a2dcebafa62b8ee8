import ReceiptFleet.Table.Layout
import ReceiptFleet.Text.Blank

/-!
Tables: columns and the rows that they were given. A row that is longer than the table adds plain
columns, and every cell is seen by its column.
-/

namespace ReceiptFleet

/-- A table: its columns, and the rows so far with their cells trimmed. -/
structure Table where
  columns : List Table.Column
  rows : List (List String)
deriving DecidableEq, Repr

namespace Table

/-- The table without columns and rows. -/
def empty : Table := ⟨[], []⟩

/-- The columns after a row of cells; cells beyond the last column add plain ones. -/
def observeRow : List Column → List String → List Column
  | columns, [] => columns
  | [], cell :: cells => Column.observe {} (Text.Gbk.width cell) :: observeRow [] cells
  | c :: columns, cell :: cells => c.observe (Text.Gbk.width cell) :: observeRow columns cells

/-- The table with a row added. -/
def pushRow (t : Table) (cells : List String) : Table :=
  let row := cells.map Text.trim
  ⟨observeRow t.columns row, t.rows ++ [row]⟩

/-- The table with columns added. -/
def define (t : Table) (columns : List Column) : Table :=
  { t with columns := t.columns ++ columns }

/-- The table laid out on a line of some width. -/
def layOut (t : Table) (width : Nat) : Table := { t with columns := layout t.columns width }

/-- A row as one line; cells beyond the last column are left out. -/
def renderRow (t : Table) (cells : List String) : String :=
  String.join (List.zipWith (fun c cell => Column.render c (Text.trim cell)) t.columns cells)

end Table

end ReceiptFleet
