import ReceiptFleet.Job.Instruction
import ReceiptFleet.Text.Gbk

/-!
The columns of a table. A column watches the widths of its cells, is then given a length, and pads
each cell to that length.
-/

namespace ReceiptFleet.Table

/-- A column: how its cells stand in it, whether it takes up free space, the least and the greatest
width of its cells so far, and the length and the right margin that a layout gave it. -/
structure Column where
  align : Align := .left
  expand : Bool := false
  minLength : Option Nat := none
  maxLength : Nat := 0
  length : Nat := 0
  margin : Nat := 1
deriving DecidableEq, Repr, Inhabited

namespace Column

/-- The column after one more cell of some width. -/
def observe (c : Column) (width : Nat) : Column :=
  { c with
    minLength := some ((c.minLength.map (min · width)).getD width)
    maxLength := max c.maxLength width }

/-- So many spaces. -/
def spaces (n : Nat) : String := String.ofList (List.replicate n ' ')

/-- How many spaces stand before and after a cell of some width, the margin included. A cell that
is too wide has none but the margin; in the middle, an odd space goes to the right. -/
def padding (c : Column) (width : Nat) : Nat × Nat :=
  let free := c.length - width
  match c.align with
  | .left => (0, free + c.margin)
  | .right => (free, c.margin)
  | .center => (free / 2, free - free / 2 + c.margin)

/-- The spaces before and after a cell. -/
def pad (c : Column) (cell : String) : String × String :=
  let (before, after) := c.padding (Text.Gbk.width cell)
  (spaces before, spaces after)

/-- A cell with its spaces. -/
def render (c : Column) (cell : String) : String := (c.pad cell).1 ++ cell ++ (c.pad cell).2

end Column

end ReceiptFleet.Table
