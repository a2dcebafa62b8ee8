import ReceiptFleet.Table.Column

/-!
Layout: how a line's columns are shared out among the columns of a table. Expanding columns share
what the others leave, with one space between neighbours; without an expanding column what is left
becomes margin between the columns; and a single column that does not expand spans the line.
-/

namespace ReceiptFleet.Table

/-- The widths that the columns which do not expand ask for, together. -/
def fixedWidth : List Column → Nat
  | [] => 0
  | c :: rest => (if c.expand then 0 else c.maxLength) + fixedWidth rest

/-- How many columns expand. -/
def expanding (columns : List Column) : Nat := (columns.filter Column.expand).length

/-- What there is to share out: the expanding columns, the gaps between columns, the space that the
expanding columns share or else the gaps, and the whole width. -/
structure Shares where
  slots : Nat
  gaps : Nat
  free : Nat
  width : Nat
deriving DecidableEq

/-- The shares of a line of some width. -/
def Shares.of (columns : List Column) (width : Nat) : Shares :=
  let slots := expanding columns
  let gaps := columns.length - 1
  let taken := fixedWidth columns + if slots = 0 then 0 else gaps
  ⟨slots, gaps, width - taken, width⟩

/-- The length of a column; the first expanding one takes what cannot be shared evenly. -/
def Shares.length (s : Shares) (firstExpanding : Bool) (c : Column) : Nat :=
  if s.slots > 0 then
    if c.expand then s.free / s.slots + if firstExpanding then s.free % s.slots else 0
    else c.maxLength
  else if s.gaps > 0 then c.maxLength
  else max s.width c.maxLength

/-- The margin of a column; the first column takes what cannot be shared evenly, the last has none. -/
def Shares.margin (s : Shares) (first last : Bool) : Nat :=
  if last then 0
  else if s.slots > 0 then 1
  else s.free / s.gaps + if first then s.free % s.gaps else 0

/-- Gives the columns their lengths and margins, from the left. -/
def Shares.place (s : Shares) (first firstExpanding : Bool) : List Column → List Column
  | [] => []
  | c :: rest =>
    { c with length := s.length firstExpanding c, margin := s.margin first rest.isEmpty }
      :: s.place false (firstExpanding && !c.expand) rest

/-- Lays out columns on a line of some width. -/
def layout (columns : List Column) (width : Nat) : List Column :=
  (Shares.of columns width).place true true columns

end ReceiptFleet.Table
