import Mathlib.Algebra.Order.BigOperators.Group.List
import Mathlib.Algebra.Order.Group.Nat
import ReceiptFleet.Proofs.Table.Sharing

/-!
Layouts in machine words. A layout is computed step by step with numbers below 2^64, where a step fails that
would go beyond them, below zero, or divide by zero. If the line is that short and the widest cells and
the number of columns come to less, no step fails, and the layout is the one in natural numbers.
-/

namespace ReceiptFleet.Table

-----------------------------------------------------------------------------------------
-- Arithmetic that can fail
-----------------------------------------------------------------------------------------

namespace Word

/-- The sum of two words, if it is one. -/
def add? (a b : Nat) : Option Nat := if a + b < 2 ^ 64 then some (a + b) else none

/-- The difference of two words, if it is one. -/
def sub? (a b : Nat) : Option Nat := if b ≤ a then some (a - b) else none

/-- The quotient of two words, if there is one. -/
def div? (a b : Nat) : Option Nat := if b = 0 then none else some (a / b)

/-- The remainder of two words, if there is one. -/
def mod? (a b : Nat) : Option Nat := if b = 0 then none else some (a % b)

/-- The sum of a list of words from the left, if every sum on the way is a word. -/
def sum? (words : List Nat) : Option Nat := words.foldlM add? 0

theorem add?_of_lt {a b : Nat} (small : a + b < 2 ^ 64)
    : add? a b = some (a + b) :=
  if_pos small

theorem sub?_of_le {a b : Nat} (less : b ≤ a)
    : sub? a b = some (a - b) :=
  if_pos less

theorem div?_of_pos {b : Nat} (positive : 0 < b) (a : Nat)
    : div? a b = some (a / b) :=
  if_neg (Nat.ne_of_gt positive)

theorem mod?_of_pos {b : Nat} (positive : 0 < b) (a : Nat)
    : mod? a b = some (a % b) :=
  if_neg (Nat.ne_of_gt positive)

/-- A list of words can be summed up if the whole sum is a word, by induction over the list. -/
theorem sum?_of_lt {words : List Nat} (small : words.sum < 2 ^ 64)
    : sum? words = some words.sum := by
  have onward {words : List Nat} {sofar : Nat} (small : sofar + words.sum < 2 ^ 64)
      : words.foldlM add? sofar = some (sofar + words.sum) := by
    induction words generalizing sofar with
    | nil => rfl
    | cons word words ih =>
        rw [List.sum_cons] at small ⊢
        rw [List.foldlM_cons, add?_of_lt (by omega), Option.bind_eq_bind, Option.bind_some,
          ih (by omega), Nat.add_assoc]
  rw [sum?, onward (by omega), Nat.zero_add]

/-- A share and what is left over after sharing come to no more than what is shared. -/
theorem div_add_mod_le {b : Nat} (positive : 0 < b) (a : Nat)
    : a / b + a % b ≤ a := by
  have least : a / b ≤ b * (a / b) := Nat.le_mul_of_pos_left _ positive
  have whole := Nat.div_add_mod a b
  omega

end Word

-----------------------------------------------------------------------------------------
-- Layouts
-----------------------------------------------------------------------------------------

/-- What is counted before columns are laid out: what the columns that do not expand ask for, how many
expand, how many gaps there are, and the width of the line. -/
structure Counts where
  fixed : Nat
  slots : Nat
  gaps : Nat
  width : Nat

namespace Counts

open Word (add? sub? div? mod? sum?)

/-- The counts of columns on a line. -/
def of? (columns : List Column) (width : Nat) : Option Counts := do
  let fixed ← sum? ((columns.filter (!·.expand)).map Column.maxLength)
  let gaps ← sub? columns.length 1
  return ⟨fixed, expanding columns, gaps, width⟩

/-- A share of what is free, with what is left over for the first to get one. -/
def share? (free among : Nat) (first : Bool) : Option Nat := do
  let share ← div? free among
  if first then add? share (← mod? free among) else return share

/-- A column with its length and its margin. -/
def column? (s : Counts) (first firstExpanding last : Bool) (c : Column) : Option Column := do
  if 0 < s.slots then
    if c.expand then
      let taken ← add? s.fixed s.gaps
      let length ← share? (s.width - taken) s.slots firstExpanding
      return { c with length, margin := if last then 0 else 1 }
    else return { c with length := c.maxLength, margin := if last then 0 else 1 }
  else if 0 < s.gaps then
    let margin ← share? (s.width - s.fixed) s.gaps first
    return { c with length := c.maxLength, margin := if last then 0 else margin }
  else return { c with length := max s.width c.maxLength, margin := if last then 0 else 1 }

/-- Columns with their lengths and margins, from the left. -/
def place? (s : Counts) (first firstExpanding : Bool) : List Column → Option (List Column)
  | [] => some []
  | c :: rest => do
    let placed ← s.column? first firstExpanding rest.isEmpty c
    let others ← s.place? false (firstExpanding && !c.expand) rest
    return placed :: others

end Counts

/-- Lays out columns on a line, in words. -/
def layoutWords? (columns : List Column) (width : Nat) : Option (List Column) :=
  if columns.isEmpty then some [] else (Counts.of? columns width).bind (·.place? true true columns)

/-- The spaces before and after a cell, in words. -/
def Column.paddingWords? (c : Column) (width : Nat) : Option (Nat × Nat) :=
  let free := c.length - width
  match c.align with
  | .left => do return (0, ← Word.add? free c.margin)
  | .right => do return (free, ← Word.add? 0 c.margin)
  | .center => do
    let before ← Word.div? free 2
    let after ← Word.sub? free before
    return (before, ← Word.add? after c.margin)

-----------------------------------------------------------------------------------------
-- No step fails
-----------------------------------------------------------------------------------------

theorem sum_fixed (columns : List Column)
    : ((columns.filter (!·.expand)).map Column.maxLength).sum = fixedWidth columns := by
  induction columns with
  | nil => rfl
  | cons c columns ih =>
      cases expands : c.expand <;> simp [fixedWidth, expands, ih]

namespace Counts

theorem share?_eq {free among : Nat} (small : free < 2 ^ 64) (positive : 0 < among) (first : Bool)
    : share? free among first = some (free / among + if first then free % among else 0) := by
  have bound := Word.div_add_mod_le positive free
  rw [share?, Word.div?_of_pos positive, Word.mod?_of_pos positive]
  cases first with
  | false => rfl
  | true => exact Word.add?_of_lt (by omega)

theorem of?_eq {columns : List Column} (nonempty : columns ≠ []) (width : Nat)
    (small : fixedWidth columns < 2 ^ 64)
    : of? columns width
      = some ⟨fixedWidth columns, expanding columns, columns.length - 1, width⟩ := by
  have counted : 1 ≤ columns.length := List.length_pos_iff.mpr nonempty
  rw [of?, Word.sum?_of_lt (sum_fixed columns ▸ small), Word.sub?_of_le counted, sum_fixed]
  rfl

variable {columns : List Column} {width : Nat}

/-- A column gets its length and its margin without failure. The cases are those of the layout; a
single column that does not expand is the last one. -/
theorem column?_eq (short : width < 2 ^ 64)
    (small : fixedWidth columns + (columns.length - 1) < 2 ^ 64) (first firstExpanding last : Bool)
    (lone : expanding columns = 0 → columns.length - 1 = 0 → last = true) (c : Column)
    : column? ⟨fixedWidth columns, expanding columns, columns.length - 1, width⟩ first firstExpanding
          last c
      = some
          { c with
            length := (Shares.of columns width).length firstExpanding c
            margin := (Shares.of columns width).margin first last } := by
  by_cases slots : 0 < expanding columns
  · have slotted : ¬ expanding columns = 0 := by omega
    have room : width - (fixedWidth columns + (columns.length - 1)) < 2 ^ 64 := by omega
    simp only [column?, Word.add?_of_lt small, share?_eq room slots, slots, Shares.of,
      Shares.length, Shares.margin, slotted, if_true, if_false, Option.bind_eq_bind, Option.bind_some,
      Option.pure_def]
    split <;> rfl
  · have none : expanding columns = 0 := by omega
    by_cases gaps : 0 < columns.length - 1
    · have room : width - fixedWidth columns < 2 ^ 64 := by omega
      simp only [column?, share?_eq room gaps, gaps, none, Shares.of, Shares.length, Shares.margin,
        Nat.lt_irrefl, if_true, if_false, Nat.add_zero, Option.bind_eq_bind, Option.bind_some,
        Option.pure_def]
    · simp only [column?, gaps, none, lone none (by omega), Shares.of, Shares.length,
        Shares.margin, Nat.lt_irrefl, if_true, if_false, Option.pure_def]

/-- Columns are placed without failure. The induction is over the columns that are left to place. -/
theorem place?_eq (short : width < 2 ^ 64)
    (small : fixedWidth columns + (columns.length - 1) < 2 ^ 64) (first firstExpanding : Bool)
    {rest : List Column} (within : rest.length ≤ columns.length)
    : place? ⟨fixedWidth columns, expanding columns, columns.length - 1, width⟩ first firstExpanding
          rest
      = some ((Shares.of columns width).place first firstExpanding rest) := by
  induction rest generalizing first firstExpanding with
  | nil => rfl
  | cons c rest ih =>
      rw [List.length_cons] at within
      have lone : expanding columns = 0 → columns.length - 1 = 0 → rest.isEmpty = true := by
        intro _ single
        rw [List.isEmpty_iff, ← List.length_eq_zero_iff]
        omega
      rw [place?, column?_eq short small first firstExpanding _ lone, ih _ _ (by omega)]
      rfl

end Counts

/-- No step of a layout fails if the line is a word wide and so are the widest cells of the columns
together with their number. -/
theorem layoutWords?_eq {columns : List Column} {width : Nat} (short : width < 2 ^ 64)
    (small : contentWidth columns + columns.length < 2 ^ 64)
    : layoutWords? columns width = some (layout columns width) := by
  have fixed := fixedWidth_le_contentWidth columns
  rw [layoutWords?]
  cases columns with
  | nil => rfl
  | cons c rest =>
      rw [Counts.of?_eq (by simp) width (by omega)]
      exact Counts.place?_eq short (by omega) true true (Nat.le_refl _)

/-- No step of padding a cell fails in a column whose length and margin come to a word. -/
theorem Column.paddingWords?_eq {c : Column} (small : c.length + c.margin < 2 ^ 64) (width : Nat)
    : c.paddingWords? width = some (c.padding width) := by
  unfold paddingWords? padding
  cases c.align with
  | left => simp [Word.add?_of_lt (show c.length - width + c.margin < 2 ^ 64 by omega)]
  | right => simp [Word.add?_of_lt (show 0 + c.margin < 2 ^ 64 by omega)]
  | center =>
      have half : (c.length - width) / 2 ≤ c.length - width := Nat.div_le_self _ 2
      have rest : c.length - width - (c.length - width) / 2 + c.margin < 2 ^ 64 := by omega
      simp [Word.div?_of_pos Nat.two_pos, Word.sub?_of_le half, Word.add?_of_lt rest]

/-- A column of a layout has a length and a margin that come to a word. -/
theorem length_add_margin_lt {columns : List Column} {width : Nat} (short : width < 2 ^ 64)
    (small : contentWidth columns + columns.length < 2 ^ 64) {c : Column}
    (member : c ∈ layout columns width)
    : c.length + c.margin < 2 ^ 64 := by
  have nonempty : columns ≠ [] := by
    rintro rfl
    cases member
  have fixed := fixedWidth_le_contentWidth columns
  have part : c.length + c.margin ≤ extent (layout columns width) :=
    List.le_sum_of_mem (List.mem_map_of_mem member)
  rw [extent_layout nonempty, needed] at part
  split at part <;> omega

end ReceiptFleet.Table
