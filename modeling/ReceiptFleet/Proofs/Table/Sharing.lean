import ReceiptFleet.Proofs.Table.Rows

/-!
How a layout shares out a line. The lengths and margins of the columns come to the whole width of
the line, or to what the columns need if that is more; and a column that does not expand has room for
its widest cell.
-/

namespace ReceiptFleet.Table

/-- The widest cells of all columns, side by side. -/
def contentWidth (columns : List Column) : Nat := (columns.map Column.maxLength).sum

/-- What columns need at least: the widest cells of those that do not expand, and a space between
neighbours if others do. -/
def needed (columns : List Column) : Nat :=
  fixedWidth columns + if expanding columns = 0 then 0 else columns.length - 1

@[simp] theorem expanding_cons (c : Column) (columns : List Column)
    : expanding (c :: columns) = (if c.expand then 1 else 0) + expanding columns := by
  cases expands : c.expand <;> simp [expanding, expands, Nat.add_comm]

theorem fixedWidth_le_contentWidth (columns : List Column)
    : fixedWidth columns ≤ contentWidth columns := by
  induction columns with
  | nil => exact Nat.le_refl _
  | cons c columns ih =>
      simp only [fixedWidth, contentWidth, List.map_cons, List.sum_cons] at ih ⊢
      split <;> omega

/-- The content of an expanding column is not counted among the others. -/
theorem maxLength_add_fixedWidth_le {columns : List Column} {c : Column} (member : c ∈ columns)
    (expands : c.expand = true)
    : c.maxLength + fixedWidth columns ≤ contentWidth columns := by
  induction columns with
  | nil => cases member
  | cons first columns ih =>
      simp only [fixedWidth, contentWidth, List.map_cons, List.sum_cons] at ih ⊢
      rcases List.mem_cons.mp member with rfl | later
      · have rest := fixedWidth_le_contentWidth columns
        simp only [contentWidth] at rest
        simp only [expands, if_true]
        omega
      · have rest := ih later
        split <;> omega

namespace Shares

variable (s : Shares) (first firstExpanding : Bool)

-----------------------------------------------------------------------------------------
-- What a layout leaves as it was
-----------------------------------------------------------------------------------------

@[simp] theorem length_place (columns : List Column)
    : (s.place first firstExpanding columns).length = columns.length := by
  induction columns generalizing first firstExpanding with
  | nil => rfl
  | cons c columns ih => simp only [place, List.length_cons, ih]

/-- Columns that are placed have seen the rows that they had seen before. -/
theorem covers_place {columns : List Column} {cells : List String}
    (covers : Covers columns cells)
    : Covers (s.place first firstExpanding columns) cells := by
  induction columns generalizing cells first firstExpanding with
  | nil => exact covers
  | cons c columns ih =>
      cases cells with
      | nil => trivial
      | cons cell cells => exact ⟨covers.1, ih _ _ covers.2⟩

/-- A placed column is one of the columns, with a length for its place in the line. -/
theorem origin_of_mem_place {columns : List Column} {c : Column}
    (member : c ∈ s.place first firstExpanding columns)
    : ∃ d ∈ columns, c.expand = d.expand ∧ c.maxLength = d.maxLength
        ∧ ∃ lead, c.length = s.length lead d := by
  induction columns generalizing first firstExpanding with
  | nil => cases member
  | cons d columns ih =>
      rcases List.mem_cons.mp member with rfl | later
      · exact ⟨d, List.mem_cons_self, rfl, rfl, firstExpanding, rfl⟩
      · obtain ⟨e, member, same⟩ := ih _ _ later
        exact ⟨e, List.mem_cons_of_mem _ member, same⟩

-----------------------------------------------------------------------------------------
-- The sums of lengths and of margins
-----------------------------------------------------------------------------------------

/-- Expanding columns share what is free for them, and the first of them takes what is left over.
The induction is over the columns, of which the leading ones have their shares already. -/
theorem sum_length_of_slots (slots : 0 < s.slots) (columns : List Column)
    : ((s.place first firstExpanding columns).map Column.length).sum
      = fixedWidth columns + expanding columns * (s.free / s.slots)
        + if firstExpanding = true ∧ 0 < expanding columns then s.free % s.slots else 0 := by
  induction columns generalizing first firstExpanding with
  | nil => simp [place, fixedWidth, expanding]
  | cons c columns ih =>
      simp only [place, List.map_cons, List.sum_cons, ih, length, if_pos slots, fixedWidth,
        expanding_cons]
      cases expands : c.expand with
      | false =>
          simp only [Bool.false_eq_true, if_false, Nat.zero_add, Bool.not_false, Bool.and_true]
          omega
      | true =>
          have counted : 0 < 1 + expanding columns := by omega
          simp only [if_true, Nat.zero_add, Nat.add_mul, Nat.one_mul, Bool.not_true,
            Bool.and_false, Bool.false_eq_true, false_and, if_false, counted, and_true]
          omega

/-- Without expanding columns, columns with gaps between them are as long as their widest cells. -/
theorem sum_length_of_gaps (noSlots : s.slots = 0) (gaps : 0 < s.gaps) {columns : List Column}
    (fixed : expanding columns = 0)
    : ((s.place first firstExpanding columns).map Column.length).sum = fixedWidth columns := by
  induction columns generalizing first firstExpanding with
  | nil => rfl
  | cons c columns ih =>
      rw [expanding_cons] at fixed
      have here : c.expand = false := by
        cases expands : c.expand with
        | false => rfl
        | true => simp [expands] at fixed
      simp only [place, List.map_cons, List.sum_cons, ih _ _ (by omega), length, noSlots, here,
        fixedWidth, Nat.lt_irrefl, if_false, if_pos gaps, Bool.false_eq_true]

/-- All columns but the last have a margin; that of the first one is the greatest. -/
theorem sum_margin (columns : List Column)
    : ((s.place first firstExpanding columns).map Column.margin).sum
      = (columns.length - 1) * s.margin false false
        + if first = true ∧ 1 < columns.length then s.margin true false - s.margin false false
          else 0 := by
  have greater : s.margin false false ≤ s.margin true false := by
    by_cases slots : 0 < s.slots <;> simp [margin, slots]
  induction columns generalizing first firstExpanding with
  | nil => simp [place]
  | cons c columns ih =>
      simp only [place, List.map_cons, List.sum_cons, ih]
      cases columns with
      | nil => simp [margin]
      | cons d columns =>
          simp only [List.isEmpty_cons, List.length_cons, Nat.add_sub_cancel, Bool.false_eq_true,
            false_and, if_false, Nat.add_mul]
          cases first <;> simp <;> omega

end Shares

theorem extent_eq (columns : List Column)
    : extent columns = (columns.map Column.length).sum + (columns.map Column.margin).sum := by
  induction columns with
  | nil => rfl
  | cons c columns ih =>
      simp only [extent, List.map_cons, List.sum_cons] at ih ⊢
      omega

-----------------------------------------------------------------------------------------
-- Layouts
-----------------------------------------------------------------------------------------

@[simp] theorem length_layout (columns : List Column) (width : Nat)
    : (layout columns width).length = columns.length :=
  Shares.length_place _ _ _ columns

theorem Covers.layout {columns : List Column} {cells : List String}
    (covers : Covers columns cells) (width : Nat)
    : Covers (layout columns width) cells :=
  Shares.covers_place _ _ _ covers

/-- A layout comes to the width of the line, or to what its columns need if that is more. The cases
are those of the layout: expanding columns, gaps that grow, and a single column. -/
theorem extent_layout {columns : List Column} (nonempty : columns ≠ []) (width : Nat)
    : extent (layout columns width) = max width (needed columns) := by
  have counted : 0 < columns.length := List.length_pos_iff.mpr nonempty
  have shares : (Shares.of columns width).slots = expanding columns := rfl
  rw [extent_eq, layout, Shares.sum_margin]
  by_cases slots : 0 < expanding columns
  · rw [Shares.sum_length_of_slots _ _ _ (shares ▸ slots)]
    have whole := Nat.div_add_mod (width - (fixedWidth columns + (columns.length - 1)))
      (expanding columns)
    simp only [Shares.of, Shares.margin, needed, slots, Nat.ne_of_gt slots, if_true, if_false,
      true_and, Bool.false_eq_true, Nat.mul_one, Nat.sub_self, ite_self]
    omega
  · have fixed : expanding columns = 0 := by omega
    by_cases gaps : 0 < columns.length - 1
    · rw [Shares.sum_length_of_gaps _ _ _ (shares.trans fixed) gaps fixed]
      have whole := Nat.div_add_mod (width - fixedWidth columns) (columns.length - 1)
      have several : 1 < columns.length := by omega
      simp only [Shares.of, Shares.margin, needed, fixed, several, if_true, if_false, true_and,
        Bool.false_eq_true, Nat.lt_irrefl, Nat.add_zero]
      omega
    · obtain ⟨c, rfl⟩ : ∃ c, columns = [c] := List.length_eq_one_iff.mp (by omega)
      have alone : c.expand = false := by
        cases expands : c.expand with
        | false => rfl
        | true => simp [expands] at fixed
      simp [Shares.of, Shares.place, Shares.length, needed, fixedWidth, expanding, alone]

/-- A column that does not expand has room for all of its cells. -/
theorem maxLength_le_length_of_fixed {columns : List Column} {width : Nat} {c : Column}
    (member : c ∈ layout columns width) (fixed : c.expand = false)
    : c.maxLength ≤ c.length := by
  obtain ⟨d, _, sameExpand, sameLength, lead, long⟩ := Shares.origin_of_mem_place _ _ _ member
  rw [long, sameLength, Shares.length, ← sameExpand, fixed]
  split
  · exact Nat.le_refl _
  · split
    · exact Nat.le_refl _
    · exact Nat.le_max_right _ _

/-- The cells of columns that do not expand fit into them. -/
theorem Covers.width_le_length {columns : List Column} {cells : List String} {width : Nat}
    (covers : Covers (Table.layout columns width) cells) {c : Column} {cell : String}
    (member : (c, cell) ∈ (Table.layout columns width).zip cells) (fixed : c.expand = false)
    : Text.Gbk.width cell ≤ c.length :=
  Nat.le_trans (covers.width_le member)
    (maxLength_le_length_of_fixed (List.of_mem_zip member).1 fixed)

/-- A column that expands alone takes all that the others leave. -/
theorem length_of_lone {columns : List Column} {width : Nat} {c : Column}
    (member : c ∈ layout columns width) (expands : c.expand = true)
    (alone : expanding columns = 1)
    : c.length = width - (fixedWidth columns + (columns.length - 1)) := by
  obtain ⟨d, _, sameExpand, _, lead, long⟩ := Shares.origin_of_mem_place _ _ _ member
  rw [long]
  simp [Shares.length, Shares.of, ← sameExpand, expands, alone, Nat.mod_one]

end ReceiptFleet.Table
