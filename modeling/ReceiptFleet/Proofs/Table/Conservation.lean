import ReceiptFleet.Proofs.Table.WordLayout

/-!
What a layout gives to each column. The columns come to the width of the line, or to what they need; the
last one has no margin; the others are one space apart if a column expands; and the expanding columns get
equal shares, but for the first, which also gets what cannot be shared.
-/

namespace ReceiptFleet.Table

namespace Shares

variable (s : Shares) (first firstExpanding : Bool)

/-- What a column is told of itself and its cells is not changed by placing it. -/
theorem map_seen_place (columns : List Column)
    : (s.place first firstExpanding columns).map
          (fun c => (c.align, c.expand, c.minLength, c.maxLength))
      = columns.map (fun c => (c.align, c.expand, c.minLength, c.maxLength)) := by
  induction columns generalizing first firstExpanding with
  | nil => rfl
  | cons c columns ih => simp only [place, List.map_cons, ih]

/-- The last of placed columns has no margin, by induction over the columns. -/
theorem getLast?_margin_place {columns : List Column} (nonempty : columns ≠ [])
    : ((s.place first firstExpanding columns).map Column.margin).getLast? = some 0 := by
  induction columns generalizing first firstExpanding with
  | nil => exact absurd rfl nonempty
  | cons c columns ih =>
      cases columns with
      | nil => rfl
      | cons d columns =>
          have later := ih false (firstExpanding && !c.expand) (List.cons_ne_nil d columns)
          rw [place, List.map_cons, List.getLast?_cons, later]
          rfl

/-- If a column expands, placed columns are one space apart, by induction over the columns. -/
theorem map_margin_place (slots : 0 < s.slots) {columns : List Column} (nonempty : columns ≠ [])
    : (s.place first firstExpanding columns).map Column.margin
      = List.replicate (columns.length - 1) 1 ++ [0] := by
  induction columns generalizing first firstExpanding with
  | nil => exact absurd rfl nonempty
  | cons c columns ih =>
      cases columns with
      | nil => rfl
      | cons d columns =>
          have later := ih false (firstExpanding && !c.expand) (List.cons_ne_nil d columns)
          have apart : s.margin first false = 1 := by simp [margin, slots]
          rw [place, List.map_cons, later, List.isEmpty_cons, apart]
          rfl

/-- Expanding columns that are placed behind the first of them get a share each, by induction over the
columns. -/
theorem map_length_place_later (slots : 0 < s.slots) (columns : List Column)
    : ((s.place first false columns).filter Column.expand).map Column.length
      = List.replicate (expanding columns) (s.free / s.slots) := by
  induction columns generalizing first with
  | nil => rfl
  | cons c columns ih =>
      cases expands : c.expand with
      | false => simp [place, expands, ih]
      | true =>
          have share : s.length false c = s.free / s.slots := by simp [length, slots, expands]
          simp [place, expands, ih, share, Nat.add_comm 1, List.replicate_succ]

/-- Of the expanding columns the first also gets what cannot be shared. The induction is over the
columns up to that one. -/
theorem map_length_place (slots : 0 < s.slots) {columns : List Column}
    (counted : 0 < expanding columns)
    : ((s.place first true columns).filter Column.expand).map Column.length
      = (s.free / s.slots + s.free % s.slots)
        :: List.replicate (expanding columns - 1) (s.free / s.slots) := by
  induction columns generalizing first with
  | nil => exact absurd counted (Nat.lt_irrefl 0)
  | cons c columns ih =>
      rw [expanding_cons] at counted
      cases expands : c.expand with
      | false =>
          simp only [expands, Bool.false_eq_true, if_false, Nat.zero_add] at counted
          simp [place, expands, ih false counted]
      | true =>
          have share : s.length true c = s.free / s.slots + s.free % s.slots := by
            simp [length, slots, expands]
          simp [place, expands, share, s.map_length_place_later false slots columns]

end Shares

/-- A column that does not expand is as long as its widest cell, unless it is alone on the line. -/
theorem length_of_fixed {columns : List Column} {width : Nat} {c : Column}
    (member : c ∈ layout columns width) (fixed : c.expand = false) (several : 1 < columns.length)
    : c.length = c.maxLength := by
  obtain ⟨d, _, sameExpand, sameLength, lead, long⟩ := Shares.origin_of_mem_place _ _ _ member
  have gaps : 0 < columns.length - 1 := by omega
  rw [long, sameLength]
  simp [Shares.length, Shares.of, ← sameExpand, fixed, gaps]

/-- A layout of columns on a line. Lengths and margins come to the width of the line, or to what the
columns need if that is more; the last margin is none; a column that does not expand has room for its widest
cell, and no more unless it is alone; if columns expand, all margins but the last are one, and the expanding
columns share what is free, the first of them with what is left over; and nothing else of a column is
changed. On a line that is a machine word wide, no step of the layout or of padding a cell afterwards
leaves the words or divides by zero, if the widest cells and the number of columns come to a word. -/
theorem layout_conserves_width {columns : List Column} (nonempty : columns ≠ []) (width : Nat)
    : let laid := layout columns width
      (laid.map Column.length).sum + (laid.map Column.margin).sum = max width (needed columns)
      ∧ (laid.map Column.margin).getLast? = some 0
      ∧ (∀ c ∈ laid,
          c.expand = false
          → c.maxLength ≤ c.length ∧ (1 < columns.length → c.length = c.maxLength))
      ∧ (0 < expanding columns
          → laid.map Column.margin = List.replicate (columns.length - 1) 1 ++ [0]
            ∧ ∃ share more,
                more < expanding columns
                ∧ (laid.filter Column.expand).map Column.length
                  = (share + more) :: List.replicate (expanding columns - 1) share)
      ∧ laid.map (fun c => (c.align, c.expand, c.minLength, c.maxLength))
        = columns.map (fun c => (c.align, c.expand, c.minLength, c.maxLength))
      ∧ (width < 2 ^ 64
          → contentWidth columns + columns.length < 2 ^ 64
          → layoutWords? columns width = some laid
            ∧ ∀ c ∈ laid, ∀ cell, c.paddingWords? cell = some (c.padding cell)) := by
  intro laid
  refine ⟨?_, ?_, ?_, ?_, ?_, ?_⟩
  · rw [← extent_eq]
    exact extent_layout nonempty width
  · exact Shares.getLast?_margin_place _ _ _ nonempty
  · intro c member fixed
    exact ⟨maxLength_le_length_of_fixed member fixed, length_of_fixed member fixed⟩
  · intro slots
    refine ⟨Shares.map_margin_place _ _ _ slots nonempty, _, _, ?_,
      Shares.map_length_place _ _ slots slots⟩
    exact Nat.mod_lt _ slots
  · exact Shares.map_seen_place _ _ _ columns
  · intro short small
    refine ⟨layoutWords?_eq short small, ?_⟩
    intro c member cell
    exact Column.paddingWords?_eq (length_add_margin_lt short small member) cell

/-- Witness: two columns expand on a line of eleven, a third does not, and the first gets the space
that is left over. -/
theorem layout_conserves_width_eleven
    : let columns : List Column :=
        [{ expand := true }, { maxLength := 2, minLength := some 1 },
          { expand := true, maxLength := 9 }]
      columns ≠ []
      ∧ ((layout columns 11).map Column.length).sum + ((layout columns 11).map Column.margin).sum
        = 11
      ∧ 0 < expanding columns
      ∧ (∃ share more,
          more < expanding columns
          ∧ ((layout columns 11).filter Column.expand).map Column.length
            = (share + more) :: List.replicate (expanding columns - 1) share)
      ∧ contentWidth columns + columns.length < 2 ^ 64
      ∧ layoutWords? columns 11 = some (layout columns 11) := by
  intro columns
  have nonempty : columns ≠ [] := by decide
  have slots : 0 < expanding columns := by decide
  have small : contentWidth columns + columns.length < 2 ^ 64 := by decide
  obtain ⟨whole, _, _, shares, _, words⟩ := layout_conserves_width nonempty 11
  exact ⟨nonempty, whole, slots, (shares slots).2, small, (words (by decide) small).1⟩

end ReceiptFleet.Table
