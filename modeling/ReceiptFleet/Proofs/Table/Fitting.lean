import ReceiptFleet.Proofs.Table.Sharing

/-!
Rows whose content fits on a line. Expanding columns get equal shares of what the others leave,
whatever their cells hold. So a row fills its line exactly if each of its cells fits into the share
of its column; that the cells of all columns would fit side by side is enough for a single expanding
column, and not for several.
-/

namespace ReceiptFleet.Table

open ReceiptFleet.Text (trim)

/-- The content of columns fits on a line: their widest cells side by side, with a space between
neighbours if a column expands. -/
def Fits (columns : List Column) (width : Nat) : Prop :=
  contentWidth columns + (if columns.any Column.expand then columns.length - 1 else 0) ≤ width

instance (columns : List Column) (width : Nat) : Decidable (Fits columns width) :=
  inferInstanceAs (Decidable (_ ≤ _))

theorem any_expand_eq_false_iff (columns : List Column)
    : columns.any Column.expand = false ↔ expanding columns = 0 := by
  rw [expanding, List.length_eq_zero_iff, List.filter_eq_nil_iff, List.any_eq_false]

theorem Fits.needed_le {columns : List Column} {width : Nat} (fits : Fits columns width)
    : needed columns ≤ width := by
  have fixed := fixedWidth_le_contentWidth columns
  have any := any_expand_eq_false_iff columns
  rw [Fits] at fits
  rw [needed]
  cases expands : columns.any Column.expand with
  | false =>
      rw [if_pos (any.mp expands)]
      omega
  | true =>
      simp only [expands, if_true] at fits
      split <;> omega

/-- A column that expands alone has room for all of its cells, if the content of the table fits. -/
theorem Fits.maxLength_le_length {columns : List Column} {width : Nat}
    (fits : Fits columns width) (lone : expanding columns ≤ 1) {c : Column}
    (member : c ∈ layout columns width) (expands : c.expand = true)
    : c.maxLength ≤ c.length := by
  obtain ⟨d, present, sameExpand, sameLength, _⟩ := Shares.origin_of_mem_place _ _ _ member
  have dExpands : d.expand = true := sameExpand.symm.trans expands
  have any : columns.any Column.expand = true := List.any_eq_true.mpr ⟨d, present, dExpands⟩
  have alone : expanding columns = 1 := by
    have counted : ¬ expanding columns = 0 := by
      rw [← any_expand_eq_false_iff, any]
      exact Bool.noConfusion
    omega
  have room := maxLength_add_fixedWidth_le present dExpands
  rw [Fits, any, if_pos rfl] at fits
  rw [length_of_lone member expands alone, sameLength]
  omega

/-- A row with a cell for every column fills a line that has room for the columns exactly if the
cells of its expanding columns fit; those of the others fit in any case. -/
theorem rowWidth_layout_eq_iff {columns : List Column} {cells : List String} {width : Nat}
    (nonempty : columns ≠ []) (room : needed columns ≤ width) (covers : Covers columns cells)
    (full : columns.length ≤ cells.length)
    : rowWidth (layout columns width) cells = width
      ↔ ∀ c cell,
          (c, cell) ∈ (layout columns width).zip cells →
          c.expand = true →
          Text.Gbk.width cell ≤ c.length := by
  have reach : extent (layout columns width) = width := by
    rw [extent_layout nonempty, Nat.max_eq_left room]
  have laidFull : (layout columns width).length ≤ cells.length := by
    rwa [length_layout]
  have fills := (extent_le_rowWidth laidFull).2
  rw [reach] at fills
  rw [fills]
  constructor
  · intro fit c cell member _
    exact fit c cell member
  · intro shares c cell member
    cases expands : c.expand with
    | true => exact shares c cell member expands
    | false => exact (covers.layout width).width_le_length member expands

/-- With at most one expanding column, a row fills its line whenever the content of the table fits. -/
theorem rowWidth_layout_of_lone {columns : List Column} {cells : List String} {width : Nat}
    (nonempty : columns ≠ []) (fits : Fits columns width) (lone : expanding columns ≤ 1)
    (covers : Covers columns cells) (full : columns.length ≤ cells.length)
    : rowWidth (layout columns width) cells = width := by
  refine (rowWidth_layout_eq_iff nonempty fits.needed_le covers full).mpr ?_
  intro c cell member expands
  exact Nat.le_trans ((covers.layout width).width_le member)
    (fits.maxLength_le_length lone (List.of_mem_zip member).1 expands)

/-- A row of a table whose content fits, with a cell for every column. It fills its line exactly if
there is a line to fill, which takes a column, and every cell of an expanding column fits into the
share of that column. With at most one expanding column that is always so. -/
theorem renderRow_fills_iff (columns : List Column) (rows : List (List String)) (width : Nat)
    (row : List String) (pushed : row ∈ rows)
    : let t := rows.foldl pushRow ⟨columns, []⟩
      let laid := t.layOut width
      Fits t.columns width →
      t.columns.length ≤ row.length →
      (Text.Gbk.width (laid.renderRow row) = width
          ↔ (t.columns ≠ [] ∨ width = 0)
            ∧ ∀ c cell,
                (c, cell) ∈ laid.columns.zip (row.map trim) →
                c.expand = true →
                Text.Gbk.width cell ≤ c.length)
      ∧ (t.columns ≠ [] →
          expanding t.columns ≤ 1 →
          Text.Gbk.width (laid.renderRow row) = width) := by
  intro t laid fits full
  have covers : Covers t.columns (row.map trim) := covers_of_pushed _ pushed
  have wide
      : Text.Gbk.width (laid.renderRow row) = rowWidth (layout t.columns width) (row.map trim) :=
    width_renderRow laid row
  have placed : laid.columns = layout t.columns width := rfl
  rw [wide, placed]
  by_cases bare : t.columns = []
  · -- There is nothing to render without a column, so only a line of no width is filled.
    have nothing : rowWidth (layout t.columns width) (row.map trim) = 0 := by
      rw [bare]
      rfl
    refine ⟨?_, fun nonempty => absurd bare nonempty⟩
    rw [nothing, bare]
    constructor
    · intro none
      exact ⟨.inr none.symm, nofun⟩
    · rintro ⟨nonempty | none, _⟩
      · exact absurd rfl nonempty
      · exact none.symm
  · have mapped : t.columns.length ≤ (row.map trim).length := by
      rwa [List.length_map]
    have fills := rowWidth_layout_eq_iff bare fits.needed_le covers mapped
    refine ⟨?_, ?_⟩
    · rw [fills]
      simp only [ne_eq, bare, not_false_eq_true, true_or, true_and]
    · intro _ lone
      refine fills.mpr fun c cell member expands => ?_
      exact Nat.le_trans ((covers.layout width).width_le member)
        (fits.maxLength_le_length lone (List.of_mem_zip member).1 expands)

/-- Witness: two columns that expand share a line of seven evenly, and cells of one and of three
fill it. -/
theorem renderRow_fills_shares
    : let t := [["a", "bbb"]].foldl pushRow ⟨[{ expand := true }, { expand := true }], []⟩
      Fits t.columns 7
      ∧ t.columns.length ≤ ["a", "bbb"].length
      ∧ Text.Gbk.width ((t.layOut 7).renderRow ["a", "bbb"]) = 7 := by
  intro t
  have fits : Fits t.columns 7 := by decide
  have full : t.columns.length ≤ ["a", "bbb"].length := by decide
  have shares
      : ∀ pair ∈ (t.layOut 7).columns.zip (["a", "bbb"].map trim),
          pair.1.expand = true → Text.Gbk.width pair.2 ≤ pair.1.length := by
    decide
  refine ⟨fits, full, ?_⟩
  refine (renderRow_fills_iff _ _ 7 ["a", "bbb"] List.mem_cons_self fits full).1.mpr ?_
  exact ⟨.inl (by decide), fun c cell member => shares (c, cell) member⟩

/-- The cells of both columns fit side by side on a line of five, with a space between them. But each
column gets a share of two, and the row reaches beyond the line. -/
theorem renderRow_beyond_line
    : let t := [["a", "bbb"]].foldl pushRow ⟨[{ expand := true }, { expand := true }], []⟩
      Fits t.columns 5
      ∧ t.columns.length ≤ ["a", "bbb"].length
      ∧ Text.Gbk.width ((t.layOut 5).renderRow ["a", "bbb"]) = 6 := by
  intro t
  refine ⟨by decide, by decide, ?_⟩
  rw [width_renderRow]
  decide

end ReceiptFleet.Table
