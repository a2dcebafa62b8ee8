import ReceiptFleet.Proofs.Table.Conservation
import ReceiptFleet.Proofs.Table.Observation

/-!
Tables that are filled and laid out in turns. Every layout sets the lengths and margins of all columns
anew and reads none of them, so only the last one counts, and of the rows before it only which they are.
-/

namespace ReceiptFleet.Table

-----------------------------------------------------------------------------------------
-- Layouts start over
-----------------------------------------------------------------------------------------

/-- A column as it is before any layout. -/
def Column.unplaced (c : Column) : Column := { c with length := 0, margin := 1 }

theorem Column.unplaced_observe (c : Column) (widths : List Nat)
    : (widths.foldl Column.observe c).unplaced = widths.foldl Column.observe c.unplaced := by
  simp only [foldl_observe, unplaced]

theorem map_unplaced_layout (columns : List Column) (width : Nat)
    : (layout columns width).map Column.unplaced = columns.map Column.unplaced := by
  have seen := (Shares.of columns width).map_seen_place true true columns
  have same := congrArg
    (List.map fun (align, expand, minLength, maxLength) =>
      ({ align, expand, minLength, maxLength } : Column)) seen
  rwa [List.map_map, List.map_map] at same

/-- Placing columns reads nothing that an earlier layout has left, by induction over the columns. -/
theorem Shares.place_unplaced (s : Shares) (first firstExpanding : Bool) (columns : List Column)
    : s.place first firstExpanding (columns.map Column.unplaced)
      = s.place first firstExpanding columns := by
  induction columns generalizing first firstExpanding with
  | nil => rfl
  | cons c columns ih =>
      rw [List.map_cons, place, place, ih, List.isEmpty_map]
      rfl

theorem fixedWidth_unplaced (columns : List Column)
    : fixedWidth (columns.map Column.unplaced) = fixedWidth columns := by
  induction columns with
  | nil => rfl
  | cons c columns ih =>
      rw [List.map_cons, fixedWidth, fixedWidth, ih]
      rfl

theorem layout_unplaced (columns : List Column) (width : Nat)
    : layout (columns.map Column.unplaced) width = layout columns width := by
  have slots : expanding (columns.map Column.unplaced) = expanding columns := by
    rw [expanding, List.filter_map, List.length_map]
    rfl
  have shares : Shares.of (columns.map Column.unplaced) width = Shares.of columns width := by
    simp only [Shares.of, slots, fixedWidth_unplaced, List.length_map]
  rw [layout, shares, Shares.place_unplaced, layout]

-----------------------------------------------------------------------------------------
-- Edits of a table
-----------------------------------------------------------------------------------------

/-- What is done to a table: it is given a row, or laid out on a line of some width. -/
inductive Edit where
  | push (row : List String)
  | layOut (width : Nat)

/-- A table after an edit. -/
def edit (t : Table) : Edit → Table
  | .push row => t.pushRow row
  | .layOut width => t.layOut width

/-- The rows that a table is given. -/
def pushed : List Edit → List (List String)
  | [] => []
  | .push row :: edits => row :: pushed edits
  | .layOut _ :: edits => pushed edits

theorem map_unplaced_pushRow (t : Table) (row : List String)
    : (t.pushRow row).columns.map Column.unplaced
      = observing ((t.columns.map Column.unplaced).rightpad row.length .plain) [row] := by
  have padded
      : (t.columns.rightpad row.length .plain).map Column.unplaced
        = (t.columns.map Column.unplaced).rightpad row.length .plain :=
    map_rightpad Column.unplaced t.columns row.length .plain
  rw [columns_pushRow, ← padded]
  refine List.ext_getElem? fun i => ?_
  simp only [getElem?_observing, List.getElem?_map, Option.map_map]
  congr 1
  funext c
  exact c.unplaced_observe _

/-- But for lengths and margins, edits come to what their rows come to. The induction is over the edits, after
which both tables agree so far. -/
theorem map_unplaced_edits {t u : Table} (edits : List Edit)
    (alike : t.columns.map Column.unplaced = u.columns.map Column.unplaced)
    : (edits.foldl edit t).columns.map Column.unplaced
      = ((pushed edits).foldl pushRow u).columns.map Column.unplaced := by
  induction edits generalizing t u with
  | nil => exact alike
  | cons done edits ih =>
      cases done with
      | push row =>
          refine ih (t := t.pushRow row) (u := u.pushRow row) ?_
          rw [map_unplaced_pushRow, map_unplaced_pushRow, alike]
      | layOut width =>
          refine ih (t := t.layOut width) ?_
          exact (map_unplaced_layout t.columns width).trans alike

/-- The table of columns that are defined to stand somehow and to expand or not. -/
def defined (kinds : List (Align × Bool)) : Table :=
  ⟨kinds.map fun (align, expand) => { align, expand }, []⟩

/-- A new column has its definition, or is plain without one. -/
theorem new_of_getElem?_rightpad {kinds : List (Align × Bool)} {count i : Nat} {c : Column}
    (found : ((defined kinds).columns.rightpad count .plain)[i]? = some c)
    : ∃ align expand, kinds[i]?.getD (.left, false) = (align, expand) ∧ c = { align, expand } := by
  rw [List.rightpad, List.getElem?_append, defined, List.getElem?_map] at found
  split at found
  · obtain ⟨⟨align, expand⟩, known, rfl⟩ := Option.map_eq_some_iff.mp found
    exact ⟨align, expand, by rw [known]; rfl, rfl⟩
  · rename_i beyond
    rw [List.length_map] at beyond
    obtain ⟨_, rfl⟩ := List.mem_replicate.mp (List.mem_of_getElem? found)
    exact ⟨.left, false, by rw [List.getElem?_eq_none (by omega)]; rfl, rfl⟩

/-- A table of new columns that is given rows and laid out in turns, and at last laid out on a line of some
width. Its columns are those of the table that is given the same rows in any order and any number of times,
and is laid out once. There are as many as were defined, or as the longest row has cells if that is more; a column
has its definition, or is plain without one; and it has seen the least and the greatest width of the
cells at its place. -/
theorem layout_of_edits (kinds : List (Align × Bool)) (edits : List Edit) (width : Nat)
    : let rows := pushed edits
      let laid := ((edits ++ [Edit.layOut width]).foldl edit (defined kinds)).columns
      (∀ others : List (List String),
        (∀ row, row ∈ others ↔ row ∈ rows)
        → laid = ((others.foldl pushRow (defined kinds)).layOut width).columns)
      ∧ laid.length = max kinds.length (longest rows)
      ∧ ∀ i c,
          laid[i]? = some c
          → (c.align, c.expand) = kinds[i]?.getD (.left, false)
            ∧ c.maxLength = (widthsAt i rows).max?.getD 0
            ∧ c.minLength = (widthsAt i rows).min?
            ∧ (c.minLength = none ↔ ∀ row ∈ rows, row.length ≤ i) := by
  intro rows laid
  have last : laid = layout (edits.foldl edit (defined kinds)).columns width := by
    simp only [laid, List.foldl_append, List.foldl_cons, List.foldl_nil]
    rfl
  have alike := map_unplaced_edits (t := defined kinds) edits rfl
  have filled := columns_foldl_pushRow (defined kinds) rows
  have once
      : laid = layout (observing ((defined kinds).columns.rightpad (longest rows) .plain) rows) width := by
    rw [last, ← layout_unplaced, alike, layout_unplaced, filled]
  refine ⟨fun others same => ?_, ?_, fun i c found => ?_⟩
  · rw [once, ← observing_congr _ same, ← longest_congr same, ← columns_foldl_pushRow]
    rfl
  · rw [once, length_layout, length_observing, List.length_rightpad, defined, List.length_map,
      Nat.max_comm]
  · have seen : laid.map Column.unplaced = _ :=
      (congrArg (List.map Column.unplaced) once).trans (map_unplaced_layout _ _)
    have place := congrArg (·[i]?) seen
    simp only [List.getElem?_map, getElem?_observing, found, Option.map_some, Option.map_map] at place
    obtain ⟨d, new, same⟩ := Option.map_eq_some_iff.mp place.symm
    obtain ⟨align, expand, kind, rfl⟩ := new_of_getElem?_rightpad new
    rw [Function.comp_apply, foldl_observe_new] at same
    obtain ⟨sameAlign, sameExpand, sameMin, sameMax, _⟩ := Column.mk.inj same
    refine ⟨by rw [kind, ← sameAlign, ← sameExpand], sameMax.symm, sameMin.symm, ?_⟩
    rw [← sameMin, List.min?_eq_none_iff, widthsAt_eq_nil_iff, longest_le_iff]

/-- Witness: a table that is laid out on a line of eight before its longer row comes, and one that gets that
row first and once more at the end. The second column, which nobody has defined, has seen one cell. -/
theorem layout_of_edits_reordered
    : let kinds : List (Align × Bool) := [(.right, false)]
      let edits : List Edit := [.push ["1"], .layOut 8, .push ["220", " x "]]
      let others : List (List String) := [["220", " x "], ["1"], ["220", " x "]]
      let laid := ((edits ++ [Edit.layOut 20]).foldl edit (defined kinds)).columns
      let second : Column := { minLength := some 1, maxLength := 1, length := 1, margin := 0 }
      (∀ row, row ∈ others ↔ row ∈ pushed edits)
      ∧ laid = ((others.foldl pushRow (defined kinds)).layOut 20).columns
      ∧ laid[1]? = some second
      ∧ second.minLength = (widthsAt 1 (pushed edits)).min? := by
  intro kinds edits others laid second
  have same (row : List String) : row ∈ others ↔ row ∈ pushed edits := by
    simp only [others, edits, pushed, List.mem_cons, List.not_mem_nil, or_false]
    exact ⟨by rintro (h | h | h) <;> simp [h], by rintro (h | h) <;> simp [h]⟩
  have found : laid[1]? = some second := by decide
  obtain ⟨reordered, _, seen⟩ := layout_of_edits kinds edits 20
  exact ⟨same, reordered others same, found, (seen 1 second found).2.2.1⟩

end ReceiptFleet.Table
