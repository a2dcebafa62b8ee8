import ReceiptFleet.Proofs.Markup.Emission
import ReceiptFleet.Proofs.Table.Sharing

/-!
Rows of tables in markup. A table is walked twice: once to measure the cells of its rows, and once to
print them. Both walks agree, since the columns that are laid out have seen every row that is printed;
so no cell is lost, and what a row prints is the row that the table renders.
-/

namespace ReceiptFleet.Markup

open ReceiptFleet.Table (Covers rowWidth extent)

-----------------------------------------------------------------------------------------
-- The walk that measures
-----------------------------------------------------------------------------------------

/-- The row that a child of a table is, if it is one. -/
def rowOf? (child : Node) : Option Element := child.element?.filter (·.name = "tr")

@[simp] theorem trim_innerText (e : Element)
    : Text.trim e.innerText = e.innerText := by
  rw [Element.innerText]
  split
  · exact Text.trim_trim _
  · exact Text.trim_empty

theorem map_trim_cellTexts (row : Element)
    : (cellTexts row).map Text.trim = cellTexts row := by
  simp [cellTexts]

theorem covers_tableStep {t : Table} {cells : List String} (child : Element)
    (covers : Covers t.columns cells)
    : Covers (tableStep t child).columns cells := by
  unfold tableStep
  split
  · exact covers.append _
  · split
    · exact covers.observeRow _
    · exact covers

theorem covers_tableStep_row (t : Table) {row : Element} (named : row.name = "tr")
    : Covers (tableStep t row).columns (cellTexts row) := by
  have other : ¬ row.name = "tdef" := by simp [named]
  have seen : Covers (t.pushRow (cellTexts row)).columns ((cellTexts row).map Text.trim) :=
    Table.covers_observeRow _ _
  rw [map_trim_cellTexts] at seen
  rwa [tableStep, if_neg other, if_pos named]

/-- The table of an element's children as the walk leaves it, before it is laid out. -/
def measured (children : List Node) : Table := (elementsOf children).foldl tableStep Table.empty

/-- The columns of a table have seen the cells of each of its rows. -/
theorem covers_measured {children : List Node} {row : Element}
    (member : row ∈ children.filterMap rowOf?)
    : Covers (measured children).columns (cellTexts row) := by
  obtain ⟨child, present, isRow⟩ := List.mem_filterMap.mp member
  obtain ⟨found, named⟩ := Option.filter_eq_some_iff.mp isRow
  have among : row ∈ elementsOf children := List.mem_filterMap.mpr ⟨child, present, found⟩
  exact Table.covers_foldl (fun t => covers_tableStep_row t (of_decide_eq_true named))
    (fun _ other covers => covers_tableStep other covers) among Table.empty

theorem covers_tableOf {children : List Node} {row : Element} (width : Nat)
    (member : row ∈ children.filterMap rowOf?)
    : Covers (tableOf children width).columns (cellTexts row) :=
  (covers_measured member).layout width

-----------------------------------------------------------------------------------------
-- The walk that prints
-----------------------------------------------------------------------------------------

/-- The texts of instructions in order. -/
def readOut (instructions : List Instruction) : String :=
  String.join (instructions.map Job.textOf)

@[simp] theorem readOut_append (first second : List Instruction)
    : readOut (first ++ second) = readOut first ++ readOut second := by
  rw [readOut, List.map_append, String.join_append, readOut, readOut]

@[simp] theorem readOut_printed (s : String)
    : readOut (printed s) = s := by
  by_cases blank : s = ""
  · rw [printed, if_pos blank, blank]
    rfl
  · rw [printed, if_neg blank, readOut, List.map_singleton, String.join_cons, String.join_nil]
    exact String.append_empty

/-- Switches have no text. -/
@[simp] theorem readOut_flagInstructions (e : Element) (revert : Bool)
    : readOut (flagInstructions e revert) = "" := by
  have silent (flag : FontFlag) : readOut (flagInstruction e revert flag) = "" := by
    rw [flagInstruction]
    cases e.attribute? flag.attribute with
    | none => rfl
    | some value => cases flag <;> rfl
  rw [flagInstructions]
  induction FontFlag.all with
  | nil => rfl
  | cons flag rest ih => rw [List.flatMap_cons, readOut_append, silent, ih]; rfl

theorem readOut_cellInstructions (column : Table.Column) (td : Element)
    : readOut (cellInstructions column td) = column.render td.innerText := by
  simp only [cellInstructions, readOut_append, readOut_printed, readOut_flagInstructions,
    String.append_empty, Table.Column.render]

/-- A cell for every column: the texts of a row's cells, and empty ones for the columns that are
left. -/
def filledCells (columns : List Table.Column) (row : Element) : List String :=
  cellTexts row ++ List.replicate (columns.length - (cellTexts row).length) ""

/-- A row prints what its table renders of its cells, with empty cells for the columns that are left.
The induction is over the columns. -/
theorem readOut_rowInstructions (columns : List Table.Column) (tds : List Element)
    : readOut (rowInstructions columns tds)
      = String.join
          (List.zipWith (fun c cell => c.render (Text.trim cell)) columns
            (tds.map Element.innerText ++ List.replicate (columns.length - tds.length) "")) := by
  induction columns generalizing tds with
  | nil => simp [rowInstructions, readOut]
  | cons column columns ih =>
      cases tds with
      | nil =>
          simpa [rowInstructions, List.replicate_succ, Table.Column.render] using ih []
      | cons td tds =>
          simpa [rowInstructions, readOut_cellInstructions] using ih tds

theorem readOut_row (t : Table) (row : Element)
    : readOut (rowInstructions t.columns (row.elementsNamed cellName))
      = t.renderRow (filledCells t.columns row) := by
  rw [readOut_rowInstructions, Table.renderRow, filledCells, cellTexts, List.length_map]

-----------------------------------------------------------------------------------------
-- Tables
-----------------------------------------------------------------------------------------

/-- The element name of a kind. -/
def Tag.name : Tag → String
  | .verticalTab => "verticalTab"
  | .beep => "beep"
  | .partialCut => "partialCut"
  | .cut => "cut"
  | .cashDrawer => "cashDrawer"
  | .style => "style"
  | .paragraph => "p"
  | .table => "table"
  | .row => "tr"
  | .separator => "separator"

theorem Tag.ofName?_eq_some_iff (name : String) (tag : Tag)
    : Tag.ofName? name = some tag ↔ name = tag.name := by
  constructor
  · intro tagged
    unfold Tag.ofName? at tagged
    split at tagged <;> cases tagged <;> rfl
  · rintro rfl
    cases tag <;> rfl

/-- A row sees its table, and no other child of the table does. -/
theorem emissionOf_child (t : Table) (width : Nat) (child : Node)
    : emissionOf (some t) width child
      = match rowOf? child with
        | some row => rowInstructions t.columns (row.elementsNamed cellName)
        | none => emissionOf none width child := by
  cases child with
  | text content => simp only [emissionOf, rowOf?, Node.element?, Option.filter_none]
  | element name attributes children =>
      by_cases named : name = "tr"
      · subst named
        have isRow
            : rowOf? (.element "tr" attributes children) = some ⟨"tr", attributes, children⟩ := by
          simp [rowOf?, Node.element?, Option.filter]
        rw [isRow]
        simp only [emissionOf, Tag.ofName?]
      · have tagged : Tag.ofName? name ≠ some .row := named ∘ (Tag.ofName?_eq_some_iff name .row).mp
        have other : rowOf? (.element name attributes children) = none := by
          simp [rowOf?, Node.element?, named]
        rw [other]
        simp only [emissionOf]
        cases found : Tag.ofName? name with
        | none => rfl
        | some tag =>
            cases tag with
            | row => exact absurd found tagged
            | _ => rfl

/-- A table element prints its direct rows, in order, in the columns that are laid out for the width
of the job; its other children print what they print outside of any table. A row has at most as many
cells as there are columns, and prints what the table renders of its cells and of empty ones for the
columns that are left. Its width is that of its columns, or of a cell that is wider than its column;
and since no cell is, but in an expanding column, only such a column can make a row longer than the
table is wide. -/
theorem table_prints_rows (outer : Option Table) (c : Compiler) (attributes : Keyed String)
    (children : List Node)
    : let t := tableOf children c.job.width
      (c.node outer (.element "table" attributes children)).job
        = ⟨c.job.width,
            c.job.instructions
              ++ children.flatMap fun child =>
                match rowOf? child with
                | some row => rowInstructions t.columns (row.elementsNamed cellName)
                | none => emissionOf none c.job.width child⟩
      ∧ ∀ row ∈ children.filterMap rowOf?,
          let cells := filledCells t.columns row
          let line :=
            Job.plainText ⟨c.job.width, rowInstructions t.columns (row.elementsNamed cellName)⟩
          (row.elementsNamed cellName).length ≤ t.columns.length
          ∧ line = t.renderRow cells
          ∧ Text.Gbk.width line = rowWidth t.columns cells
          ∧ (∀ column cell,
              (column, cell) ∈ t.columns.zip cells →
              column.expand = false →
              Text.Gbk.width cell ≤ column.length)
          ∧ (extent t.columns < Text.Gbk.width line →
              ∃ column cell,
                (column, cell) ∈ t.columns.zip cells
                ∧ column.expand = true
                ∧ column.length < Text.Gbk.width cell) := by
  intro t
  refine ⟨?_, ?_⟩
  · have added := Compiler.adds_nodes outer [.element "table" attributes children] c rfl
    simp only [Compiler.nodes, emission, List.append_nil] at added
    rw [added]
    simp only [emissionOf, Tag.ofName?, emission_eq_flatMap]
    congr 3
    funext child
    exact emissionOf_child t c.job.width child
  · intro row member cells line
    have covers : Covers t.columns (cellTexts row) := covers_tableOf c.job.width member
    have few : (cellTexts row).length ≤ t.columns.length := covers.length_le
    have filled : Covers t.columns cells := covers.append_empty (by omega)
    have rendered : line = t.renderRow cells := readOut_row t row
    have trimmed : cells.map Text.trim = cells := by
      simp [cells, filledCells, map_trim_cellTexts]
    have wide : Text.Gbk.width line = rowWidth t.columns cells := by
      rw [rendered, Table.width_renderRow, trimmed]
    refine ⟨by simpa [cellTexts] using few, rendered, wide, ?_, ?_⟩
    · intro column cell present fixed
      exact filled.width_le_length present fixed
    · intro longer
      have full : t.columns.length ≤ cells.length := by
        simp only [cells, filledCells, List.length_append, List.length_replicate]
        omega
      rw [wide] at longer
      obtain ⟨column, cell, present, wider⟩ := Table.exists_wider_of_extent_lt full longer
      refine ⟨column, cell, present, ?_, wider⟩
      cases expands : column.expand with
      | true => rfl
      | false => exact absurd (filled.width_le_length present expands) (Nat.not_le_of_lt wider)

end ReceiptFleet.Markup
