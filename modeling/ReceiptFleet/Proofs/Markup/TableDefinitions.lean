import ReceiptFleet.Proofs.Markup.TableRows
import ReceiptFleet.Proofs.Table.RowOrder

/-!
Column definitions of tables in markup. One walk takes up definitions and rows as they stand: a definition
adds a column behind all that there are by then, those of a longer row before it included. So a table is
the one that has its definitions first as long as no row needs a column that is defined behind it.
-/

namespace ReceiptFleet.Markup

open ReceiptFleet.Table (Column defined longest observing observing_append observing_observing
  rightpad_observing rightpad_of_le rightpad_rightpad)

-----------------------------------------------------------------------------------------
-- Kinds of columns
-----------------------------------------------------------------------------------------

/-- How the cells of a column stand, and whether it expands. -/
def kind (c : Column) : Align × Bool := (c.align, c.expand)

/-- The kind of a column that nobody has defined. -/
def plain : Align × Bool := kind .plain

/-- What the definitions among some elements ask for, in order. -/
def definitions (elements : List Element) : List (Align × Bool) :=
  (elements.filter (·.name = "tdef")).flatMap fun tdef =>
    (tdef.elementsNamed cellName).map fun td => kind (columnOf td)

/-- The cells of the rows among some elements. -/
def rowCells (elements : List Element) : List (List String) :=
  (elements.filter (·.name = "tr")).map cellTexts

/-- The kinds of the columns after one more child of the table. -/
def kindsStep (kinds : List (Align × Bool)) (child : Element) : List (Align × Bool) :=
  (kinds ++ definitions [child]).rightpad (longest (rowCells [child])) plain

/-- The kinds of the columns that some children of a table add up to. -/
def kindsOf (elements : List Element) : List (Align × Bool) := elements.foldl kindsStep []

@[simp] theorem definitions_append (first second : List Element)
    : definitions (first ++ second) = definitions first ++ definitions second := by
  rw [definitions, List.filter_append, List.flatMap_append, definitions, definitions]

@[simp] theorem rowCells_append (first second : List Element)
    : rowCells (first ++ second) = rowCells first ++ rowCells second := by
  rw [rowCells, List.filter_append, List.map_append, rowCells, rowCells]

theorem definitions_cons (child : Element) (rest : List Element)
    : definitions (child :: rest) = definitions [child] ++ definitions rest :=
  definitions_append [child] rest

theorem rowCells_cons (child : Element) (rest : List Element)
    : rowCells (child :: rest) = rowCells [child] ++ rowCells rest :=
  rowCells_append [child] rest

theorem definitions_row {row : Element} (named : row.name = "tr")
    : definitions [row] = [] := by
  simp [definitions, named]

theorem rowCells_row {row : Element} (named : row.name = "tr")
    : rowCells [row] = [cellTexts row] := by
  simp [rowCells, named]

theorem rowCells_other {child : Element} (named : child.name ≠ "tr")
    : rowCells [child] = [] := by
  simp [rowCells, named]

theorem kindsOf_append (first second : List Element)
    : kindsOf (first ++ second) = second.foldl kindsStep (kindsOf first) :=
  List.foldl_append

theorem kindsOf_concat (elements : List Element) (child : Element)
    : kindsOf (elements ++ [child]) = kindsStep (kindsOf elements) child :=
  kindsOf_append elements [child]

/-- There is a column for every cell. -/
theorem longest_le_length_kindsOf (elements : List Element)
    : longest (rowCells elements) ≤ (kindsOf elements).length := by
  induction elements using List.reverseRecOn with
  | nil => exact Nat.zero_le _
  | append_singleton elements child ih =>
      rw [rowCells_append, Table.longest_append, kindsOf_concat, kindsStep, List.length_rightpad,
        List.length_append]
      omega

theorem columns_of_definition {child : Element} (named : child.name = "tdef")
    : (child.elementsNamed cellName).map columnOf = (defined (definitions [child])).columns := by
  simp only [defined, definitions, named, List.filter_cons, List.filter_nil, decide_true, if_true,
    List.flatMap_singleton, List.map_map]
  rfl

theorem rightpad_defined (kinds : List (Align × Bool)) (count : Nat)
    : (defined kinds).columns.rightpad count .plain
      = (defined (kinds.rightpad count plain)).columns :=
  (Table.map_rightpad _ kinds count plain).symm

/-- The walk over the children of a table, by induction from its end: its columns are of these kinds, and have
seen all rows, those before their definition included. -/
theorem foldl_tableStep (elements : List Element)
    : elements.foldl tableStep Table.empty
      = ⟨observing (defined (kindsOf elements)).columns (rowCells elements),
          (rowCells elements).map (List.map Text.trim)⟩ := by
  induction elements using List.reverseRecOn with
  | nil => rfl
  | append_singleton elements child ih =>
      have fit : longest (rowCells elements) ≤ (defined (kindsOf elements)).columns.length := by
        rw [defined, List.length_map]
        exact longest_le_length_kindsOf elements
      rw [List.foldl_append, ih, List.foldl_cons, List.foldl_nil, kindsOf_concat, kindsStep,
        rowCells_append, tableStep]
      split
      · rename_i named
        rw [rowCells_other (by simp [named]), Table.longest_nil, rightpad_of_le (Nat.zero_le _),
          List.append_nil, Table.define, columns_of_definition named, ← observing_append fit, defined,
          defined, ← List.map_append]
        rfl
      · rename_i other
        have noDefinition : definitions [child] = [] := by simp [definitions, other]
        rw [noDefinition, List.append_nil]
        split
        · rename_i named
          have columns := Table.columns_pushRow ⟨observing (defined (kindsOf elements)).columns
            (rowCells elements), (rowCells elements).map (List.map Text.trim)⟩ (cellTexts child)
          rw [rightpad_observing fit, observing_observing, rightpad_defined] at columns
          rw [rowCells_row named, Table.longest_cons, Table.longest_nil, Nat.max_zero, List.map_append,
            ← columns]
          rfl
        · rename_i noRow
          rw [rowCells_other noRow, Table.longest_nil, List.append_nil,
            rightpad_of_le (Nat.zero_le _)]

theorem map_kind_observing (columns : List Column) (rows : List (List String))
    : (observing columns rows).map kind = columns.map kind := by
  refine List.ext_getElem? fun i => ?_
  simp only [List.getElem?_map, Table.getElem?_observing, Option.map_map]
  congr 1
  funext c
  rw [Function.comp_apply, Table.foldl_observe]
  rfl

theorem map_kind_layout (columns : List Column) (width : Nat)
    : (Table.layout columns width).map kind = columns.map kind := by
  have same := congrArg (List.map kind) (Table.map_unplaced_layout columns width)
  rwa [List.map_map, List.map_map] at same

/-- A layout leaves the kinds of the columns as they are. -/
theorem map_kind_tableOf (children : List Node) (width : Nat)
    : (tableOf children width).columns.map kind = kindsOf (elementsOf children) := by
  rw [tableOf, Table.layOut, map_kind_layout, foldl_tableStep, map_kind_observing, defined,
    List.map_map]
  exact List.map_id _

-----------------------------------------------------------------------------------------
-- Definitions in time
-----------------------------------------------------------------------------------------

/-- Whether every row has a definition before it for each of its cells. -/
def AllDefined (elements : List Element) : Prop :=
  ∀ before row after,
    elements = before ++ row :: after
    → row.name = "tr"
    → (cellTexts row).length ≤ (definitions before).length

/-- If so, the columns are the defined ones. The induction is from the last child. -/
theorem kindsOf_of_allDefined {elements : List Element} (fits : AllDefined elements)
    : kindsOf elements = definitions elements := by
  induction elements using List.reverseRecOn with
  | nil => rfl
  | append_singleton elements child ih =>
      have before := ih fun before row after split =>
        fits before row (after ++ [child]) (by rw [split, List.append_assoc, List.cons_append])
      rw [kindsOf_concat, before, kindsStep, definitions_append]
      refine rightpad_of_le ?_ plain
      by_cases named : child.name = "tr"
      · rw [rowCells_row named, Table.longest_cons, Table.longest_nil, Nat.max_zero, List.length_append]
        exact Nat.le_add_right_of_le (fits elements child [] rfl named)
      · rw [rowCells_other named]
        exact Nat.zero_le _

/-- Otherwise there is a first row with more cells than definitions before it. -/
theorem exists_first_overlong {elements : List Element} (overlong : ¬ AllDefined elements)
    : ∃ before row after,
        elements = before ++ row :: after
        ∧ row.name = "tr"
        ∧ (definitions before).length < (cellTexts row).length
        ∧ kindsOf before = definitions before := by
  induction elements using List.reverseRecOn with
  | nil => exact absurd (fun before row after split => by simp at split) overlong
  | append_singleton elements child ih =>
      by_cases fits : AllDefined elements
      · simp only [AllDefined, not_forall, not_le] at overlong
        obtain ⟨before, row, after, split, named, long⟩ := overlong
        refine ⟨before, row, after, split, named, long, ?_⟩
        cases after using List.reverseRecOn with
        | nil =>
            obtain ⟨rfl, -⟩ := List.append_inj' split rfl
            exact kindsOf_of_allDefined fits
        | append_singleton after last =>
            rw [← List.cons_append, ← List.append_assoc] at split
            obtain ⟨within, -⟩ := List.append_inj' split rfl
            exact absurd (fits before row after within named) (Nat.not_le_of_lt long)
      · obtain ⟨before, row, after, split, rest⟩ := ih fits
        exact ⟨before, row, after ++ [child], by rw [split, List.append_assoc, List.cons_append], rest⟩

/-- Without further definitions, rows add plain columns as the longest of them needs them. -/
theorem foldl_kindsStep_rows {elements : List Element} (none : definitions elements = [])
    (kinds : List (Align × Bool))
    : elements.foldl kindsStep kinds = kinds.rightpad (longest (rowCells elements)) plain := by
  induction elements generalizing kinds with
  | nil => exact (rightpad_of_le (Nat.zero_le _) plain).symm
  | cons child elements ih =>
      rw [definitions_cons child elements, List.append_eq_nil_iff] at none
      rw [List.foldl_cons, ih none.2, kindsStep, none.1, List.append_nil, rightpad_rightpad,
        rowCells_cons child elements, Table.longest_append]

/-- Definitions and longer rows add columns at the end, in the order in which they stand. -/
theorem foldl_kindsStep (kinds : List (Align × Bool)) (elements : List Element)
    : ∃ added,
        elements.foldl kindsStep kinds = kinds ++ added
        ∧ (definitions elements).Sublist added
        ∧ ∀ k ∈ added, k ∈ definitions elements ∨ k = plain := by
  induction elements generalizing kinds with
  | nil => exact ⟨[], by simp, by simp [definitions], by simp⟩
  | cons child elements ih =>
      obtain ⟨added, grown, among, known⟩ := ih (kindsStep kinds child)
      rw [List.foldl_cons, grown, kindsStep, List.rightpad, List.append_assoc, List.append_assoc,
        definitions_cons child elements]
      refine ⟨_, rfl, List.Sublist.append_left (List.sublist_append_of_sublist_right among) _,
        fun k member => ?_⟩
      rw [List.mem_append, List.mem_append] at member
      obtain defined | padding | later := member
      · exact .inl (List.mem_append_left _ defined)
      · exact .inr (List.eq_of_mem_replicate padding)
      · exact (known k later).imp_left (List.mem_append_right _)

/-- A list that is shifted against itself, and filled up with some value on the right, consists of that
value. The induction is over the list, of which one item after the other moves to the front. -/
theorem forall_eq_of_shifted {α : Type} {front back xs : List α} {n : Nat} {fill : α}
    (shifted : front ++ back = xs ++ List.replicate n fill) (moved : front ≠ [])
    (among : xs.Sublist back)
    : ∀ x ∈ xs, x = fill := by
  induction xs generalizing front back with
  | nil => simp
  | cons x xs ih =>
      obtain ⟨first, front, rfl⟩ := List.exists_cons_of_ne_nil moved
      obtain ⟨next, back, rfl⟩ := List.exists_cons_of_length_pos
        (Nat.lt_of_lt_of_le (Nat.succ_pos _) among.length_le)
      have rest : front ++ next :: back = xs ++ List.replicate n fill :=
        List.tail_eq_of_cons_eq shifted
      have tail : ∀ y ∈ xs, y = fill :=
        @ih (front ++ [next]) back (by rw [← rest]; simp) (by simp) among.tail
      have all (y : α) (member : y ∈ next :: back) : y = fill := by
        have listed : y ∈ xs ++ List.replicate n fill := rest ▸ List.mem_append_right front member
        exact (List.mem_append.mp listed).elim (tail y) List.eq_of_mem_replicate
      exact fun y member => all y (among.subset member)

/-- Whether the definitions of a table come in time: behind a row that has more cells than there are
definitions before it, there is none; or only plain ones, and they define no column beyond the longest row. -/
def InTime (children : List Node) : Prop :=
  ∀ before row after,
    elementsOf children = before ++ row :: after
    → row.name = "tr"
    → (definitions before).length < (cellTexts row).length
    → definitions after = []
      ∨ (∀ k ∈ definitions after, k = plain)
        ∧ (measured children).columns.length = longest (rowCells (elementsOf children))

theorem length_columns_measured (children : List Node)
    : (measured children).columns.length = (kindsOf (elementsOf children)).length := by
  rw [measured, foldl_tableStep, Table.length_observing, defined, List.length_map]

theorem definitions_split {row : Element} (named : row.name = "tr") (before after : List Element)
    : definitions (before ++ row :: after) = definitions before ++ definitions after := by
  rw [definitions_append, definitions_cons row after, definitions_row named, List.nil_append]

/-- Columns behind one that a row has added are shifted against the defined ones, so these are plain. -/
theorem inTime_of_kindsOf_eq {children : List Node}
    (governed
      : kindsOf (elementsOf children)
        = (definitions (elementsOf children)).rightpad
            (longest (rowCells (elementsOf children))) plain)
    : InTime children := by
  intro before row after split named overlong
  right
  rw [length_columns_measured]
  obtain ⟨early, grownBefore, amongBefore, -⟩ := foldl_kindsStep [] before
  obtain ⟨late, grown, among, -⟩ := foldl_kindsStep (kindsStep (kindsOf before) row) after
  have enough : (definitions before).length ≤ (kindsOf before).length := by
    rw [kindsOf, grownBefore]
    exact amongBefore.length_le
  have widened : (definitions before).length < (kindsStep (kindsOf before) row).length := by
    rw [kindsStep, List.length_rightpad, rowCells_row named, Table.longest_cons]
    omega
  have kinds : kindsOf (elementsOf children) = kindsStep (kindsOf before) row ++ late := by
    rw [split, kindsOf_append, List.foldl_cons, grown]
  have asked : definitions (elementsOf children) = definitions before ++ definitions after := by
    rw [split, definitions_split named]
  rw [kinds, asked] at governed
  have sized := congrArg List.length governed
  rw [List.length_rightpad, List.length_append, List.length_append] at sized
  rw [List.rightpad, List.append_assoc] at governed
  obtain ⟨shorter, cut, -⟩ | ⟨moved, cut, shifted⟩ := List.append_eq_append_iff.mp governed
  · rw [cut, List.length_append] at widened
    omega
  · have front : moved ≠ [] := by
      rintro rfl
      rw [cut, List.append_nil] at widened
      exact Nat.lt_irrefl _ widened
    have lateEnough := among.length_le
    exact ⟨forall_eq_of_shifted shifted.symm front among, by rw [kinds, List.length_append]; omega⟩

/-- The first row that is too long for the definitions before it decides. -/
theorem kindsOf_eq_of_inTime {children : List Node} (inTime : InTime children)
    : kindsOf (elementsOf children)
      = (definitions (elementsOf children)).rightpad
          (longest (rowCells (elementsOf children))) plain := by
  by_cases fits : AllDefined (elementsOf children)
  · have enough := longest_le_length_kindsOf (elementsOf children)
    rw [kindsOf_of_allDefined fits] at enough ⊢
    exact (rightpad_of_le enough plain).symm
  · obtain ⟨before, row, after, split, named, overlong, known⟩ := exists_first_overlong fits
    have short := longest_le_length_kindsOf before
    rw [known] at short
    have cells
        : longest (rowCells (elementsOf children))
          = max (cellTexts row).length (longest (rowCells after)) := by
      rw [split, rowCells_append, rowCells_cons row after, rowCells_row named, Table.longest_append,
        Table.longest_append, Table.longest_cons, Table.longest_nil]
      omega
    have kinds
        : kindsOf (elementsOf children)
          = after.foldl kindsStep ((definitions before).rightpad (cellTexts row).length plain) := by
      rw [split, kindsOf_append, List.foldl_cons, known, kindsStep, definitions_row named,
        rowCells_row named, List.append_nil, Table.longest_cons, Table.longest_nil, Nat.max_zero]
    have asked : definitions (elementsOf children) = definitions before ++ definitions after := by
      rw [split, definitions_split named]
    obtain none | ⟨allPlain, sized⟩ := inTime before row after split named overlong
    · rw [kinds, foldl_kindsStep_rows none, rightpad_rightpad, asked, none, List.append_nil, cells]
    · rw [length_columns_measured] at sized
      obtain ⟨late, grown, among, added⟩ :=
        foldl_kindsStep ((definitions before).rightpad (cellTexts row).length plain) after
      have enough := among.length_le
      have latePlain : late = List.replicate late.length plain :=
        List.eq_replicate_iff.mpr ⟨rfl, fun k member => (added k member).elim (allPlain k) id⟩
      have askedPlain : definitions after = List.replicate (definitions after).length plain :=
        List.eq_replicate_iff.mpr ⟨rfl, allPlain⟩
      rw [kinds, grown, List.length_append, List.length_rightpad] at sized
      rw [kinds, grown, asked, latePlain, askedPlain, List.rightpad, List.rightpad,
        List.append_assoc, List.append_assoc, List.replicate_append_replicate,
        List.replicate_append_replicate]
      congr 2
      rw [List.length_append, List.length_replicate]
      omega

-----------------------------------------------------------------------------------------
-- Definitions in front
-----------------------------------------------------------------------------------------

/-- Whether a node defines columns. -/
def Node.isDefinition : Node → Bool
  | .element name _ _ => name = "tdef"
  | .text _ => false

/-- The children of a table with its definitions in front of all others. -/
def definitionsFirst (children : List Node) : List Node :=
  children.filter (·.isDefinition) ++ children.filter (!·.isDefinition)

theorem elementsOf_definitionsFirst (children : List Node)
    : elementsOf (definitionsFirst children)
      = (elementsOf children).filter (·.name = "tdef")
        ++ (elementsOf children).filter (·.name ≠ "tdef") := by
  simp only [elementsOf, definitionsFirst, List.filterMap_append, List.filterMap_filter,
    List.filter_filterMap]
  congr 2 <;>
  · funext node
    cases node with
    | text content => rfl
    | element name attributes children =>
        by_cases named : name = "tdef" <;> simp [Node.isDefinition, Node.element?, Option.filter, named]

theorem definitions_definitionsFirst (children : List Node)
    : definitions (elementsOf (definitionsFirst children)) = definitions (elementsOf children) := by
  simp [elementsOf_definitionsFirst, definitions, List.filter_filter]

theorem rowCells_definitionsFirst (children : List Node)
    : rowCells (elementsOf (definitionsFirst children)) = rowCells (elementsOf children) := by
  have noRow (e : Element) : (decide (e.name = "tr") && decide (e.name = "tdef")) = false := by
    by_cases named : e.name = "tr" <;> simp [named]
  have row (e : Element)
      : (decide (e.name = "tr") && decide (e.name ≠ "tdef")) = decide (e.name = "tr") := by
    by_cases named : e.name = "tr" <;> simp [named]
  simp only [elementsOf_definitionsFirst, rowCells, List.filter_append, List.filter_filter, noRow, row,
    List.filter_false, List.nil_append]

/-- With the definitions in front, they come in time. -/
theorem inTime_definitionsFirst (children : List Node)
    : InTime (definitionsFirst children) := by
  intro before row after split named _
  have behind (part : List Element)
      (others : (elementsOf children).filter (·.name ≠ "tdef") = part ++ row :: after)
      : definitions after = [] := by
    have other (e : Element) (member : e ∈ after) : ¬ e.name = "tdef" := by
      have listed : e ∈ (elementsOf children).filter (·.name ≠ "tdef") := by
        rw [others]
        simp [member]
      exact of_decide_eq_true (List.mem_filter.mp listed).2
    simpa [definitions] using fun e member named => absurd named (other e member)
  rw [elementsOf_definitionsFirst] at split
  left
  obtain ⟨part, -, others⟩ | ⟨part, defined, others⟩ := List.append_eq_append_iff.mp split
  · exact behind part others
  · cases part with
    | nil => exact behind [] others.symm
    | cons first part =>
        obtain ⟨rfl, -⟩ := List.cons_eq_cons.mp others
        have listed : row ∈ (elementsOf children).filter (·.name = "tdef") := by simp [defined]
        simp [named] at listed

theorem nodes_eq_foldl (table : Option Table) (c : Compiler) (nodes : List Node)
    : c.nodes table nodes = nodes.foldl (Compiler.node table) c := by
  induction nodes generalizing c with
  | nil => rfl
  | cons node nodes ih => exact ih _

theorem node_of_isDefinition (table : Option Table) (c : Compiler) {node : Node}
    (definition : node.isDefinition)
    : c.node table node = c := by
  cases node with
  | text content => cases definition
  | element name attributes children =>
      cases of_decide_eq_true definition
      rfl

/-- Definitions print nothing, wherever they stand. -/
theorem nodes_definitionsFirst (table : Option Table) (c : Compiler) (children : List Node)
    : c.nodes table (definitionsFirst children) = c.nodes table children := by
  rw [nodes_eq_foldl, nodes_eq_foldl, definitionsFirst, List.foldl_append, List.foldl_filter,
    List.foldl_filter]
  have first (c : Compiler) (node : Node)
      : (if node.isDefinition then c.node table node else c) = c := by
    split
    · exact node_of_isDefinition table c ‹_›
    · rfl
  have rest (c : Compiler) (node : Node)
      : (if !node.isDefinition then c.node table node else c) = c.node table node := by
    cases definition : node.isDefinition with
    | false => rfl
    | true => exact (node_of_isDefinition table c definition).symm
  simp only [first, rest, List.foldl_fixed]

theorem tableOf_definitionsFirst {children : List Node} (inTime : InTime children) (width : Nat)
    : tableOf (definitionsFirst children) width = tableOf children width := by
  have kinds : kindsOf (elementsOf (definitionsFirst children)) = kindsOf (elementsOf children) := by
    rw [kindsOf_eq_of_inTime inTime, kindsOf_eq_of_inTime (inTime_definitionsFirst children),
      definitions_definitionsFirst, rowCells_definitionsFirst]
  rw [tableOf, foldl_tableStep, kinds, rowCells_definitionsFirst, tableOf, foldl_tableStep]

/-- The definitions of a table govern all of its rows, wherever they stand, precisely if they come in time.
They govern all rows if the table prints what it prints with its definitions in front, and if its columns, on
a line of any width, are of the kinds that are defined, with plain ones only for cells beyond. -/
theorem definitions_govern_iff (attributes : Keyed String) (children : List Node)
    : let elements := elementsOf children
      (∀ (outer : Option Table) (c : Compiler),
        c.node outer (.element "table" attributes (definitionsFirst children))
        = c.node outer (.element "table" attributes children))
      ∧ (∀ width,
          (tableOf children width).columns.map kind
          = (definitions elements).rightpad (longest (rowCells elements)) plain)
      ↔ InTime children := by
  intro elements
  constructor
  · rintro ⟨-, governed⟩
    refine inTime_of_kindsOf_eq ?_
    rw [← map_kind_tableOf children 0]
    exact governed 0
  · intro inTime
    refine ⟨fun outer c => ?_, fun width => ?_⟩
    · simp only [Compiler.node, Tag.ofName?, tableOf_definitionsFirst inTime, nodes_definitionsFirst]
    · rw [map_kind_tableOf]
      exact kindsOf_eq_of_inTime inTime

/-- A definition behind a row of one cell: it adds a second column, which no row has a cell for, and so the
cell of the first one is not moved to the right, as it is with the definition in front. -/
theorem late_definition_governs_nothing
    : let cell : Node := .element "td" .empty [.text "a"]
      let row : Node := .element "tr" .empty [cell]
      let definition : Node := .element "tdef" .empty [.element "td" (.ofList [("align", "right")]) []]
      let job (children : List Node) :=
        Document.compile ⟨[.element rootName .empty [.element "table" .empty children]]⟩ (Job.start 42)
      let spaces := String.ofList (List.replicate 41 ' ')
      job [row, definition] = .ok ⟨42, [.init, .text "a", .text spaces]⟩
      ∧ job (definitionsFirst [row, definition]) = .ok ⟨42, [.init, .text spaces, .text "a"]⟩ := by
  decide +kernel

end ReceiptFleet.Markup
