import ReceiptFleet.Proofs.Markup.Emission

/-!
Elements that the compiler does not know. Wherever one of them stands, in a paragraph, in a table, in a
cell or in another unknown element, a document prints as it does without it; so documents may use
elements that an older server has never heard of.
-/

namespace ReceiptFleet.Markup

-----------------------------------------------------------------------------------------
-- Leaving out unknown elements
-----------------------------------------------------------------------------------------

/-- Whether elements of a name have a meaning somewhere: those of a kind, and the cells and column
definitions of tables. -/
def isKnown (name : String) : Bool :=
  (Tag.ofName? name).isSome || name = cellName || name = "tdef"

mutual
/-- A node without the unknown elements inside it; nothing if it is one itself. -/
def pruned : Node → List Node
  | .text content => [.text content]
  | .element name attributes children =>
    if isKnown name then [.element name attributes (prune children)] else []

/-- Nodes without unknown elements, at any depth. -/
def prune : List Node → List Node
  | [] => []
  | first :: rest => pruned first ++ prune rest
end

/-- An element without unknown elements inside it. -/
def Element.prune (e : Element) : Element := { e with children := Markup.prune e.children }

theorem prune_append (first second : List Node)
    : prune (first ++ second) = prune first ++ prune second := by
  induction first with
  | nil => rfl
  | cons node rest ih => simp only [List.cons_append, prune, ih, List.append_assoc]

theorem elementsOf_prune (nodes : List Node)
    : elementsOf (prune nodes)
      = ((elementsOf nodes).filter (isKnown ·.name)).map Element.prune := by
  induction nodes with
  | nil => rfl
  | cons node rest ih =>
      rw [prune, elementsOf_append, ih]
      cases node with
      | text content => rfl
      | element name attributes children =>
          simp only [pruned, elementsOf, List.filterMap_cons, Node.element?, List.filter_cons]
          split <;> rfl

/-- A first text is never inside an element, so no element before it matters. -/
theorem findSome?_text?_prune (nodes : List Node)
    : (prune nodes).findSome? Node.text? = nodes.findSome? Node.text? := by
  induction nodes with
  | nil => rfl
  | cons node rest ih =>
      cases node with
      | text content => rfl
      | element name attributes children =>
          rw [prune, List.findSome?_append, ih, pruned]
          split <;> rfl

@[simp] theorem innerText_prune (e : Element)
    : e.prune.innerText = e.innerText := by
  simp only [Element.innerText, Element.prune, findSome?_text?_prune]

theorem elementsNamed_prune (e : Element) {name : String} (known : isKnown name = true)
    : e.prune.elementsNamed name = (e.elementsNamed name).map Element.prune := by
  simp only [Element.elementsNamed, Element.elements, Element.prune, elementsOf_prune,
    List.filter_map, List.filter_filter]
  congr 2
  funext child
  by_cases named : child.name = name
  · simp [Element.prune, named, known]
  · simp [Element.prune, named]

-----------------------------------------------------------------------------------------
-- Tables
-----------------------------------------------------------------------------------------

theorem isKnown_cellName : isKnown cellName = true := by decide

theorem cellTexts_prune (row : Element)
    : cellTexts row.prune = cellTexts row := by
  simp only [cellTexts, elementsNamed_prune row isKnown_cellName, List.map_map]
  congr 1
  funext td
  exact innerText_prune td

/-- A table measures a child as it does without the unknown elements in it, and it does not measure
unknown children. -/
theorem tableStep_prune (t : Table) (child : Element)
    : (if isKnown child.name then tableStep t child.prune else t) = tableStep t child := by
  by_cases known : isKnown child.name = true
  · have columns
        : (child.prune.elementsNamed cellName).map columnOf
          = (child.elementsNamed cellName).map columnOf := by
      rw [elementsNamed_prune child isKnown_cellName, List.map_map]
      rfl
    rw [if_pos known, tableStep, tableStep, columns, cellTexts_prune]
    rfl
  · have noDefinition : child.name ≠ "tdef" := fun named => known (by rw [named]; decide)
    have noRow : child.name ≠ "tr" := fun named => known (by rw [named]; decide)
    rw [if_neg known, tableStep, if_neg noDefinition, if_neg noRow]

theorem tableOf_prune (children : List Node) (width : Nat)
    : tableOf (prune children) width = tableOf children width := by
  rw [tableOf, tableOf, elementsOf_prune, List.foldl_map, List.foldl_filter]
  simp only [tableStep_prune]

theorem cellInstructions_prune (column : Table.Column) (td : Element)
    : cellInstructions column td.prune = cellInstructions column td := by
  simp only [cellInstructions, innerText_prune]
  rfl

theorem rowInstructions_prune (columns : List Table.Column) (tds : List Element)
    : rowInstructions columns (tds.map Element.prune) = rowInstructions columns tds := by
  induction columns generalizing tds with
  | nil => rfl
  | cons column columns ih =>
      cases tds with
      | nil => rfl
      | cons td tds =>
          rw [List.map_cons, rowInstructions, rowInstructions, cellInstructions_prune, ih]

-----------------------------------------------------------------------------------------
-- Documents
-----------------------------------------------------------------------------------------

/-- Nodes print what they print without the unknown elements among and inside them, by induction over
the forest. -/
theorem emission_prune (table : Option Table) (width : Nat) (nodes : List Node)
    : emission table width (prune nodes) = emission table width nodes := by
  induction nodes using Node.forest_induction generalizing table with
  | nil => rfl
  | text content rest ih =>
      simp only [prune, pruned, List.singleton_append, emission, ih]
  | element name attributes children rest inside ih =>
      simp only [prune, pruned, emission]
      by_cases known : isKnown name = true
      · rw [if_pos known, List.singleton_append, emission, ih]
        congr 1
        have cells := elementsNamed_prune ⟨name, attributes, children⟩ isKnown_cellName
        simp only [emissionOf]
        cases Tag.ofName? name with
        | none => rfl
        | some tag =>
            cases tag with
            | paragraph => exact inside none
            | table =>
                simp only [tableOf_prune]
                exact inside _
            | row =>
                cases table with
                | none => rfl
                | some t => exact (congrArg _ cells).trans (rowInstructions_prune t.columns _)
            | _ => rfl
      · have unknown : Tag.ofName? name = none := by
          cases tagged : Tag.ofName? name with
          | none => rfl
          | some tag => exact absurd (by simp [isKnown, tagged]) known
        rw [if_neg known, List.nil_append, ih]
        simp only [emissionOf, unknown, List.nil_append]

/-- The second forest is the first one with a node put in somewhere: among its nodes, or in the same
way among the children of one of its elements. -/
inductive Inserted (added : Node) : List Node → List Node → Prop
  | here (before after : List Node) : Inserted added (before ++ after) (before ++ added :: after)
  | inside (before after : List Node) (name : String) (attributes : Keyed String)
      {children extended : List Node} (deeper : Inserted added children extended)
      : Inserted added
          (before ++ .element name attributes children :: after)
          (before ++ .element name attributes extended :: after)

/-- Without the unknown elements, an unknown element that was put in is gone, by induction over the
way down to it. -/
theorem Inserted.prune_eq {added : Node} {nodes extended : List Node}
    (inserted : Inserted added nodes extended) (unknown : pruned added = [])
    : prune extended = prune nodes := by
  induction inserted with
  | here before after => rw [prune_append, prune_append, prune, unknown, List.nil_append]
  | inside before after name attributes deeper ih =>
      simp only [prune_append, prune, pruned, ih]

theorem pruned_of_unknown {name : String} (noTag : Tag.ofName? name = none) (noCell : name ≠ "td")
    (noDefinition : name ≠ "tdef") (attributes : Keyed String) (content : List Node)
    : pruned (.element name attributes content) = [] := by
  have unknown : ¬ isKnown name = true := by
    simp [isKnown, cellName, noTag, noCell, noDefinition]
  rw [pruned, if_neg unknown]

/-- What compiling adds to a job depends on the root without its unknown elements. -/
theorem job_nodes_of_prune_eq {nodes others : List Node} (same : prune nodes = prune others)
    (job : Job)
    : ((Compiler.onto job).nodes none nodes).job = ((Compiler.onto job).nodes none others).job := by
  rw [job_nodes, job_nodes, ← emission_prune none _ nodes, same, emission_prune]

/-- An unknown element with any attributes and any content, put in anywhere inside of an element at the
top of a document, changes nothing about what becomes of the document: it is refused for the same
reason, or adds the same instructions to every job. -/
theorem compile_with_unknown {unknown : String} (noTag : Tag.ofName? unknown = none)
    (noCell : unknown ≠ "td") (noDefinition : unknown ≠ "tdef") (attributes : Keyed String)
    (content : List Node) {children extended : List Node}
    (inserted : Inserted (.element unknown attributes content) children extended)
    (before after : List Node) (name : String) (rootAttributes : Keyed String) (job : Job)
    : (Document.mk (before ++ .element name rootAttributes extended :: after)).compile job
      = (Document.mk (before ++ .element name rootAttributes children :: after)).compile job := by
  have same : prune extended = prune children :=
    inserted.prune_eq (pruned_of_unknown noTag noCell noDefinition attributes content)
  simp only [Document.compile, Document.root?, List.findSome?_append, List.findSome?_cons,
    Node.element?]
  cases before.findSome? Node.element? with
  | some root => rfl
  | none => simp only [Option.none_or, job_nodes_of_prune_eq same]

/-- Witness: an unknown element with a row of its own, put into a cell before the text of the cell. -/
theorem compile_unknown_in_cell
    : let extra : Node := .element "qrcode" .empty [.element "tr" .empty [.text "x"]]
      let table (cell : List Node) : Node :=
        .element "table" .empty [.element "tr" .empty [.element "td" .empty cell]]
      Tag.ofName? "qrcode" = none
      ∧ "qrcode" ≠ "td"
      ∧ "qrcode" ≠ "tdef"
      ∧ Inserted extra [table [.text "a"]] [table [extra, .text "a"]]
      ∧ ∀ job,
          (Document.mk [.element "printing" .empty [table [extra, .text "a"]]]).compile job
          = (Document.mk [.element "printing" .empty [table [.text "a"]]]).compile job := by
  intro extra table
  have inserted : Inserted extra [table [.text "a"]] [table [extra, .text "a"]] :=
    .inside [] [] "table" .empty
      (.inside [] [] "tr" .empty (.inside [] [] "td" .empty (.here [] [.text "a"])))
  exact ⟨rfl, by decide, by decide, inserted, fun job =>
    compile_with_unknown rfl (by decide) (by decide) .empty _ inserted [] [] "printing" .empty job⟩

end ReceiptFleet.Markup
