import ReceiptFleet.Proofs.Markup.NormalText
import ReceiptFleet.Proofs.Markup.PrintedText

/-!
What becomes of text nodes. It depends on the elements around a text whether it is printed as lines, as
the content of a cell, or not at all. The texts that text nodes contribute to a job stand among its
instructions in the order of the document.
-/

namespace ReceiptFleet.Markup

-----------------------------------------------------------------------------------------
-- Roles
-----------------------------------------------------------------------------------------

/-- What a list of nodes is for: it is the top of a document; its texts are printed as lines, where rows
print only in a table; it is a row, whose cells print; it is a cell, whose first text prints; or it
prints nothing. -/
inductive Role where
  | top
  | lines (inTable : Bool)
  | row
  | cell
  | nothing
deriving DecidableEq

/-- The role of the children of an element that is itself among nodes of a role. -/
def Role.inside (name : String) : Role → Role
  | .top => if name = rootName then .lines false else .nothing
  | .lines inTable =>
    match Tag.ofName? name with
    | some .paragraph => .lines false
    | some .table => .lines true
    | some .row => if inTable then .row else .nothing
    | _ => .nothing
  | .row => if name = cellName then .cell else .nothing
  | .cell | .nothing => .nothing

/-- Of the texts in a cell only the first one counts. -/
def Role.counted (texts : List String) : Role → List String
  | .cell => texts.take 1
  | _ => texts

mutual
/-- The texts that the text nodes in a node contribute to a job. -/
def contributedOf (role : Role) : Node → List String
  | .text content =>
    match role with
    | .lines _ => [normalText content ++ "\n"]
    | .cell => [Text.trim content]
    | _ => []
  | .element name _ children => contributed (role.inside name) children

/-- The texts that the text nodes in some nodes contribute to a job. -/
def contributed (role : Role) : List Node → List String
  | [] => []
  | first :: rest => role.counted (contributedOf role first ++ contributed role rest)
end

mutual
/-- The texts of a node, at any depth. -/
def textsOf : Node → List String
  | .text content => [content]
  | .element _ _ children => textsIn children

/-- The texts of nodes, at any depth. -/
def textsIn : List Node → List String
  | [] => []
  | first :: rest => textsOf first ++ textsIn rest
end

theorem textsIn_append (first second : List Node)
    : textsIn (first ++ second) = textsIn first ++ textsIn second := by
  induction first with
  | nil => rfl
  | cons node rest ih => rw [List.cons_append, textsIn, textsIn, ih, List.append_assoc]

theorem contributed_nothing (nodes : List Node)
    : contributed .nothing nodes = [] := by
  induction nodes using Node.forest_induction with
  | nil => rfl
  | text content rest ih => simp [contributed, contributedOf, Role.counted, ih]
  | element name attributes children rest inside ih =>
      simp [contributed, contributedOf, Role.counted, Role.inside, inside, ih]

/-- A cell contributes its first text. -/
theorem contributed_cell (nodes : List Node)
    : contributed .cell nodes = ((nodes.findSome? Node.text?).map Text.trim).toList := by
  induction nodes with
  | nil => rfl
  | cons node rest ih =>
      cases node with
      | text content => rfl
      | element name attributes children =>
          simp only [contributed, contributedOf, Role.counted, Role.inside, contributed_nothing, ih,
            List.nil_append, List.findSome?_cons, Node.text?]
          cases rest.findSome? Node.text? <;> rfl

/-- A row contributes the first texts of its cells. -/
theorem contributed_row (nodes : List Node)
    : contributed .row nodes
      = (((elementsOf nodes).filter (·.name = cellName)).flatMap fun td =>
          contributed .cell td.children) := by
  induction nodes with
  | nil => rfl
  | cons node rest ih =>
      cases node with
      | text content => exact ih
      | element name attributes children =>
          by_cases named : name = cellName
          · simp [contributed, contributedOf, Role.counted, Role.inside, elementsOf, Node.element?,
              named, ih]
          · simp [contributed, contributedOf, Role.counted, Role.inside, elementsOf, Node.element?,
              named, contributed_nothing, ih]

-----------------------------------------------------------------------------------------
-- Contributions among instructions
-----------------------------------------------------------------------------------------

/-- Texts none of which is blank. -/
def Solid (texts : List String) : Prop := ∀ s ∈ texts, ∃ c ∈ s.toList, Text.isBlank c = false

theorem solid_append_iff {first second : List String}
    : Solid (first ++ second) ↔ Solid first ∧ Solid second :=
  List.forall_mem_append

theorem solid_counted {role : Role} {texts : List String} (solid : Solid texts)
    : Solid (role.counted texts) := by
  cases role with
  | cell => exact fun s member => solid s (List.mem_of_mem_take member)
  | top | lines _ | row | nothing => exact solid

theorem exists_of_trim {content : String} (solid : ∃ c ∈ content.toList, Text.isBlank c = false)
    : ∃ c ∈ (Text.trim content).toList, Text.isBlank c = false := by
  rwa [← Text.ink_ne_nil_iff, Text.ink_trim, Text.ink_ne_nil_iff]

theorem exists_of_normalText {content : String}
    (solid : ∃ c ∈ content.toList, Text.isBlank c = false)
    : ∃ c ∈ (normalText content).toList, Text.isBlank c = false := by
  rwa [← Text.ink_ne_nil_iff, ink_normalText, Text.ink_ne_nil_iff]

/-- What texts that are not blank contribute is not blank either. -/
theorem solid_contributed {role : Role} {nodes : List Node} (solid : Solid (textsIn nodes))
    : Solid (contributed role nodes) := by
  induction nodes using Node.forest_induction generalizing role with
  | nil => exact fun s member => absurd member List.not_mem_nil
  | text content rest ih =>
      obtain ⟨first, later⟩ := List.forall_mem_cons.mp (solid : Solid (content :: textsIn rest))
      have here : Solid (contributedOf role (.text content)) := by
        cases role with
        | lines inTable =>
            refine List.forall_mem_singleton.mpr ?_
            obtain ⟨c, member, inked⟩ := exists_of_normalText first
            exact ⟨c, by simp [member], inked⟩
        | cell => exact List.forall_mem_singleton.mpr (exists_of_trim first)
        | top | row | nothing => exact fun s member => absurd member List.not_mem_nil
      exact solid_counted (solid_append_iff.mpr ⟨here, ih later⟩)
  | element name attributes children rest inside ih =>
      obtain ⟨first, later⟩ := solid_append_iff.mp (solid : Solid (textsIn children ++ textsIn rest))
      exact solid_counted (solid_append_iff.mpr ⟨inside first, ih later⟩)

/-- The text of a cell is printed between the spaces around it. -/
theorem contributed_cell_sublist {td : Element} (solid : Solid (contributed .cell td.children))
    (column : Table.Column)
    : ((contributed .cell td.children).map Instruction.text).Sublist (cellInstructions column td) := by
  rw [contributed_cell] at solid ⊢
  cases found : td.children.findSome? Node.text? with
  | none => exact List.nil_sublist _
  | some content =>
      rw [found] at solid
      obtain ⟨c, member, _⟩ := solid (Text.trim content) List.mem_cons_self
      have nonempty : Text.trim content ≠ "" := by
        intro empty
        rw [empty] at member
        cases member
      have inner : td.innerText = Text.trim content := by rw [Element.innerText, found]
      have shown : printed td.innerText = [.text (Text.trim content)] := by
        rw [inner, printed, if_neg nonempty]
      rw [cellInstructions, shown]
      exact ((List.sublist_append_right _ _).trans (List.sublist_append_left _ _)).trans
        (List.sublist_append_left _ _)

/-- The texts of cells are printed in order, if there is a column for each of them: by induction over
the columns. -/
theorem contributed_cells_sublist {columns : List Table.Column} {tds : List Element}
    (solid : ∀ td ∈ tds, Solid (contributed .cell td.children)) (few : tds.length ≤ columns.length)
    : ((tds.flatMap fun td => contributed .cell td.children).map Instruction.text).Sublist
        (rowInstructions columns tds) := by
  induction columns generalizing tds with
  | nil =>
      rw [List.eq_nil_of_length_eq_zero (Nat.le_zero.mp few)]
      exact List.nil_sublist _
  | cons column columns ih =>
      cases tds with
      | nil => exact List.nil_sublist _
      | cons td tds =>
          obtain ⟨first, later⟩ := List.forall_mem_cons.mp solid
          rw [List.flatMap_cons, List.map_append, rowInstructions]
          exact (contributed_cell_sublist first column).append
            (ih later (Nat.le_of_succ_le_succ few))

/-- A table, if there is one, has a column for each cell of the rows among some nodes. -/
def Wide (table : Option Table) (nodes : List Node) : Prop :=
  ∀ t ∈ table, ∀ row ∈ nodes.filterMap rowOf?,
    (row.elementsNamed cellName).length ≤ t.columns.length

theorem wide_none (nodes : List Node)
    : Wide none nodes :=
  fun _ given => (Option.not_mem_none _ given).elim

/-- The table of an element has. -/
theorem wide_tableOf (children : List Node) (width : Nat)
    : Wide (some (tableOf children width)) children := by
  rintro _ ⟨⟩ row member
  have covers := (covers_tableOf width member).length_le
  rwa [cellTexts, List.length_map] at covers

theorem wide_append_iff {table : Option Table} {first second : List Node}
    : Wide table (first ++ second) ↔ Wide table first ∧ Wide table second := by
  simp only [Wide, List.filterMap_append, List.forall_mem_append, forall_and]

theorem wide_cons_iff {table : Option Table} {node : Node} {rest : List Node}
    : Wide table (node :: rest) ↔ Wide table [node] ∧ Wide table rest := by
  rw [← List.singleton_append, wide_append_iff]

/-- What the text nodes of a forest contribute stands among its instructions, in order, if none of
them is blank and the table has a column for each cell of a row. The induction is over the forest. -/
theorem contributed_sublist {table : Option Table} {nodes : List Node} (width : Nat)
    (solid : Solid (textsIn nodes)) (wide : Wide table nodes)
    : ((contributed (.lines table.isSome) nodes).map Instruction.text).Sublist
        (emission table width nodes) := by
  induction nodes using Node.forest_induction generalizing table with
  | nil => exact List.nil_sublist _
  | text content rest ih =>
      obtain ⟨_, later⟩ := List.forall_mem_cons.mp (solid : Solid (content :: textsIn rest))
      simp only [contributed, contributedOf, Role.counted, emission, emissionOf, List.map_append]
      exact (List.Sublist.refl _).append (ih later (wide_cons_iff.mp wide).2)
  | element name attributes children rest inside ih =>
      obtain ⟨first, later⟩ := solid_append_iff.mp (solid : Solid (textsIn children ++ textsIn rest))
      obtain ⟨wideFirst, wideRest⟩ := wide_cons_iff.mp wide
      simp only [contributed, Role.counted, emission, List.map_append]
      refine List.Sublist.append ?_ (ih later wideRest)
      simp only [contributedOf, emissionOf, Role.inside]
      cases tagged : Tag.ofName? name with
      | none => simp [contributed_nothing]
      | some tag =>
          cases tag with
          | paragraph => exact inside first (wide_none children)
          | table => exact inside first (wide_tableOf children width)
          | row =>
              cases table with
              | none => simp [contributed_nothing]
              | some t =>
                  have named := (Tag.ofName?_eq_some_iff name .row).mp tagged
                  have solidRow : Solid (contributed .row children) := solid_contributed first
                  simp only [Option.isSome_some, if_true]
                  rw [contributed_row] at solidRow ⊢
                  refine contributed_cells_sublist ?_ ?_
                  · exact fun td member s among => solidRow s (List.mem_flatMap.mpr ⟨td, member, among⟩)
                  · refine wideFirst t rfl ⟨name, attributes, children⟩ ?_
                    simp [rowOf?, Node.element?, named, Tag.name]
          | _ => simp [contributed_nothing]

end ReceiptFleet.Markup
