import ReceiptFleet.Markup.Compile

/-!
What markup adds to a job. The compiler carries a job and a formatting through the tree, but neither
has a say in what it adds: every node has instructions of its own, which depend on the width of the
line and, for a row, on the table around it.
-/

namespace ReceiptFleet.Markup

/-- Induction over forests: an element is settled by its children, a list by its first node and the
nodes after it. -/
theorem Node.forest_induction {motive : List Node → Prop}
    (nil : motive [])
    (text : ∀ content rest, motive rest → motive (.text content :: rest))
    (element
      : ∀ name attributes children rest,
          motive children → motive rest → motive (.element name attributes children :: rest))
    (nodes : List Node)
    : motive nodes :=
  @Node.rec_1 (fun node => ∀ rest, motive rest → motive (node :: rest)) motive text
    (fun name attributes children settled rest => element name attributes children rest settled)
    nil (fun _ rest head tail => head rest tail) nodes

-----------------------------------------------------------------------------------------
-- The instructions of a node
-----------------------------------------------------------------------------------------

/-- The instruction that prints a text, unless it is empty. -/
def printed (s : String) : List Instruction := if s = "" then [] else [.text s]

/-- The instruction of a switch whose attribute an element has. -/
def flagInstruction (e : Element) (revert : Bool) (flag : FontFlag) : List Instruction :=
  ((e.attribute? flag.attribute).map
    fun value => flag.instruction ((value != "false") != revert)).toList

def flagInstructions (e : Element) (revert : Bool) : List Instruction :=
  FontFlag.all.flatMap (flagInstruction e revert)

def styleInstructions (e : Element) : List Instruction :=
  ((modeOf? Align.ofName? e "align").map Instruction.align).toList ++ flagInstructions e false
    ++ ((modeOf? Size.ofName? e "size").map Instruction.size).toList
    ++ ((modeOf? Font.ofName? e "font").map Instruction.font).toList

def cellInstructions (column : Table.Column) (td : Element) : List Instruction :=
  printed (column.pad td.innerText).1 ++ flagInstructions td false ++ printed td.innerText
    ++ flagInstructions td true ++ printed (column.pad td.innerText).2

/-- The instructions of a row: its cells in the columns of its table, and the spaces of the columns
that are left. -/
def rowInstructions : List Table.Column → List Element → List Instruction
  | [], _ => []
  | column :: columns, [] =>
      printed ((column.pad "").1 ++ (column.pad "").2) ++ rowInstructions columns []
  | column :: columns, td :: tds => cellInstructions column td ++ rowInstructions columns tds

mutual
/-- The instructions of a node on a line of some width, inside of a table if there is one. -/
def emissionOf (table : Option Table) (width : Nat) : Node → List Instruction
  | .text content => [.text (normalText content ++ "\n")]
  | .element name attributes children =>
    match Tag.ofName? name with
    | none => []
    | some .verticalTab => [.verticalTab]
    | some .beep => [.beep]
    | some .partialCut => [.partialCut]
    | some .cut => [.cut]
    | some .cashDrawer => [.cashDrawer]
    | some .style => styleInstructions ⟨name, attributes, children⟩
    | some .paragraph => emission none width children
    | some .table => emission (some (tableOf children width)) width children
    | some .row =>
      match table with
      | some t => rowInstructions t.columns (Element.elementsNamed ⟨name, attributes, children⟩ cellName)
      | none => []
    | some .separator =>
      printed (separatorLine (Element.attribute? ⟨name, attributes, children⟩ "char") width)

/-- The instructions of nodes, one after the other. -/
def emission (table : Option Table) (width : Nat) : List Node → List Instruction
  | [] => []
  | first :: rest => emissionOf table width first ++ emission table width rest
end

theorem emission_eq_flatMap (table : Option Table) (width : Nat) (nodes : List Node)
    : emission table width nodes = nodes.flatMap (emissionOf table width) := by
  induction nodes with
  | nil => rfl
  | cons first rest ih => rw [emission, ih, List.flatMap_cons]

theorem emission_append (table : Option Table) (width : Nat) (first second : List Node)
    : emission table width (first ++ second)
      = emission table width first ++ emission table width second := by
  rw [emission_eq_flatMap, List.flatMap_append, ← emission_eq_flatMap, ← emission_eq_flatMap]

theorem elementsOf_append (first second : List Node)
    : elementsOf (first ++ second) = elementsOf first ++ elementsOf second :=
  List.filterMap_append

-----------------------------------------------------------------------------------------
-- Steps that only add
-----------------------------------------------------------------------------------------

/-- A step of the compiler adds these instructions to every job of a width, whatever the job holds
and whatever formatting is in effect, and does nothing else to it. -/
def Adds (width : Nat) (step : Compiler → Compiler) (added : List Instruction) : Prop :=
  ∀ c : Compiler, c.job.width = width → (step c).job = ⟨width, c.job.instructions ++ added⟩

variable {width : Nat}

theorem adds_nothing : Adds width (fun c => c) [] := by
  rintro ⟨⟨_, instructions⟩, formatting⟩ rfl
  rw [List.append_nil]

/-- Two steps add what the first one adds and then what the second one adds. -/
theorem Adds.next {first second : Compiler → Compiler} {one two : List Instruction}
    (adds : Adds width first one) (more : Adds width second two)
    : Adds width (fun c => second (first c)) (one ++ two) := by
  intro c sized
  have after := adds c sized
  rw [more (first c) (by rw [after]), after, List.append_assoc]

/-- Steps for the items of a list add what the items add, by induction over the list. -/
theorem adds_foldl {α : Type} {step : Compiler → α → Compiler} {added : α → List Instruction}
    (adds : ∀ item, Adds width (fun c => step c item) (added item)) (items : List α)
    : Adds width (fun c => items.foldl step c) (items.flatMap added) := by
  induction items with
  | nil => exact adds_nothing
  | cons item rest ih =>
      rw [List.flatMap_cons]
      exact (adds item).next ih

namespace Compiler

theorem adds_push (instruction : Instruction)
    : Adds width (fun c => c.push instruction) [instruction] := by
  rintro ⟨⟨_, instructions⟩, formatting⟩ rfl
  rfl

theorem adds_print (s : String)
    : Adds width (fun c => c.print s) (printed s) := by
  by_cases blank : s = ""
  · simp only [print, Job.print, printed, if_pos blank]
    exact adds_nothing
  · simp only [print, Job.print, printed, if_neg blank]
    exact adds_push (.text s)

theorem adds_text (content : String)
    : Adds width (fun c => c.text content) [.text (normalText content ++ "\n")] := by
  have ended : normalText content ++ "\n" ≠ "" := by simp
  have prints
      : Adds width (fun c => c.print (normalText content ++ "\n"))
          (printed (normalText content ++ "\n")) :=
    adds_print _
  rw [printed, if_neg ended] at prints
  exact prints

/-- The pattern of a separator is repeated over the width of the job. -/
theorem adds_separator (e : Element)
    : Adds width (fun c => c.separator e)
        (printed (separatorLine (e.attribute? "char") width)) := by
  intro c sized
  have prints := adds_print (separatorLine (e.attribute? "char") width) c sized
  rw [← sized] at prints ⊢
  exact prints

theorem adds_setAlign (align : Option Align)
    : Adds width (fun c => c.setAlign align) (align.map Instruction.align).toList := by
  cases align with
  | none => exact adds_nothing
  | some align => exact adds_push (.align align)

theorem adds_setSize (size : Option Size)
    : Adds width (fun c => c.setSize size) (size.map Instruction.size).toList := by
  cases size with
  | none => exact adds_nothing
  | some size => exact adds_push (.size size)

theorem adds_setFont (font : Option Font)
    : Adds width (fun c => c.setFont font) (font.map Instruction.font).toList := by
  cases font with
  | none => exact adds_nothing
  | some font => exact adds_push (.font font)

theorem adds_setFlag (e : Element) (revert : Bool) (flag : FontFlag)
    : Adds width (fun c => c.setFlag e revert flag) (flagInstruction e revert flag) := by
  simp only [setFlag, flagInstruction]
  cases e.attribute? flag.attribute with
  | none => exact adds_nothing
  | some value => exact adds_push (flag.instruction ((value != "false") != revert))

theorem adds_setFlags (e : Element) (revert : Bool)
    : Adds width (fun c => c.setFlags e revert) (flagInstructions e revert) :=
  adds_foldl (adds_setFlag e revert) FontFlag.all

theorem adds_style (e : Element)
    : Adds width (fun c => c.style e) (styleInstructions e) :=
  (((adds_setAlign _).next (adds_setFlags e false)).next (adds_setSize _)).next (adds_setFont _)

theorem adds_cell (column : Table.Column) (td : Element)
    : Adds width (fun c => c.cell column td) (cellInstructions column td) :=
  ((((adds_print _).next (adds_setFlags td false)).next (adds_print _)).next
    (adds_setFlags td true)).next (adds_print _)

/-- A row adds its cells, by induction over the columns of its table. -/
theorem adds_cells (columns : List Table.Column) (tds : List Element)
    : Adds width (fun c => c.cells columns tds) (rowInstructions columns tds) := by
  induction columns generalizing tds with
  | nil => exact adds_nothing
  | cons column columns ih =>
      cases tds with
      | nil => exact (adds_print _).next (ih [])
      | cons td tds => exact (adds_cell column td).next (ih tds)

/-- Nodes add their instructions, by induction over the forest: no node leaves anything behind that
another one would read. -/
theorem adds_nodes (table : Option Table) (nodes : List Node)
    : Adds width (fun c => c.nodes table nodes) (emission table width nodes) := by
  induction nodes using Node.forest_induction generalizing table with
  | nil => exact adds_nothing
  | text content rest ih =>
      simp only [nodes, node, emission, emissionOf]
      exact (adds_text content).next (ih table)
  | element name attributes children rest inside ih =>
      simp only [nodes, emission]
      refine Adds.next ?_ (ih table)
      simp only [node, emissionOf]
      cases Tag.ofName? name with
      | none => exact adds_nothing
      | some tag =>
          cases tag with
          | verticalTab => exact adds_push .verticalTab
          | beep => exact adds_push .beep
          | partialCut => exact adds_push .partialCut
          | cut => exact adds_push .cut
          | cashDrawer => exact adds_push .cashDrawer
          | style => exact adds_style _
          | paragraph => exact inside none
          | table =>
              -- The columns are laid out for the width of the job, which no step has changed.
              intro c sized
              simp only [sized]
              exact inside _ c sized
          | row =>
              cases table with
              | none => exact adds_nothing
              | some t => exact adds_cells t.columns _
          | separator => exact adds_separator _

end Compiler

-----------------------------------------------------------------------------------------
-- Instructions that do something
-----------------------------------------------------------------------------------------

/-- None of the instructions initializes the printer or prints an empty text. -/
def Active (instructions : List Instruction) : Prop :=
  .init ∉ instructions ∧ .text "" ∉ instructions

theorem active_nil : Active [] := ⟨nofun, nofun⟩

theorem Active.append {first second : List Instruction} (one : Active first) (two : Active second)
    : Active (first ++ second) :=
  ⟨fun member => (List.mem_append.mp member).elim one.1 two.1,
    fun member => (List.mem_append.mp member).elim one.2 two.2⟩

theorem active_singleton {instruction : Instruction} (notInit : instruction ≠ .init)
    (notBlank : instruction ≠ .text "")
    : Active [instruction] :=
  ⟨fun member => notInit (List.mem_singleton.mp member).symm,
    fun member => notBlank (List.mem_singleton.mp member).symm⟩

theorem active_printed (s : String)
    : Active (printed s) := by
  by_cases blank : s = ""
  · rw [printed, if_pos blank]
    exact active_nil
  · rw [printed, if_neg blank]
    exact active_singleton nofun fun same => blank (Instruction.text.inj same)

theorem active_mode {α : Type} {set : α → Instruction} (active : ∀ mode, Active [set mode])
    (mode : Option α)
    : Active (mode.map set).toList := by
  cases mode with
  | none => exact active_nil
  | some mode => exact active mode

theorem active_flagInstructions (e : Element) (revert : Bool)
    : Active (flagInstructions e revert) := by
  have active (flag : FontFlag) : Active (flagInstruction e revert flag) :=
    active_mode (fun _ => by cases flag <;> exact active_singleton nofun nofun) _
  rw [flagInstructions]
  induction FontFlag.all with
  | nil => exact active_nil
  | cons flag rest ih =>
      rw [List.flatMap_cons]
      exact (active flag).append ih

theorem active_styleInstructions (e : Element)
    : Active (styleInstructions e) := by
  have aligns (align : Align) : Active [.align align] := active_singleton nofun nofun
  have sizes (size : Size) : Active [.size size] := active_singleton nofun nofun
  have fonts (font : Font) : Active [.font font] := active_singleton nofun nofun
  exact (((active_mode aligns _).append (active_flagInstructions e false)).append
    (active_mode sizes _)).append (active_mode fonts _)

theorem active_cellInstructions (column : Table.Column) (td : Element)
    : Active (cellInstructions column td) :=
  ((((active_printed _).append (active_flagInstructions td false)).append
    (active_printed _)).append (active_flagInstructions td true)).append (active_printed _)

theorem active_rowInstructions (columns : List Table.Column) (tds : List Element)
    : Active (rowInstructions columns tds) := by
  induction columns generalizing tds with
  | nil => exact active_nil
  | cons column columns ih =>
      cases tds with
      | nil => exact (active_printed _).append (ih [])
      | cons td tds => exact (active_cellInstructions column td).append (ih tds)

/-- Markup never initializes the printer and never prints an empty text, by induction over the
forest. -/
theorem active_emission (table : Option Table) (nodes : List Node)
    : Active (emission table width nodes) := by
  induction nodes using Node.forest_induction generalizing table with
  | nil => exact active_nil
  | text content rest ih =>
      have line : Active [.text (normalText content ++ "\n")] :=
        active_singleton nofun (by simp)
      simp only [emission, emissionOf]
      exact line.append (ih table)
  | element name attributes children rest inside ih =>
      simp only [emission]
      refine Active.append ?_ (ih table)
      simp only [emissionOf]
      cases Tag.ofName? name with
      | none => exact active_nil
      | some tag =>
          cases tag with
          | style => exact active_styleInstructions _
          | paragraph => exact inside none
          | table => exact inside _
          | separator => exact active_printed _
          | row =>
              cases table with
              | none => exact active_nil
              | some t => exact active_rowInstructions t.columns _
          | _ => exact active_singleton nofun nofun

-----------------------------------------------------------------------------------------
-- Documents
-----------------------------------------------------------------------------------------

theorem job_nodes (job : Job) (nodes : List Node)
    : ((Compiler.onto job).nodes none nodes).job
      = ⟨job.width, job.instructions ++ emission none job.width nodes⟩ :=
  Compiler.adds_nodes none nodes (Compiler.onto job) rfl

/-- A document that compiles has the root of documents that print, and the instructions of its children
are added. -/
theorem compile_eq_ok_iff {document : Document} {job compiled : Job}
    : document.compile job = .ok compiled
      ↔ ∃ root,
          document.root? = some root
          ∧ root.name = rootName
          ∧ compiled = ⟨job.width, job.instructions ++ emission none job.width root.children⟩ := by
  rw [Document.compile]
  cases document.root? with
  | none => simp
  | some root =>
      by_cases named : root.name = rootName
      · simp [named, job_nodes, eq_comm]
      · simp [named]

/-- Compiling a document only adds to a job. What it adds is a function of the children of its root
and of the width of the job alone; that function goes through lists piece by piece and through
paragraphs as if they were not there, and it never initializes the printer or prints an empty text.
-/
theorem compile_appends_emission
    : (∀ (document : Document) (root : Element) (job : Job),
        document.root? = some root →
        root.name = rootName →
        ∃ compiled,
          document.compile job = .ok compiled
          ∧ compiled.width = job.width
          ∧ compiled.instructions = job.instructions ++ emission none job.width root.children)
      ∧ (∀ xs ys width,
          emission none width (xs ++ ys) = emission none width xs ++ emission none width ys)
      ∧ (∀ attributes children width,
          emission none width [.element "p" attributes children] = emission none width children)
      ∧ (∀ nodes width,
          .init ∉ emission none width nodes ∧ .text "" ∉ emission none width nodes) := by
  refine ⟨?_, ?_, ?_, fun nodes _ => active_emission none nodes⟩
  · intro document root job found named
    exact ⟨_, compile_eq_ok_iff.mpr ⟨root, found, named, rfl⟩, rfl, rfl⟩
  · intro xs ys width
    simp only [emission_eq_flatMap, List.flatMap_append]
  · intro attributes children width
    simp only [emission, emissionOf, Tag.ofName?, List.append_nil]

end ReceiptFleet.Markup
