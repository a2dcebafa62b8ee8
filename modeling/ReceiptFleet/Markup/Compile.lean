import ReceiptFleet.Job.Basic
import ReceiptFleet.Job.Formatting
import ReceiptFleet.Markup.Parse
import ReceiptFleet.Markup.Tag
import ReceiptFleet.Table.Basic
import ReceiptFleet.Text.Pieces

/-!
Compiling markup into a print job. The compiler walks the tree and adds instructions to a job; it
also keeps the formatting that they put into effect. Rows print only directly inside their table, whose
layout is computed from all of its rows before the first one is printed.
-/

namespace ReceiptFleet.Markup

/-! ## Texts and separators -/

/-- The text that a text node prints, without its line end: trimmed as a whole, and every line
without padding. -/
def normalText (content : String) : String :=
  let lines := Text.pieces '\n' (Text.stripChars Text.isBlank content.toList)
  String.ofList (Text.joinPieces '\n' (lines.map (Text.stripChars Text.isLinePadding)))

/-- Fills what is left of a line from a pattern, with at most so many characters: those of `rest`, then
of the whole pattern again, as long as the next one fits. -/
def fill (pattern : List Char) (room : Nat) (rest : List Char) : Nat → List Char
  | 0 => []
  | count + 1 =>
    match if rest.isEmpty then pattern else rest with
    | [] => []
    | c :: rest =>
      let width := Text.Gbk.charWidth c
      if width = 0 ∨ room < width then [] else c :: fill pattern (room - width) rest count

/-- The line of a separator: its pattern over and over, as far as it fits into the width, where every
character takes at least a column. A missing or empty pattern is a hyphen. -/
def separatorLine (pattern : Option String) (width : Nat) : String :=
  let pattern := match pattern with
    | some p => if p = "" then "-" else p
    | none => "-"
  String.ofList (fill pattern.toList width [] width)

/-! ## Tables -/

/-- The name of cells, and of column definitions inside a `tdef`. -/
def cellName : String := "td"

/-- A mode that an attribute spells; an unknown spelling counts as none. -/
def modeOf? {α : Type} (ofName? : String → Option α) (e : Element) (name : String) : Option α :=
  (e.attribute? name).bind ofName?

/-- The column that a column definition asks for. -/
def columnOf (definition : Element) : Table.Column :=
  { align := (modeOf? Align.ofName? definition "align").getD .left
    expand := definition.attribute? "expand" = some "true" }

/-- The cells of a row as they are measured. -/
def cellTexts (row : Element) : List String :=
  (row.elementsNamed cellName).map Element.innerText

/-- Takes up a child of a table: definitions add columns, rows are seen by their columns. -/
def tableStep (t : Table) (child : Element) : Table :=
  if child.name = "tdef" then t.define ((child.elementsNamed cellName).map columnOf)
  else if child.name = "tr" then t.pushRow (cellTexts child)
  else t

/-- The table of an element's children, laid out on a line of some width. -/
def tableOf (children : List Node) (width : Nat) : Table :=
  ((elementsOf children).foldl tableStep Table.empty).layOut width

/-! ## The compiler -/

/-- A job being compiled, and the formatting in effect at its end. -/
structure Compiler where
  job : Job
  formatting : Formatting := {}
deriving DecidableEq, Repr

namespace Compiler

/-- A compiler that adds to a job, with the default formatting in effect. -/
def onto (job : Job) : Compiler := { job }

/-- Adds an instruction that formats nothing. -/
def push (c : Compiler) (instruction : Instruction) : Compiler :=
  { c with job := c.job.push instruction }

/-- Adds a text, unless it is empty. -/
def print (c : Compiler) (s : String) : Compiler := { c with job := c.job.print s }

/-- Adds the text of a text node as lines of its own. -/
def text (c : Compiler) (content : String) : Compiler :=
  { c with job := c.job.line (normalText content) }

/-- Adds a separator. -/
def separator (c : Compiler) (e : Element) : Compiler :=
  c.print (separatorLine (e.attribute? "char") c.job.width)

/-- Sets an alignment, if there is one. -/
def setAlign (c : Compiler) : Option Align → Compiler
  | some align =>
    { job := c.job.push (.align align), formatting := { c.formatting with align } }
  | none => c

/-- Sets a size, if there is one. -/
def setSize (c : Compiler) : Option Size → Compiler
  | some size => { job := c.job.push (.size size), formatting := { c.formatting with size } }
  | none => c

/-- Sets a typeface, if there is one. -/
def setFont (c : Compiler) : Option Font → Compiler
  | some font => { job := c.job.push (.font font), formatting := { c.formatting with font } }
  | none => c

/-- Sets a switch if an element has its attribute: to on unless the value is `false`, or to the
opposite to revert it. -/
def setFlag (c : Compiler) (e : Element) (revert : Bool) (flag : FontFlag) : Compiler :=
  match e.attribute? flag.attribute with
  | some value =>
    let on := (value != "false") != revert
    { job := c.job.push (flag.instruction on), formatting := c.formatting.setFlag flag on }
  | none => c

/-- Sets the switches of an element's attributes, or reverts them. -/
def setFlags (c : Compiler) (e : Element) (revert : Bool) : Compiler :=
  FontFlag.all.foldl (fun c flag => c.setFlag e revert flag) c

/-- Takes up a style: alignment, switches, size and typeface, in this order. -/
def style (c : Compiler) (e : Element) : Compiler :=
  let c := c.setAlign (modeOf? Align.ofName? e "align")
  let c := c.setFlags e false
  let c := c.setSize (modeOf? Size.ofName? e "size")
  c.setFont (modeOf? Font.ofName? e "font")

/-- Adds a cell: its spaces around its text, and its own switches around the text alone. -/
def cell (c : Compiler) (column : Table.Column) (td : Element) : Compiler :=
  let content := td.innerText
  let (before, after) := column.pad content
  let c := (c.print before).setFlags td false
  ((c.print content).setFlags td true).print after

/-- Adds a column without a cell: its spaces alone. -/
def gap (c : Compiler) (column : Table.Column) : Compiler :=
  let (before, after) := column.pad ""
  c.print (before ++ after)

/-- Adds the columns of a row; cells beyond the last column are left out. -/
def cells (c : Compiler) : List Table.Column → List Element → Compiler
  | [], _ => c
  | column :: columns, [] => cells (c.gap column) columns []
  | column :: columns, td :: tds => cells (c.cell column td) columns tds

/-- Adds a row of a table; outside of a table it prints nothing. -/
def row (c : Compiler) (table : Option Table) (e : Element) : Compiler :=
  match table with
  | some t => c.cells t.columns (e.elementsNamed cellName)
  | none => c

mutual
/-- Adds a node, inside of a table if there is one. -/
def node (table : Option Table) (c : Compiler) : Node → Compiler
  | .text content => c.text content
  | .element name attributes children =>
    match Tag.ofName? name with
    | none => c
    | some .verticalTab => c.push .verticalTab
    | some .beep => c.push .beep
    | some .partialCut => c.push .partialCut
    | some .cut => c.push .cut
    | some .cashDrawer => c.push .cashDrawer
    | some .style => c.style ⟨name, attributes, children⟩
    | some .paragraph => nodes none c children
    | some .table => nodes (some (tableOf children c.job.width)) c children
    | some .row => c.row table ⟨name, attributes, children⟩
    | some .separator => c.separator ⟨name, attributes, children⟩

/-- Adds nodes, one after the other. -/
def nodes (table : Option Table) (c : Compiler) : List Node → Compiler
  | [] => c
  | first :: rest => nodes table (node table c first) rest
end

end Compiler

/-! ## Documents -/

/-- Adds a document to a job. -/
def Document.compile (document : Document) (job : Job) : Except MarkupError Job :=
  match document.root? with
  | none => .error .empty
  | some root =>
    if root.name = rootName then .ok ((Compiler.onto job).nodes none root.children).job
    else .error (.notPrinting root.name)

/-- Adds the document of an XML text to a job. -/
def compile (xml : String) (job : Job) : Except MarkupError Job := do
  (← Document.parse xml).compile job

end ReceiptFleet.Markup
