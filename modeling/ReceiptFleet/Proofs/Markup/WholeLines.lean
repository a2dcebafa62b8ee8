import Mathlib.Data.List.DropRight
import ReceiptFleet.Proofs.Markup.Separators
import ReceiptFleet.Proofs.Table.Fitting

/-!
The lines of a compiled job. Texts end their lines themselves. Separators and the rows of tables do not:
they fill theirs to the last column, and the printer goes on at the next one. So whatever comes after a
node begins a line, as long as the content of tables fits and nothing else breaks the rule.
-/

namespace ReceiptFleet

-----------------------------------------------------------------------------------------
-- What stands behind the last line end
-----------------------------------------------------------------------------------------

/-- How far a text reaches behind its last line end, in columns. -/
def overhang (s : String) : Nat := Text.Gbk.charsWidth (s.toList.rtakeWhile (· ≠ '\n'))

theorem overhang_append_lineEnd (s : String)
    : overhang (s ++ "\n") = 0 := by
  have ends : (s ++ "\n").toList = s.toList ++ ['\n'] := String.toList_append
  rw [overhang, ends, List.rtakeWhile_concat_neg _ _ _ (by decide)]
  rfl

theorem overhang_append {s t : String} (noLineEnd : '\n' ∉ t.toList)
    : overhang (s ++ t) = overhang s + Text.Gbk.width t := by
  have behind : ∀ c ∈ t.toList.reverse, decide (c ≠ '\n') = true := fun c member =>
    decide_eq_true fun same => noLineEnd (same ▸ List.mem_reverse.mp member)
  have kept
      : (s ++ t).toList.rtakeWhile (· ≠ '\n') = s.toList.rtakeWhile (· ≠ '\n') ++ t.toList := by
    rw [String.toList_append, List.rtakeWhile, List.reverse_append,
      List.takeWhile_append_of_pos behind, List.reverse_append, List.reverse_reverse]
    rfl
  rw [overhang, kept, Text.Gbk.charsWidth_append]
  rfl

/-- A text that begins at the start of a line, or any number of whole lines behind it, ends there
too. -/
def KeepsLines (width : Nat) (s : String) : Prop :=
  ∀ before, width ∣ overhang before → width ∣ overhang (before ++ s)

variable {width : Nat}

theorem keepsLines_empty : KeepsLines width "" := by
  intro before whole
  rwa [String.append_empty]

theorem KeepsLines.append {s t : String} (one : KeepsLines width s) (two : KeepsLines width t)
    : KeepsLines width (s ++ t) := by
  intro before whole
  rw [← String.append_assoc]
  exact two _ (one before whole)

theorem keepsLines_line (s : String)
    : KeepsLines width (s ++ "\n") := by
  intro before _
  rw [← String.append_assoc, overhang_append_lineEnd]
  exact Nat.dvd_zero width

theorem keepsLines_of_width {s : String} (noLineEnd : '\n' ∉ s.toList)
    (filled : width ∣ Text.Gbk.width s)
    : KeepsLines width s := by
  intro before whole
  rw [overhang_append noLineEnd]
  exact Nat.dvd_add whole filled

namespace Markup

-----------------------------------------------------------------------------------------
-- Markup that can fill its lines
-----------------------------------------------------------------------------------------

mutual
/-- The elements of a node: itself, if it is one, and those inside it. -/
def elementsIn : Node → List Element
  | .text _ => []
  | .element name attributes children => ⟨name, attributes, children⟩ :: elementsWithin children

/-- The elements among some nodes, at any depth. -/
def elementsWithin : List Node → List Element
  | [] => []
  | first :: rest => elementsIn first ++ elementsWithin rest
end

/-- What keeps an element from breaking the lines of a width. The pattern of a separator has characters
of one column, which fill every line. A table expands at most one column, its content fits on a line, and
its cells have no line ends. -/
structure FillsLines (width : Nat) (e : Element) : Prop where
  pattern
    : e.name = "separator" →
      ∀ written, e.attribute? "char" = some written →
        ∀ c ∈ written.toList, c ≠ '\n' ∧ Text.Gbk.charWidth c = 1
  lone : e.name = "table" → Table.expanding (measured e.children).columns ≤ 1
  fits : e.name = "table" → Table.Fits (measured e.children).columns width
  cells
    : e.name = "table" →
      ∀ row ∈ e.children.filterMap rowOf?, ∀ cell ∈ cellTexts row, '\n' ∉ cell.toList

-----------------------------------------------------------------------------------------
-- Separators and rows
-----------------------------------------------------------------------------------------

theorem keepsLines_separatorLine {e : Element} (regular : FillsLines width e)
    (named : e.name = "separator")
    : KeepsLines width (separatorLine (e.attribute? "char") width) := by
  have pattern (c : Char) (member : c ∈ (patternText (e.attribute? "char")).toList)
      : c ≠ '\n' ∧ Text.Gbk.charWidth c = 1 := by
    rcases mem_patternText member with rfl | ⟨written, found, inside⟩
    · decide
    · exact regular.pattern named written found c inside
  rw [separatorLine_eq]
  apply keepsLines_of_width
  · intro member
    rw [String.toList_ofList] at member
    rcases mem_of_mem_fill member with inside | nowhere
    · exact (pattern '\n' inside).1 rfl
    · exact absurd nowhere List.not_mem_nil
  · rw [← separatorLine_eq]
    have filled :=
      width_separatorLine_of_uniform (fun c member => (pattern c member).2) (Nat.one_dvd width)
    exact ⟨1, filled.trans (Nat.mul_one width).symm⟩

/-- A row of a table that can fill its line does so, or it has no columns to print. -/
theorem keepsLines_row {e row : Element} (regular : FillsLines width e) (named : e.name = "table")
    (member : row ∈ e.children.filterMap rowOf?)
    : KeepsLines width
        (readOut
          (rowInstructions (tableOf e.children width).columns (row.elementsNamed cellName))) := by
  have covers : Table.Covers (measured e.children).columns (cellTexts row) := covers_measured member
  have few := covers.length_le
  have laid : (tableOf e.children width).columns.length = (measured e.children).columns.length :=
    Table.length_layout _ width
  apply keepsLines_of_width
  · intro inside
    rcases mem_rowInstructions inside with space | ⟨td, among, lineEnd⟩
    · exact absurd space (by decide)
    · exact regular.cells named row member _ (List.mem_map_of_mem among) lineEnd
  · rw [readOut_row, Table.width_renderRow, filledCells, laid, List.map_append, map_trim_cellTexts,
      List.map_replicate, Text.trim_empty]
    by_cases bare : (measured e.children).columns = []
    · have empty : (tableOf e.children width).columns = [] := by
        rw [← List.length_eq_zero_iff, laid, bare]
        rfl
      rw [empty]
      exact Nat.dvd_zero width
    · let missing := (measured e.children).columns.length - (cellTexts row).length
      have room : (cellTexts row).length + missing = (measured e.children).columns.length := by
        omega
      have fills
          : Table.rowWidth (Table.layout (measured e.children).columns width)
              (cellTexts row ++ List.replicate missing "") = width :=
        Table.rowWidth_layout_of_lone bare (regular.fits named) (regular.lone named)
          (covers.append_empty (Nat.le_of_eq room))
          (by rw [List.length_append, List.length_replicate, room])
      exact ⟨1, (fills.trans (Nat.mul_one width).symm)⟩

-----------------------------------------------------------------------------------------
-- Whole trees
-----------------------------------------------------------------------------------------

/-- The rows among some nodes fill their lines in the columns of a table around them. -/
def RowsFill (width : Nat) (table : Option Table) (nodes : List Node) : Prop :=
  ∀ t ∈ table, ∀ row ∈ nodes.filterMap rowOf?,
    KeepsLines width (readOut (rowInstructions t.columns (row.elementsNamed cellName)))

theorem rowsFill_none (nodes : List Node) : RowsFill width none nodes :=
  fun _ around => absurd around (Option.not_mem_none _)

theorem RowsFill.sublist {table : Option Table} {nodes fewer : List Node}
    (rows : RowsFill width table nodes) (part : fewer.Sublist nodes)
    : RowsFill width table fewer :=
  fun t around row member => rows t around row ((part.filterMap rowOf?).subset member)

theorem rowsFill_table {e : Element} (regular : FillsLines width e) (named : e.name = "table")
    : RowsFill width (some (tableOf e.children width)) e.children := by
  intro t around row member
  obtain rfl := Option.some.inj around
  exact keepsLines_row regular named member

/-- Nodes end where a line begins, if they begin there, by induction over the forest. -/
theorem keepsLines_emission {table : Option Table} {nodes : List Node}
    (regular : ∀ e ∈ elementsWithin nodes, FillsLines width e) (rows : RowsFill width table nodes)
    : KeepsLines width (readOut (emission table width nodes)) := by
  induction nodes using Node.forest_induction generalizing table with
  | nil => exact keepsLines_empty
  | text content rest ih =>
      simp only [emission, emissionOf, readOut_append, readOut_text]
      exact (keepsLines_line _).append
        (ih (fun e member => regular e (by simpa [elementsWithin, elementsIn] using member))
          (rows.sublist (List.sublist_cons_self _ _)))
  | element name attributes children rest inside ih =>
      have here : FillsLines width ⟨name, attributes, children⟩ :=
        regular _ (by simp [elementsWithin, elementsIn])
      have within : ∀ e ∈ elementsWithin children, FillsLines width e := fun e member =>
        regular e (by simp [elementsWithin, elementsIn, member])
      have behind : ∀ e ∈ elementsWithin rest, FillsLines width e := fun e member =>
        regular e (by simp [elementsWithin, member])
      simp only [emission, readOut_append]
      refine KeepsLines.append ?_ (ih behind (rows.sublist (List.sublist_cons_self _ _)))
      simp only [emissionOf]
      cases tagged : Tag.ofName? name with
      | none => exact keepsLines_empty
      | some tag =>
          have named := (Tag.ofName?_eq_some_iff name tag).mp tagged
          cases tag with
          | verticalTab | beep | partialCut | cut | cashDrawer => exact keepsLines_empty
          | style =>
              rw [readOut_styleInstructions]
              exact keepsLines_empty
          | paragraph => exact inside within (rowsFill_none children)
          | table => exact inside within (rowsFill_table here named)
          | separator =>
              rw [readOut_printed]
              exact keepsLines_separatorLine here named
          | row =>
              cases table with
              | none => exact keepsLines_empty
              | some t =>
                  refine rows t rfl _ ?_
                  have isRow
                      : rowOf? (.element name attributes children)
                        = some ⟨name, attributes, children⟩ := by
                    simp [rowOf?, Node.element?, named, Tag.name, Option.filter]
                  rw [List.filterMap_cons, isRow]
                  exact List.mem_cons_self

/-- A compiler that adds nodes comes to another one in front of one of them or behind the last, or in
the same way among the children of a paragraph or of a table. -/
inductive Reaches : Option Table → Compiler → List Node → Compiler → Prop
  | here {table c nodes} : Reaches table c nodes c
  | next {table c first rest d} (later : Reaches table (c.node table first) rest d)
      : Reaches table c (first :: rest) d
  | paragraph {table c attributes children rest d} (inside : Reaches none c children d)
      : Reaches table c (.element "p" attributes children :: rest) d
  | table {table c attributes children rest d}
      (inside : Reaches (some (tableOf children c.job.width)) c children d)
      : Reaches table c (.element "table" attributes children :: rest) d

/-- Adding nodes keeps the lines of the job. -/
theorem overhang_nodes_dvd {table : Option Table} {c : Compiler} {nodes : List Node}
    (sized : c.job.width = width) (regular : ∀ e ∈ elementsWithin nodes, FillsLines width e)
    (rows : RowsFill width table nodes) (whole : width ∣ overhang c.job.plainText)
    : width ∣ overhang (c.nodes table nodes).job.plainText := by
  have text
      : (c.nodes table nodes).job.plainText
        = c.job.plainText ++ readOut (emission table width nodes) := by
    rw [Compiler.adds_nodes table nodes c sized]
    exact readOut_append c.job.instructions _
  rw [text]
  exact keepsLines_emission regular rows _ whole

/-- Every compiler on the way through the nodes stands where a line begins, by induction over the
way. -/
theorem Reaches.overhang_dvd {table : Option Table} {c d : Compiler} {nodes : List Node}
    (reaches : Reaches table c nodes d) (sized : c.job.width = width)
    (regular : ∀ e ∈ elementsWithin nodes, FillsLines width e) (rows : RowsFill width table nodes)
    (whole : width ∣ overhang c.job.plainText)
    : width ∣ overhang d.job.plainText := by
  induction reaches with
  | here => exact whole
  | @next table c first rest d _ ih =>
      have firstRegular : ∀ e ∈ elementsWithin [first], FillsLines width e := fun e member =>
        regular e (by simp_all [elementsWithin])
      have front : [first].Sublist (first :: rest) := (List.nil_sublist rest).cons_cons first
      have added := overhang_nodes_dvd sized firstRegular (rows.sublist front) whole
      have widthKept := congrArg Job.width (Compiler.adds_nodes table [first] c sized)
      simp only [Compiler.nodes] at added widthKept
      exact ih widthKept
        (fun e member => regular e (by simp [elementsWithin, member]))
        (rows.sublist (List.sublist_cons_self _ _)) added
  | paragraph _ ih =>
      exact ih sized
        (fun e member => regular e (by simp [elementsWithin, elementsIn, member]))
        (rowsFill_none _) whole
  | @table _ c attributes children rest d _ ih =>
      have here : FillsLines width ⟨"table", attributes, children⟩ :=
        regular _ (by simp [elementsWithin, elementsIn])
      exact ih sized
        (fun e member => regular e (by simp [elementsWithin, elementsIn, member]))
        (sized ▸ rowsFill_table here rfl) whole

/-- A document whose separators and tables can fill the lines of a job, added to a job that ends where a
line begins, as a new one does. The job ends where a line begins again, and so it does in front of every
node on the way and behind it, in paragraphs and tables too. -/
theorem compile_keeps_lines {document : Document} {root : Element} {job : Job}
    (found : document.root? = some root) (named : root.name = rootName)
    (regular : ∀ e ∈ elementsWithin root.children, FillsLines job.width e)
    (whole : job.width ∣ overhang job.plainText)
    : ∃ compiled,
        document.compile job = .ok compiled
        ∧ job.width ∣ overhang compiled.plainText
        ∧ ∀ c,
            Reaches none (Compiler.onto job) root.children c →
            job.width ∣ overhang c.job.plainText := by
  refine ⟨((Compiler.onto job).nodes none root.children).job, ?_, ?_, ?_⟩
  · simp only [Document.compile, found, if_pos named]
  · exact overhang_nodes_dvd rfl regular (rowsFill_none _) whole
  · intro c reaches
    exact reaches.overhang_dvd rfl regular (rowsFill_none _) whole

/-- Witness: a separator and a table with a short row between two paragraphs. -/
theorem compile_keeps_lines_around_table
    : let cell (s : String) : Node := .element "td" .empty [.text s]
      let table : Node :=
        .element "table" .empty
          [.element "tr" .empty [cell "ab", cell "c"], .element "tr" .empty [cell "d"]]
      let root : Element :=
        ⟨"printing", .empty,
          [.element "p" .empty [.text "a"], .element "separator" (.ofList [("char", "=")]) [], table]⟩
      let document : Document := ⟨[.element root.name root.attributes root.children]⟩
      document.root? = some root
      ∧ root.name = rootName
      ∧ (∀ e ∈ elementsWithin root.children, FillsLines 8 e)
      ∧ 8 ∣ overhang (Job.start 8).plainText
      ∧ ∃ compiled,
          document.compile (Job.start 8) = .ok compiled
          ∧ 8 ∣ overhang compiled.plainText
          ∧ ∀ c,
              Reaches none (Compiler.onto (Job.start 8)) root.children c →
              8 ∣ overhang c.job.plainText := by
  intro cell table root document
  have regular : ∀ e ∈ elementsWithin root.children, FillsLines 8 e := by
    intro e member
    simp only [root, table, cell, elementsWithin, elementsIn, List.cons_append, List.nil_append,
      List.mem_cons, List.not_mem_nil, or_false] at member
    rcases member with rfl | rfl | rfl | rfl | rfl | rfl | rfl | rfl
    case inr.inl =>
      refine ⟨?_, nofun, nofun, nofun⟩
      intro _ written found
      obtain rfl : "=" = written := Option.some.inj found
      exact List.forall_mem_singleton.mpr (by decide)
    case inr.inr.inl => exact ⟨nofun, by decide, by decide, by decide⟩
    all_goals exact ⟨nofun, nofun, nofun, nofun⟩
  have whole : 8 ∣ overhang (Job.start 8).plainText := by decide
  exact ⟨rfl, rfl, regular, whole, compile_keeps_lines rfl rfl regular whole⟩

end Markup

end ReceiptFleet
