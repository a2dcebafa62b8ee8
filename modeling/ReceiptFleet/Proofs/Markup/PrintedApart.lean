import ReceiptFleet.Proofs.Markup.PrintedAlike

/-!
Nodes that print different ink. The ink of a job is what its texts have of characters other than white
space, text by text. It does not depend on the layout of tables, which only puts spaces around texts:
so a difference in ink is not made good by anything that stands before, behind or around it.
-/

namespace ReceiptFleet.Markup

open Text (ink)

/-- The ink of one text, unless there is none. -/
def inkOf (s : String) : List (List Char) := if ink s.toList = [] then [] else [ink s.toList]

/-- The ink that an instruction prints. -/
def Instruction.ink : Instruction → List (List Char)
  | .text s => inkOf s
  | _ => []

/-- The ink that instructions print, text by text. -/
def inksOf (instructions : List Instruction) : List (List Char) :=
  instructions.flatMap Instruction.ink

/-- The ink of the cells among some nodes. -/
def cellInks (nodes : List Node) : List (List Char) :=
  (cellsIn nodes).flatMap fun cell => inkOf cell.2

theorem inksOf_append (first second : List Instruction)
    : inksOf (first ++ second) = inksOf first ++ inksOf second :=
  List.flatMap_append

theorem inksOf_printed (s : String)
    : inksOf (printed s) = inkOf s := by
  by_cases blank : s = ""
  · rw [printed, if_pos blank, blank]
    rfl
  · rw [printed, if_neg blank]
    exact List.append_nil _

theorem inksOf_flagInstructions (e : Element) (revert : Bool)
    : inksOf (flagInstructions e revert) = [] := by
  have silent (flag : FontFlag) : inksOf (flagInstruction e revert flag) = [] := by
    rw [flagInstruction]
    cases e.attribute? flag.attribute with
    | none => rfl
    | some value => cases flag <;> rfl
  rw [flagInstructions, inksOf, List.flatMap_assoc]
  exact List.flatMap_eq_nil_iff.mpr fun flag _ => silent flag

theorem inkOf_eq_nil_iff {s : String}
    : inkOf s = [] ↔ Text.isAllBlank s.toList = true := by
  rw [inkOf, ← Text.ink_eq_nil_iff]
  split
  case isTrue none => simp [none]
  case isFalse some => simp [some]

theorem isAllBlank_spaces (n : Nat)
    : Text.isAllBlank (Table.Column.spaces n).toList = true := by
  rw [Table.Column.spaces, String.toList_ofList]
  exact List.all_eq_true.mpr fun c member => (List.eq_of_mem_replicate member) ▸ rfl

/-- The spaces around a cell have no ink. -/
theorem inksOf_cellInstructions (column : Table.Column) (td : Element)
    : inksOf (cellInstructions column td) = inkOf td.innerText := by
  have before : inkOf (column.pad td.innerText).1 = [] := inkOf_eq_nil_iff.mpr (isAllBlank_spaces _)
  have after : inkOf (column.pad td.innerText).2 = [] := inkOf_eq_nil_iff.mpr (isAllBlank_spaces _)
  simp only [cellInstructions, inksOf_append, inksOf_printed, inksOf_flagInstructions, before, after,
    List.nil_append, List.append_nil]

/-- Nor have the columns that are left, so that a row prints the ink of its cells, by induction over the
columns. -/
theorem inksOf_rowInstructions {columns : List Table.Column} {tds : List Element}
    (few : tds.length ≤ columns.length)
    : inksOf (rowInstructions columns tds) = tds.flatMap fun td => inkOf td.innerText := by
  induction columns generalizing tds with
  | nil =>
      rw [List.eq_nil_of_length_eq_zero (Nat.le_zero.mp few)]
      rfl
  | cons column columns ih =>
      cases tds with
      | nil =>
          have blank : inkOf ((column.pad "").1 ++ (column.pad "").2) = [] := by
            rw [inkOf_eq_nil_iff, String.toList_append, Text.isAllBlank_append]
            exact Bool.and_eq_true_iff.mpr ⟨isAllBlank_spaces _, isAllBlank_spaces _⟩
          rw [rowInstructions, inksOf_append, inksOf_printed, blank, ih (Nat.zero_le _)]
          rfl
      | cons td tds =>
          rw [rowInstructions, inksOf_append, inksOf_cellInstructions, List.flatMap_cons,
            ih (Nat.le_of_succ_le_succ few)]

/-- The row of a wide table prints the ink of its cells. -/
theorem inksOf_row {t : Table} {name : String} {attributes : Keyed String} {children : List Node}
    (named : name = "tr") (wide : Wide (some t) [.element name attributes children])
    : inksOf (rowInstructions t.columns (Element.elementsNamed ⟨name, attributes, children⟩ cellName))
      = cellInks children := by
  have few := wide t rfl ⟨name, attributes, children⟩ (by simp [rowOf?, Node.element?, named])
  rw [inksOf_rowInstructions few, cellInks, cellsIn, List.flatMap_map]
  rfl

/-- The layout of a table has no say in the ink of its rows. -/
theorem inksOf_emissionOf {table table' : Option Table} {node : Node} (width : Nat)
    (same : table.isSome = table'.isSome) (wide : Wide table [node]) (wide' : Wide table' [node])
    : inksOf (emissionOf table width node) = inksOf (emissionOf table' width node) := by
  cases node with
  | text content => rfl
  | element name attributes children =>
      simp only [emissionOf]
      cases tagged : Tag.ofName? name with
      | none => rfl
      | some tag =>
          cases tag with
          | row =>
              have named := (Tag.ofName?_eq_some_iff name .row).mp tagged
              cases table with
              | none =>
                  cases table' with
                  | none => rfl
                  | some t' => cases same
              | some t =>
                  cases table' with
                  | none => cases same
                  | some t' => exact (inksOf_row named wide).trans (inksOf_row named wide').symm
          | _ => rfl

theorem inksOf_emission {table table' : Option Table} {nodes : List Node} (width : Nat)
    (same : table.isSome = table'.isSome) (wide : Wide table nodes) (wide' : Wide table' nodes)
    : inksOf (emission table width nodes) = inksOf (emission table' width nodes) := by
  induction nodes with
  | nil => rfl
  | cons node rest ih =>
      obtain ⟨first, later⟩ := wide_cons_iff.mp wide
      obtain ⟨first', later'⟩ := wide_cons_iff.mp wide'
      rw [emission, emission, inksOf_append, inksOf_append, inksOf_emissionOf width same first first',
        ih later later']

-----------------------------------------------------------------------------------------
-- Different ink
-----------------------------------------------------------------------------------------

/-- Nodes of a role that print different ink: whatever tables lines stand in, if they are wide enough.
-/
def PrintedApart (width : Nat) : Role → List Node → List Node → Prop
  | .lines inTable, xs, ys =>
    ∀ table table' : Option Table,
      table.isSome = inTable
      → table'.isSome = inTable
      → Wide table xs
      → Wide table' ys
      → inksOf (emission table width xs) ≠ inksOf (emission table' width ys)
  | .row, xs, ys => cellInks xs ≠ cellInks ys
  | .cell, xs, ys => ∃ s t, shown? xs = some s ∧ shown? ys = some t ∧ inkOf s ≠ inkOf t
  | .top, _, _ | .nothing, _, _ => False

variable {width : Nat}

theorem PrintedApart.append {role : Role} {xs ys : List Node} (apart : PrintedApart width role xs ys)
    (nodes : List Node)
    : PrintedApart width role (xs ++ nodes) (ys ++ nodes) := by
  cases role with
  | top | nothing => exact apart
  | lines inTable =>
      intro table table' inside inside' wide wide' same
      obtain ⟨first, later⟩ := wide_append_iff.mp wide
      obtain ⟨first', later'⟩ := wide_append_iff.mp wide'
      rw [emission_append, emission_append, inksOf_append, inksOf_append,
        inksOf_emission width (inside.trans inside'.symm) later later'] at same
      exact apart table table' inside inside' first first' (List.append_cancel_right same)
  | row =>
      intro same
      rw [cellInks, cellsIn_append, List.flatMap_append, cellInks, cellsIn_append,
        List.flatMap_append] at same
      exact apart (List.append_cancel_right same)
  | cell =>
      obtain ⟨s, t, first, second, different⟩ := apart
      exact ⟨s, t, by rw [shown?_append, first]; rfl, by rw [shown?_append, second]; rfl, different⟩

/-- Different ink is not made good by the elements around it. -/
theorem carried_printedApart (width : Nat)
    : Xml.Carried (PrintedApart width) where
  behind node related := related.append [node]
  around {role name xs ys} before attributes among apart := by
    cases role with
    | top => exact absurd rfl among
    | nothing => exact apart
    | cell => exact apart.elim
    | row =>
        simp only [Role.inside] at apart
        split at apart
        case isTrue named =>
          obtain ⟨s, t, first, second, different⟩ := apart
          intro same
          rw [cellInks, cellsIn_append, List.flatMap_append, cellInks, cellsIn_append,
            List.flatMap_append] at same
          have cells := List.append_cancel_left same
          simp [cellsIn, elementsOf, Node.element?, named, innerText_eq, first, second] at cells
          exact different cells
        case isFalse => exact apart.elim
    | lines inTable =>
        intro table table' inside inside' wide wide' same
        obtain ⟨first, later⟩ := wide_append_iff.mp wide
        obtain ⟨first', later'⟩ := wide_append_iff.mp wide'
        rw [emission_append, emission_append, inksOf_append, inksOf_append,
          inksOf_emission width (inside.trans inside'.symm) first first'] at same
        -- The nodes in front print the same ink, so it is the element that would have to.
        have inner := List.append_cancel_left same
        simp only [emission, emissionOf, List.append_nil] at inner
        simp only [Role.inside] at apart
        cases tagged : Tag.ofName? name with
        | none =>
            rw [tagged] at apart
            exact apart
        | some tag =>
            rw [tagged] at apart inner
            cases tag with
            | paragraph => exact apart none none rfl rfl (wide_none xs) (wide_none ys) inner
            | table => exact apart _ _ rfl rfl (wide_tableOf xs width) (wide_tableOf ys width) inner
            | row =>
                have named := (Tag.ofName?_eq_some_iff name .row).mp tagged
                cases inTable with
                | false => exact apart.elim
                | true =>
                    obtain ⟨t, rfl⟩ := Option.isSome_iff_exists.mp inside
                    obtain ⟨t', rfl⟩ := Option.isSome_iff_exists.mp inside'
                    refine apart ?_
                    exact (inksOf_row named later).symm.trans (inner.trans (inksOf_row named later'))
            | _ => exact apart.elim

/-- Where a text prints, it prints other ink than two halves of it if both halves have some: among lines
there is one text more, and in a cell the second half is missing. -/
theorem printedApart_halves {role : Role} {before : List Node} {whole first second : String}
    (prints : role.Prints before) (joined : ink whole.toList = ink first.toList ++ ink second.toList)
    (one : ink first.toList ≠ []) (two : ink second.toList ≠ [])
    : PrintedApart width role (before ++ [.text whole]) (before ++ [.text first, .text second]) := by
  cases role with
  | top | row | nothing => exact prints.elim
  | lines inTable =>
      have length {s : String} (inked : ink s.toList ≠ [])
          : (inkOf (normalText s ++ "\n")).length = 1 := by
        have kept : ink (normalText s ++ "\n").toList = ink s.toList := by
          rw [String.toList_append, Text.ink_append, ink_normalText]
          exact List.append_nil _
        rw [inkOf, kept, if_neg inked]
        rfl
      have three : ink whole.toList ≠ [] := by
        rw [joined]
        exact fun none => one (List.append_eq_nil_iff.mp none).1
      intro table table' inside inside' wide wide' same
      rw [emission_append, emission_append, inksOf_append, inksOf_append,
        inksOf_emission width (inside.trans inside'.symm) (wide_append_iff.mp wide).1
          (wide_append_iff.mp wide').1] at same
      have lengths := congrArg List.length (List.append_cancel_left same)
      simp [emission, emissionOf, inksOf, Instruction.ink, length one, length two, length three]
        at lengths
  | cell =>
      have none : shown? before = none := congrArg (Option.map Text.trim) prints
      refine ⟨Text.trim whole, Text.trim first, ?_, ?_, ?_⟩
      · rw [shown?_append, none]
        rfl
      · rw [shown?_append, none]
        rfl
      · rw [inkOf, inkOf, Text.ink_trim, Text.ink_trim, joined, if_neg one, if_neg]
        · simp [two]
        · simp [one]

end ReceiptFleet.Markup
