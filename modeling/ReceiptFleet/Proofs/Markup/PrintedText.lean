import ReceiptFleet.Proofs.Markup.TableRows
import ReceiptFleet.Proofs.Text.Pieces

/-!
The characters that markup prints. All of them are written in the markup, in a text or as the value of an
attribute, but for line ends, the spaces around cells and the hyphens of separators.
-/

namespace ReceiptFleet.Markup

-----------------------------------------------------------------------------------------
-- Instructions with and without text
-----------------------------------------------------------------------------------------

@[simp] theorem readOut_text (s : String)
    : readOut [.text s] = s := by
  rw [readOut, List.map_singleton, String.join_cons, String.join_nil, String.append_empty]
  rfl

/-- What a text instruction says is read out. -/
theorem mem_readOut {instructions : List Instruction} {s : String} {c : Char}
    (member : .text s ∈ instructions) (inside : c ∈ s.toList)
    : c ∈ (readOut instructions).toList := by
  obtain ⟨before, after, rfl⟩ := List.append_of_mem member
  rw [← List.singleton_append, readOut_append, readOut_append, readOut_text, String.toList_append,
    String.toList_append]
  exact List.mem_append_right _ (List.mem_append_left _ inside)

theorem readOut_mode {α : Type} {set : α → Instruction} (silent : ∀ mode, Job.textOf (set mode) = "")
    (mode : Option α)
    : readOut (mode.map set).toList = "" := by
  cases mode with
  | none => rfl
  | some mode =>
      rw [Option.map_some, Option.toList_some, readOut, List.map_singleton, silent]
      rfl

theorem readOut_styleInstructions (e : Element)
    : readOut (styleInstructions e) = "" := by
  rw [styleInstructions, readOut_append, readOut_append, readOut_append, readOut_mode fun _ => rfl,
    readOut_mode fun _ => rfl, readOut_mode fun _ => rfl, readOut_flagInstructions]
  rfl

-----------------------------------------------------------------------------------------
-- Texts and separators
-----------------------------------------------------------------------------------------

theorem mem_normalText {content : String} {c : Char} (member : c ∈ (normalText content).toList)
    : c = '\n' ∨ c ∈ content.toList := by
  rw [normalText, String.toList_ofList] at member
  rcases Text.mem_joinPieces member with lineEnd | ⟨piece, among, inside⟩
  · exact .inl lineEnd
  · obtain ⟨line, present, rfl⟩ := List.mem_map.mp among
    have kept := Text.mem_of_mem_pieces present (Text.mem_of_mem_stripChars inside)
    exact .inr (Text.mem_of_mem_stripChars kept)

/-- What a separator repeats: its pattern, or a hyphen if it has none. -/
def patternText : Option String → String
  | some pattern => if pattern = "" then "-" else pattern
  | none => "-"

theorem separatorLine_eq (pattern : Option String) (width : Nat)
    : separatorLine pattern width
      = String.ofList (fill (patternText pattern).toList width [] width) :=
  rfl

theorem patternText_ne_nil (pattern : Option String)
    : (patternText pattern).toList ≠ [] := by
  cases pattern with
  | none => decide
  | some pattern =>
      rw [patternText]
      split
      · decide
      · simpa using ‹¬ pattern = ""›

theorem mem_patternText {pattern : Option String} {c : Char}
    (member : c ∈ (patternText pattern).toList)
    : c = '-' ∨ ∃ written, pattern = some written ∧ c ∈ written.toList := by
  cases pattern with
  | none => exact .inl (by simpa [patternText] using member)
  | some pattern =>
      rw [patternText] at member
      split at member
      · exact .inl (by simpa using member)
      · exact .inr ⟨pattern, rfl, member⟩

/-- The part of the pattern that a line goes on with. -/
def upNext (pattern rest : List Char) : List Char := if rest.isEmpty then pattern else rest

theorem mem_upNext {pattern rest : List Char} {c : Char} (member : c ∈ upNext pattern rest)
    : c ∈ pattern ∨ c ∈ rest := by
  rw [upNext] at member
  split at member
  · exact .inl member
  · exact .inr member

theorem upNext_ne_nil {pattern : List Char} (nonempty : pattern ≠ []) (rest : List Char)
    : upNext pattern rest ≠ [] := by
  rw [upNext]
  split
  · exact nonempty
  · simpa using ‹¬ rest.isEmpty = true›

theorem fill_succ {pattern rest : List Char} {c : Char} {later : List Char}
    (next : upNext pattern rest = c :: later) (room count : Nat)
    : fill pattern room rest (count + 1)
      = if Text.Gbk.charWidth c = 0 ∨ room < Text.Gbk.charWidth c then []
        else c :: fill pattern (room - Text.Gbk.charWidth c) later count := by
  rw [upNext] at next
  rw [fill, next]

theorem fill_succ_of_nil {pattern rest : List Char} (next : upNext pattern rest = [])
    (room count : Nat)
    : fill pattern room rest (count + 1) = [] := by
  rw [upNext] at next
  rw [fill, next]

/-- A line is filled with characters of its pattern, by induction over how many more it may have. -/
theorem mem_of_mem_fill {pattern rest : List Char} {room count : Nat} {c : Char}
    (member : c ∈ fill pattern room rest count)
    : c ∈ pattern ∨ c ∈ rest := by
  induction count generalizing room rest with
  | zero => exact absurd member List.not_mem_nil
  | succ count ih =>
      cases next : upNext pattern rest with
      | nil =>
          rw [fill_succ_of_nil next] at member
          exact absurd member List.not_mem_nil
      | cons first later =>
          rw [fill_succ next] at member
          split at member
          · exact absurd member List.not_mem_nil
          · rcases List.mem_cons.mp member with rfl | further
            · exact mem_upNext (next ▸ List.mem_cons_self)
            · rcases ih further with again | inside
              · exact .inl again
              · exact mem_upNext (next ▸ List.mem_cons_of_mem _ inside)

theorem mem_separatorLine {pattern : Option String} {width : Nat} {c : Char}
    (member : c ∈ (separatorLine pattern width).toList)
    : c = '-' ∨ ∃ written, pattern = some written ∧ c ∈ written.toList := by
  rw [separatorLine_eq, String.toList_ofList] at member
  exact (mem_of_mem_fill member).elim mem_patternText fun inside => absurd inside List.not_mem_nil

-----------------------------------------------------------------------------------------
-- Rows
-----------------------------------------------------------------------------------------

theorem eq_space_of_mem_spaces {n : Nat} {c : Char} (member : c ∈ (Table.Column.spaces n).toList)
    : c = ' ' := by
  rw [Table.Column.spaces, String.toList_ofList] at member
  exact List.eq_of_mem_replicate member

theorem mem_render {column : Table.Column} {cell : String} {c : Char}
    (member : c ∈ (column.render cell).toList)
    : c = ' ' ∨ c ∈ cell.toList := by
  simp only [Table.Column.render, Table.Column.pad, String.toList_append, List.mem_append] at member
  rcases member with (before | inside) | after
  · exact .inl (eq_space_of_mem_spaces before)
  · exact .inr inside
  · exact .inl (eq_space_of_mem_spaces after)

/-- A row prints spaces and the texts of its cells, by induction over the columns. -/
theorem mem_rowInstructions {columns : List Table.Column} {tds : List Element} {c : Char}
    (member : c ∈ (readOut (rowInstructions columns tds)).toList)
    : c = ' ' ∨ ∃ td ∈ tds, c ∈ td.innerText.toList := by
  induction columns generalizing tds with
  | nil => exact absurd member List.not_mem_nil
  | cons column columns ih =>
      cases tds with
      | nil =>
          have empty : readOut (printed ((column.pad "").1 ++ (column.pad "").2)) = column.render "" := by
            rw [readOut_printed, Table.Column.render, String.append_empty]
          rw [rowInstructions, readOut_append, empty, String.toList_append, List.mem_append] at member
          rcases member with here | later
          · exact .inl ((mem_render here).resolve_right List.not_mem_nil)
          · exact ih later
      | cons td tds =>
          rw [rowInstructions, readOut_append, readOut_cellInstructions, String.toList_append,
            List.mem_append] at member
          rcases member with here | later
          · exact (mem_render here).imp_right fun inside => ⟨td, List.mem_cons_self, inside⟩
          · rcases ih later with space | ⟨other, among, inside⟩
            · exact .inl space
            · exact .inr ⟨other, List.mem_cons_of_mem _ among, inside⟩

-----------------------------------------------------------------------------------------
-- Whole trees
-----------------------------------------------------------------------------------------

mutual
/-- What is written in a node: its text, or the values of its attributes and what is inside of it. -/
def writtenOf : Node → List String
  | .text content => [content]
  | .element _ attributes children => attributes.entries.map Prod.snd ++ writtenIn children

/-- What is written in nodes, in texts and attributes at any depth. -/
def writtenIn : List Node → List String
  | [] => []
  | first :: rest => writtenOf first ++ writtenIn rest
end

theorem writtenIn_append (first second : List Node)
    : writtenIn (first ++ second) = writtenIn first ++ writtenIn second := by
  induction first with
  | nil => rfl
  | cons node rest ih => rw [List.cons_append, writtenIn, writtenIn, ih, List.append_assoc]

/-- The characters of a text that was printed are of the layout, or they were written. -/
def WrittenFrom (written : List String) (printed : String) : Prop :=
  ∀ c ∈ printed.toList, c ∈ ['\n', ' ', '-'] ∨ ∃ s ∈ written, c ∈ s.toList

theorem writtenFrom_empty (written : List String) : WrittenFrom written "" :=
  fun _ member => absurd member List.not_mem_nil

theorem WrittenFrom.append {written : List String} {s t : String} (one : WrittenFrom written s)
    (two : WrittenFrom written t)
    : WrittenFrom written (s ++ t) := by
  intro c member
  rw [String.toList_append] at member
  exact (List.mem_append.mp member).elim (one c) (two c)

theorem WrittenFrom.mono {written more : List String} {s : String} (fromWritten : WrittenFrom written s)
    (subset : written ⊆ more)
    : WrittenFrom more s :=
  fun c member => (fromWritten c member).imp_right fun ⟨t, among, inside⟩ => ⟨t, subset among, inside⟩

theorem attribute_written {e : Element} {name value : String} (found : e.attribute? name = some value)
    : value ∈ e.attributes.entries.map Prod.snd :=
  List.mem_map_of_mem (f := Prod.snd) (Keyed.mem_of_lookup found)

theorem writtenIn_children_subset {nodes : List Node} {e : Element} (among : e ∈ elementsOf nodes)
    : writtenIn e.children ⊆ writtenIn nodes := by
  induction nodes with
  | nil => exact absurd among List.not_mem_nil
  | cons node rest ih =>
      rw [writtenIn]
      cases node with
      | text content => exact fun s member => List.mem_append_right _ (ih among member)
      | element name attributes children =>
          rcases List.mem_cons.mp among with rfl | later
          · exact fun s member => List.mem_append_left _ (List.mem_append_right _ member)
          · exact fun s member => List.mem_append_right _ (ih later member)

theorem text_written {nodes : List Node} {content : String}
    (found : nodes.findSome? Node.text? = some content)
    : content ∈ writtenIn nodes := by
  induction nodes with
  | nil => cases found
  | cons node rest ih =>
      rw [writtenIn]
      cases node with
      | text other =>
          obtain rfl : other = content := Option.some.inj found
          exact List.mem_cons_self
      | element name attributes children => exact List.mem_append_right _ (ih found)

theorem innerText_written (e : Element)
    : WrittenFrom (writtenIn e.children) e.innerText := by
  rw [Element.innerText]
  cases found : e.children.findSome? Node.text? with
  | none => exact writtenFrom_empty _
  | some content =>
      intro c member
      exact .inr ⟨content, text_written found, Text.mem_of_mem_trim member⟩

theorem elementsNamed_subset (e : Element) (name : String)
    : e.elementsNamed name ⊆ elementsOf e.children :=
  List.filter_sublist.subset

/-- Markup prints what is written in it, by induction over the forest. -/
theorem emission_written (table : Option Table) (width : Nat) (nodes : List Node)
    : WrittenFrom (writtenIn nodes) (readOut (emission table width nodes)) := by
  induction nodes using Node.forest_induction generalizing table with
  | nil => exact writtenFrom_empty _
  | text content rest ih =>
      simp only [emission, emissionOf, writtenIn, writtenOf, readOut_append, readOut_text]
      refine WrittenFrom.append ?_ ((ih table).mono (List.subset_append_right _ _))
      intro c member
      rw [String.toList_append] at member
      rcases List.mem_append.mp member with inside | lineEnd
      · rcases mem_normalText inside with rfl | written
        · exact .inl (by decide)
        · exact .inr ⟨content, List.mem_cons_self, written⟩
      · rw [List.eq_of_mem_singleton lineEnd]
        exact .inl (by decide)
  | element name attributes children rest inside ih =>
      suffices here
          : WrittenFrom (attributes.entries.map Prod.snd ++ writtenIn children)
              (readOut (emissionOf table width (.element name attributes children))) by
        simp only [emission, writtenIn, writtenOf, readOut_append]
        exact (here.mono (List.subset_append_left _ _)).append
          ((ih table).mono (List.subset_append_right _ _))
      simp only [emissionOf]
      cases Tag.ofName? name with
      | none => exact writtenFrom_empty _
      | some tag =>
          cases tag with
          | verticalTab | beep | partialCut | cut | cashDrawer => exact writtenFrom_empty _
          | style =>
              rw [readOut_styleInstructions]
              exact writtenFrom_empty _
          | paragraph => exact (inside none).mono (List.subset_append_right _ _)
          | table => exact (inside _).mono (List.subset_append_right _ _)
          | separator =>
              rw [readOut_printed]
              intro c member
              rcases mem_separatorLine member with rfl | ⟨value, found, written⟩
              · exact .inl (by decide)
              · exact .inr ⟨value, List.mem_append_left _ (attribute_written found), written⟩
          | row =>
              cases table with
              | none => exact writtenFrom_empty _
              | some t =>
                  intro c member
                  rcases mem_rowInstructions member with rfl | ⟨td, among, written⟩
                  · exact .inl (by decide)
                  · have present : td ∈ elementsOf children := elementsNamed_subset _ _ among
                    have kept
                        : writtenIn td.children
                          ⊆ attributes.entries.map Prod.snd ++ writtenIn children :=
                      List.subset_append_of_subset_right _ (writtenIn_children_subset present)
                    exact (innerText_written td).mono kept c written

end ReceiptFleet.Markup
