import ReceiptFleet.Proofs.Markup.Emission

/-!
The formatting in effect while markup is compiled. The compiler keeps it beside the job, and every step
that changes the one changes the other; so it is always what a printer has come to that carries out the
instructions.
-/

namespace ReceiptFleet.Markup

-----------------------------------------------------------------------------------------
-- Steps that keep formatting and job together
-----------------------------------------------------------------------------------------

/-- A step of the compiler only adds instructions to the job, and the formatting after it is the one
before it with these instructions carried out. -/
def Tracks (step : Compiler → Compiler) : Prop :=
  ∀ c : Compiler,
    ∃ added,
      (step c).job.instructions = c.job.instructions ++ added
      ∧ (step c).formatting = c.formatting.replay added

theorem tracks_nothing : Tracks fun c => c :=
  fun _ => ⟨[], (List.append_nil _).symm, rfl⟩

/-- A step that adds one instruction has to carry it out. -/
theorem tracks_of_after {step : Compiler → Compiler} (instruction : Instruction)
    (adds : ∀ c, (step c).job = c.job.push instruction)
    (formats : ∀ c, (step c).formatting = c.formatting.after instruction)
    : Tracks step := by
  intro c
  refine ⟨[instruction], ?_, formats c⟩
  rw [adds c]
  rfl

/-- Two steps add the instructions of the first one and then those of the second one, and replaying
them is done part by part. -/
theorem Tracks.next {first second : Compiler → Compiler} (one : Tracks first)
    (two : Tracks second)
    : Tracks fun c => second (first c) := by
  intro c
  obtain ⟨added, job, formatting⟩ := one c
  obtain ⟨more, job', formatting'⟩ := two (first c)
  refine ⟨added ++ more, ?_, ?_⟩
  · rw [job', job, List.append_assoc]
  · rw [formatting', formatting, Formatting.replay_append]

/-- Steps for the items of a list, by induction over the list. -/
theorem tracks_foldl {α : Type} {step : Compiler → α → Compiler}
    (tracks : ∀ item, Tracks fun c => step c item) (items : List α)
    : Tracks fun c => items.foldl step c := by
  induction items with
  | nil => exact tracks_nothing
  | cons item rest ih => exact (tracks item).next ih

-----------------------------------------------------------------------------------------
-- The steps of the compiler
-----------------------------------------------------------------------------------------

namespace Compiler

/-- An instruction that formats nothing can be added alone. -/
theorem tracks_push {instruction : Instruction}
    (plain : ∀ f : Formatting, f.after instruction = f)
    : Tracks fun c => c.push instruction :=
  tracks_of_after instruction (fun _ => rfl) fun c => (plain c.formatting).symm

theorem tracks_print (s : String)
    : Tracks fun c => c.print s := by
  by_cases blank : s = ""
  · simp only [print, Job.print, if_pos blank]
    exact tracks_nothing
  · simp only [print, Job.print, if_neg blank]
    exact tracks_push fun _ => rfl

theorem tracks_text (content : String)
    : Tracks fun c => c.text content :=
  tracks_print (normalText content ++ "\n")

theorem tracks_setAlign (align : Option Align)
    : Tracks fun c => c.setAlign align := by
  cases align with
  | none => exact tracks_nothing
  | some align => exact tracks_of_after (.align align) (fun _ => rfl) fun _ => rfl

theorem tracks_setSize (size : Option Size)
    : Tracks fun c => c.setSize size := by
  cases size with
  | none => exact tracks_nothing
  | some size => exact tracks_of_after (.size size) (fun _ => rfl) fun _ => rfl

theorem tracks_setFont (font : Option Font)
    : Tracks fun c => c.setFont font := by
  cases font with
  | none => exact tracks_nothing
  | some font => exact tracks_of_after (.font font) (fun _ => rfl) fun _ => rfl

/-- The instruction of a switch sets that switch, so both sides of the step agree for all five. -/
theorem tracks_setFlag (e : Element) (revert : Bool) (flag : FontFlag)
    : Tracks fun c => c.setFlag e revert flag := by
  simp only [setFlag]
  cases e.attribute? flag.attribute with
  | none => exact tracks_nothing
  | some value =>
      exact tracks_of_after (flag.instruction ((value != "false") != revert)) (fun _ => rfl)
        fun c => (c.formatting.after_instruction flag _).symm

theorem tracks_setFlags (e : Element) (revert : Bool)
    : Tracks fun c => c.setFlags e revert :=
  tracks_foldl (tracks_setFlag e revert) FontFlag.all

theorem tracks_style (e : Element)
    : Tracks fun c => c.style e :=
  (((tracks_setAlign _).next (tracks_setFlags e false)).next (tracks_setSize _)).next
    (tracks_setFont _)

theorem tracks_cell (column : Table.Column) (td : Element)
    : Tracks fun c => c.cell column td :=
  ((((tracks_print _).next (tracks_setFlags td false)).next (tracks_print _)).next
    (tracks_setFlags td true)).next (tracks_print _)

/-- The cells of a row, by induction over the columns of its table. -/
theorem tracks_cells (columns : List Table.Column) (tds : List Element)
    : Tracks fun c => c.cells columns tds := by
  induction columns generalizing tds with
  | nil => exact tracks_nothing
  | cons column columns ih =>
      cases tds with
      | nil => exact (tracks_print _).next (ih [])
      | cons td tds => exact (tracks_cell column td).next (ih tds)

theorem tracks_row (table : Option Table) (e : Element)
    : Tracks fun c => c.row table e := by
  cases table with
  | none => exact tracks_nothing
  | some t => exact tracks_cells t.columns _

/-- The line of a separator depends on the job, through its width alone. -/
theorem tracks_separator (e : Element)
    : Tracks fun c => c.separator e :=
  fun c => tracks_print (separatorLine (e.attribute? "char") c.job.width) c

/-- Nodes, by induction over the forest. -/
theorem tracks_nodes (table : Option Table) (nodes : List Node)
    : Tracks fun c => c.nodes table nodes := by
  induction nodes using Node.forest_induction generalizing table with
  | nil => exact tracks_nothing
  | text content rest ih =>
      simp only [Compiler.nodes, node]
      exact (tracks_text content).next (ih table)
  | element name attributes children rest inside ih =>
      simp only [Compiler.nodes]
      refine Tracks.next ?_ (ih table)
      simp only [node]
      cases Tag.ofName? name with
      | none => exact tracks_nothing
      | some tag =>
          cases tag with
          | verticalTab | beep | partialCut | cut | cashDrawer => exact tracks_push fun _ => rfl
          | style => exact tracks_style _
          | paragraph => exact inside none
          | table => exact fun c => inside _ c
          | row => exact tracks_row table _
          | separator => exact tracks_separator _

-----------------------------------------------------------------------------------------
-- The formatting after a document
-----------------------------------------------------------------------------------------

/-- Whatever job and formatting a compiler has come to: nodes only add instructions, and the formatting
after them is the one before with these instructions carried out one by one. So the formatting after
the nodes of a new job is that of the whole job, from the default on. -/
theorem formatting_nodes (table : Option Table) (nodes : List Node)
    : (∀ c : Compiler,
        ∃ added,
          (c.nodes table nodes).job.instructions = c.job.instructions ++ added
          ∧ (c.nodes table nodes).formatting = c.formatting.replay added)
      ∧ ∀ width,
          let done := (onto (Job.start width)).nodes table nodes
          done.formatting = ({} : Formatting).replay done.job.instructions := by
  refine ⟨tracks_nodes table nodes, ?_⟩
  intro width done
  obtain ⟨added, instructions, formatting⟩ := tracks_nodes table nodes (onto (Job.start width))
  -- The instruction that a new job begins with formats nothing.
  rw [instructions, formatting, Formatting.replay_append]
  rfl

end Compiler

end ReceiptFleet.Markup
