import ReceiptFleet.Proofs.Markup.FormattingReplay

/-!
What a row of a table leaves of the formatting. Every cell sets the switches that its attributes name
before its text, and sets each of them to the opposite after it. The opposite of what was asked for
need not be what was there before: a row leaves the formatting as it was exactly if no switch was on that a
cell turns on, and none was off that a cell turns off, in the last cell that names it.
-/

namespace ReceiptFleet

-----------------------------------------------------------------------------------------
-- Switches one by one
-----------------------------------------------------------------------------------------

namespace Formatting

/-- Whether a switch is on. -/
def flag (f : Formatting) : FontFlag → Bool
  | .bold => f.bold
  | .underline => f.underline
  | .underlineThick => f.underlineThick
  | .upsideDown => f.upsideDown
  | .invert => f.invert

/-- Size, alignment and typeface, which are no switches. -/
def modes (f : Formatting) : Size × Align × Font := (f.size, f.align, f.font)

theorem flag_setFlag (f : Formatting) (flag other : FontFlag) (on : Bool)
    : (f.setFlag flag on).flag other = if other = flag then on else f.flag other := by
  cases flag <;> cases other <;> rfl

@[simp] theorem modes_setFlag (f : Formatting) (flag : FontFlag) (on : Bool)
    : (f.setFlag flag on).modes = f.modes := by
  cases flag <;> rfl

/-- The switches and the modes are all there is to a formatting. -/
theorem eq_iff (f g : Formatting)
    : f = g ↔ (∀ flag, f.flag flag = g.flag flag) ∧ f.modes = g.modes := by
  constructor
  · rintro rfl
    exact ⟨fun _ => rfl, rfl⟩
  · rintro ⟨flags, modes⟩
    have bold := flags .bold
    have underline := flags .underline
    have underlineThick := flags .underlineThick
    have upsideDown := flags .upsideDown
    have invert := flags .invert
    cases f
    cases g
    simp_all only [flag, Formatting.modes, Prod.mk.injEq]

end Formatting

namespace Markup

/-- What the attribute of a switch sets it to, or reverts it to. -/
def Element.set? (e : Element) (revert : Bool) (flag : FontFlag) : Option Bool :=
  (e.attribute? flag.attribute).map fun value => (value != "false") != revert

namespace Compiler

-----------------------------------------------------------------------------------------
-- Switches after the steps of a row
-----------------------------------------------------------------------------------------

theorem modes_setFlag (c : Compiler) (e : Element) (revert : Bool) (flag : FontFlag)
    : (c.setFlag e revert flag).formatting.modes = c.formatting.modes := by
  rw [setFlag]
  split
  · exact Formatting.modes_setFlag _ _ _
  · rfl

theorem flag_setFlag (c : Compiler) (e : Element) (revert : Bool) (flag other : FontFlag)
    : (c.setFlag e revert flag).formatting.flag other
      = if other = flag then (e.set? revert flag).getD (c.formatting.flag flag)
        else c.formatting.flag other := by
  rw [setFlag, Element.set?]
  cases e.attribute? flag.attribute with
  | some value => exact Formatting.flag_setFlag _ _ _ _
  | none =>
      by_cases same : other = flag
      · rw [if_pos same, same]
        rfl
      · rw [if_neg same]

/-- Each switch is set at most once, from its own attribute, by induction over the switches. -/
theorem flag_foldl_setFlag (c : Compiler) (e : Element) (revert : Bool) {flags : List FontFlag}
    (apart : flags.Nodup) (flag : FontFlag)
    : (flags.foldl (fun c flag => c.setFlag e revert flag) c).formatting.flag flag
      = if flag ∈ flags then (e.set? revert flag).getD (c.formatting.flag flag)
        else c.formatting.flag flag := by
  induction flags generalizing c with
  | nil => rfl
  | cons first rest ih =>
      obtain ⟨absent, apart⟩ := List.nodup_cons.mp apart
      rw [List.foldl_cons, ih _ apart, flag_setFlag]
      by_cases same : flag = first
      · subst same
        rw [if_neg absent, if_pos rfl, if_pos List.mem_cons_self]
      · simp only [List.mem_cons, same, false_or, if_false]

theorem flag_setFlags (c : Compiler) (e : Element) (revert : Bool) (flag : FontFlag)
    : (c.setFlags e revert).formatting.flag flag
      = (e.set? revert flag).getD (c.formatting.flag flag) := by
  have all : flag ∈ FontFlag.all := by cases flag <;> decide
  have apart : FontFlag.all.Nodup := by decide
  rw [setFlags, flag_foldl_setFlag c e revert apart, if_pos all]

theorem modes_setFlags (c : Compiler) (e : Element) (revert : Bool)
    : (c.setFlags e revert).formatting.modes = c.formatting.modes := by
  rw [setFlags]
  induction FontFlag.all generalizing c with
  | nil => rfl
  | cons flag rest ih => exact (ih _).trans (modes_setFlag c e revert flag)

theorem modes_cell (c : Compiler) (column : Table.Column) (td : Element)
    : (c.cell column td).formatting.modes = c.formatting.modes :=
  (modes_setFlags _ td true).trans (modes_setFlags _ td false)

/-- A cell that names a switch leaves it at the opposite of what it asked for: on if it asked for off
with `false`, and off otherwise. -/
theorem flag_cell (c : Compiler) (column : Table.Column) (td : Element) (flag : FontFlag)
    : (c.cell column td).formatting.flag flag
      = ((td.attribute? flag.attribute).map (· == "false")).getD (c.formatting.flag flag) := by
  have reverted
      : (c.cell column td).formatting.flag flag
        = (td.set? true flag).getD
            (((c.print (column.pad td.innerText).1).setFlags td false).formatting.flag flag) :=
    flag_setFlags _ td true flag
  rw [reverted, flag_setFlags, Element.set?, Element.set?]
  cases td.attribute? flag.attribute with
  | none => rfl
  | some value => simp [bne]

end Compiler

/-- What the last cell that names a switch asks of it, among the cells that have a column. -/
def lastAsked (columns : List Table.Column) (tds : List Element) (flag : FontFlag)
    : Option String :=
  ((tds.take columns.length).filterMap (·.attribute? flag.attribute)).getLast?

namespace Compiler

/-- The cells of a row leave a switch as the last one that names it does. The induction is over the
columns. -/
theorem flag_cells (c : Compiler) (columns : List Table.Column) (tds : List Element)
    (flag : FontFlag)
    : (c.cells columns tds).formatting.flag flag
      = ((lastAsked columns tds flag).map (· == "false")).getD (c.formatting.flag flag) := by
  induction columns generalizing c tds with
  | nil => rfl
  | cons column columns ih =>
      cases tds with
      | nil =>
          rw [cells, ih]
          simp only [lastAsked, List.take_nil, List.filterMap_nil, List.getLast?_nil]
          rfl
      | cons td tds =>
          rw [cells, ih, flag_cell]
          simp only [lastAsked, List.length_cons, List.take_succ_cons, List.filterMap_cons]
          cases td.attribute? flag.attribute with
          | none => rfl
          | some value =>
              simp only [List.getLast?_cons]
              cases ((tds.take columns.length).filterMap (·.attribute? flag.attribute)).getLast? <;>
                rfl

theorem modes_cells (c : Compiler) (columns : List Table.Column) (tds : List Element)
    : (c.cells columns tds).formatting.modes = c.formatting.modes := by
  induction columns generalizing c tds with
  | nil => rfl
  | cons column columns ih =>
      cases tds with
      | nil => exact ih (c.gap column) []
      | cons td tds => exact (ih (c.cell column td) tds).trans (modes_cell c column td)

-----------------------------------------------------------------------------------------
-- The formatting after a row
-----------------------------------------------------------------------------------------

/-- A row of a table, in whatever formatting it begins. The formatting after it is what its
instructions make of the one before. Size, alignment and typeface are as before, and so is every switch
that no printed cell names; the others are left at the opposite of what the last such cell asked for.
So all is as before exactly if that opposite is what every such switch was at before the row. -/
theorem formatting_row (c : Compiler) (t : Table) (e : Element)
    : let after := c.row (some t) e
      let asked := lastAsked t.columns (e.elementsNamed cellName)
      (∃ added,
          after.job.instructions = c.job.instructions ++ added
          ∧ after.formatting = c.formatting.replay added)
      ∧ after.formatting.modes = c.formatting.modes
      ∧ (∀ flag,
          after.formatting.flag flag
          = match asked flag with
            | some value => value == "false"
            | none => c.formatting.flag flag)
      ∧ (after.formatting = c.formatting
          ↔ ∀ flag value, asked flag = some value → c.formatting.flag flag = (value == "false"))
    := by
  intro after asked
  have modes : after.formatting.modes = c.formatting.modes := modes_cells c t.columns _
  have flags (flag : FontFlag)
      : after.formatting.flag flag
        = match asked flag with
          | some value => value == "false"
          | none => c.formatting.flag flag := by
    have left
        : after.formatting.flag flag
          = ((asked flag).map (· == "false")).getD (c.formatting.flag flag) :=
      flag_cells c t.columns _ flag
    rw [left]
    cases asked flag <;> rfl
  refine ⟨tracks_row (some t) e c, modes, flags, ?_⟩
  rw [Formatting.eq_iff]
  constructor
  · rintro ⟨same, _⟩ flag value named
    rw [← same flag, flags flag, named]
  · intro reverts
    refine ⟨fun flag => ?_, modes⟩
    rw [flags flag]
    cases named : asked flag with
    | none => rfl
    | some value => exact (reverts flag value named).symm

/-- A cell that turns underlining off, where it was off, leaves it on. -/
theorem row_leaves_underline_on
    : let td : Node := .element "td" (.ofList [("underline", "false")]) [.text "a"]
      let row : Node := .element "tr" .empty [td]
      let c := onto (Job.start 42)
      let after := c.row (some (tableOf [row] 42)) ⟨"tr", .empty, [td]⟩
      after.formatting.underline = true ∧ c.formatting.underline = false := by
  intro td row c after
  have underlined : after.formatting.flag .underline = _ :=
    flag_cells c (tableOf [row] 42).columns _ .underline
  refine ⟨underlined.trans ?_, rfl⟩
  decide

end Compiler

end Markup

end ReceiptFleet
