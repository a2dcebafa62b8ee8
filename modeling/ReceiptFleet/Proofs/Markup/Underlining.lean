import ReceiptFleet.Proofs.Markup.FormattingReplay
import ReceiptFleet.Proofs.Markup.ParsedText
import ReceiptFleet.Proofs.Wire.Commands

/-!
Underlining on paper. The formatting has two switches for it, one of a thin line and one of a thick
line, but the printer has one register, and whatever turns one of the switches on or off overwrites it.
So the printer underlines as the last of these instructions says. That is as the formatting says, unless
the other switch was left on.
-/

namespace ReceiptFleet

-----------------------------------------------------------------------------------------
-- The register of the printer
-----------------------------------------------------------------------------------------

namespace Wire

/-- The underline register of a printer after some bytes: the command to initialize clears it, and the
command to underline puts its parameter there. -/
def underlineAfter (register : UInt8) : List UInt8 → UInt8
  | [] => register
  | 0x1B :: 0x40 :: rest => underlineAfter 0 rest
  | 0x1B :: 0x2D :: n :: rest => underlineAfter n rest
  | _ :: rest => underlineAfter register rest

/-- What an instruction leaves in the register. -/
def underlineSet (register : UInt8) : Instruction → UInt8
  | .init => 0
  | .underline on => if on then 1 else 0
  | .underlineThick on => if on then 2 else 0
  | _ => register

theorem underlineAfter_skip {b : UInt8} (plain : b ≠ 0x1B) (register : UInt8) (rest : List UInt8)
    : underlineAfter register (b :: rest) = underlineAfter register rest := by
  rw [underlineAfter]
  · exact fun _ escape => absurd escape plain
  · exact fun _ _ escape => absurd escape plain

/-- Bytes without an escape byte pass the register by, by induction over them. -/
theorem underlineAfter_append {bytes : List UInt8} (plain : 0x1B ∉ bytes) (register : UInt8)
    (rest : List UInt8)
    : underlineAfter register (bytes ++ rest) = underlineAfter register rest := by
  induction bytes with
  | nil => rfl
  | cons b bytes ih =>
      obtain ⟨first, later⟩ := List.ne_and_not_mem_of_not_mem_cons plain
      rw [List.cons_append, underlineAfter_skip first.symm, ih later]

/-- A command leaves in the register what its instruction says, whatever comes after it. -/
theorem underlineAfter_command {instruction : Instruction}
    (noEscape : ∀ s, instruction = .text s → '\x1b' ∉ s.toList) (register : UInt8) (rest : List UInt8)
    : underlineAfter register (command instruction ++ rest)
      = underlineAfter (underlineSet register instruction) rest := by
  cases instruction with
  | text s =>
      have plain : 0x1B ∉ Text.utf8 s.toList :=
        fun member => noEscape s rfl (mem_of_mem_utf8 member (by decide) rfl)
      exact underlineAfter_append plain register rest
  | align align => cases align <;> rfl
  | size size => cases size <;> rfl
  | font font => cases font <;> rfl
  | bold on | upsideDown on | invert on => cases on <;> rfl
  | _ => rfl

/-- The bytes of a job leave in the register what its instructions say, one after the other. -/
theorem underlineAfter_commands {instructions : List Instruction} (noEscape : NoEscape instructions)
    (register : UInt8)
    : underlineAfter register (commands instructions) = instructions.foldl underlineSet register := by
  induction instructions generalizing register with
  | nil => rfl
  | cons first rest ih =>
      obtain ⟨firstNoEscape, restNoEscape⟩ := noEscape_cons noEscape
      rw [commands, List.flatMap_cons, ← commands, underlineAfter_command firstNoEscape,
        ih restNoEscape, List.foldl_cons]

end Wire

-----------------------------------------------------------------------------------------
-- The last toggle
-----------------------------------------------------------------------------------------

/-- An instruction that turns thin or thick underlining on or off. -/
structure UnderlineToggle where
  thick : Bool
  on : Bool
deriving DecidableEq, Repr

namespace UnderlineToggle

/-- The toggle that an instruction is, if it is one. -/
def of? : Instruction → Option UnderlineToggle
  | .underline on => some ⟨false, on⟩
  | .underlineThick on => some ⟨true, on⟩
  | _ => none

/-- The last toggle of some instructions. -/
def last? (instructions : List Instruction) : Option UnderlineToggle :=
  (instructions.filterMap of?).getLast?

/-- How a printer underlines that goes by one toggle alone: not at all, thin or thick. -/
def register : Option UnderlineToggle → UInt8
  | some ⟨false, true⟩ => 1
  | some ⟨true, true⟩ => 2
  | _ => 0

theorem last?_cons (first : Instruction) (rest : List Instruction)
    : last? (first :: rest) = (last? rest).or (of? first) := by
  rw [last?, List.filterMap_cons]
  cases of? first with
  | none => exact Option.or_none.symm
  | some toggle =>
      rw [List.getLast?_cons, last?]
      cases (rest.filterMap of?).getLast? <;> rfl

end UnderlineToggle

/-- How the formatting says to underline: thick if that switch is on, else thin if the other one is. -/
def Formatting.underlining (f : Formatting) : UInt8 :=
  if f.underlineThick then 2 else if f.underline then 1 else 0

/-- The register and the formatting are what instructions come to whose last toggle is this one: the
register holds what the toggle puts there, and its switch is as the toggle sets it. Without a toggle both
switches are off. -/
structure ComesTo (last : Option UnderlineToggle) (register : UInt8) (f : Formatting) : Prop where
  held : register = UnderlineToggle.register last
  thin : ∀ on, last = some ⟨false, on⟩ → f.underline = on
  thick : ∀ on, last = some ⟨true, on⟩ → f.underlineThick = on
  untouched : last = none → f.underline = false ∧ f.underlineThick = false

/-- An instruction that does not initialize the printer replaces the last toggle if it is one, and
else touches neither the register nor the switches. -/
theorem ComesTo.after {last : Option UnderlineToggle} {register : UInt8} {f : Formatting}
    (before : ComesTo last register f) {instruction : Instruction} (active : instruction ≠ .init)
    : ComesTo ((UnderlineToggle.of? instruction).or last) (Wire.underlineSet register instruction)
        (f.after instruction) := by
  cases instruction with
  | init => exact absurd rfl active
  | underline on =>
      refine ⟨?_, ?_, nofun, nofun⟩
      · cases on <;> rfl
      · rintro _ ⟨⟩
        rfl
  | underlineThick on =>
      refine ⟨?_, nofun, ?_, nofun⟩
      · cases on <;> rfl
      · rintro _ ⟨⟩
        rfl
  | _ => exact ⟨before.held, before.thin, before.thick, before.untouched⟩

/-- Instructions one after the other, by induction over them. -/
theorem ComesTo.replay {last : Option UnderlineToggle} {register : UInt8} {f : Formatting}
    (before : ComesTo last register f) {instructions : List Instruction}
    (active : .init ∉ instructions)
    : ComesTo ((UnderlineToggle.last? instructions).or last)
        (instructions.foldl Wire.underlineSet register) (f.replay instructions) := by
  induction instructions generalizing last register f with
  | nil => exact before
  | cons first rest ih =>
      obtain ⟨here, later⟩ := List.ne_and_not_mem_of_not_mem_cons active
      rw [UnderlineToggle.last?_cons, Option.or_assoc, List.foldl_cons]
      exact ih (before.after here.symm) later

/-- The bytes of a new job leave the register as its last toggle says, whatever was in it before: the
instruction that the job begins with clears it. -/
theorem comesTo_job {added : List Instruction} (active : .init ∉ added)
    (noEscape : Wire.NoEscape added) (before : UInt8)
    : ComesTo (UnderlineToggle.last? (.init :: added))
        (Wire.underlineAfter before (Wire.commands (.init :: added)))
        (({} : Formatting).replay added) := by
  have clear : ComesTo none 0 {} := ⟨rfl, nofun, nofun, fun _ => ⟨rfl, rfl⟩⟩
  have wholeNoEscape : Wire.NoEscape (.init :: added) :=
    fun s member => noEscape s ((List.mem_cons.mp member).resolve_left nofun)
  rw [UnderlineToggle.last?_cons, Wire.underlineAfter_commands wholeNoEscape]
  exact clear.replay active

/-- The register is as the formatting says exactly if the switch that the last toggle did not touch
does not speak against it: thick underlining always wins in the formatting, and thin underlining
shows there as soon as thick underlining is off. -/
theorem ComesTo.register_eq_iff {last : Option UnderlineToggle} {register : UInt8} {f : Formatting}
    (reached : ComesTo last register f)
    : register = f.underlining
      ↔ (∀ on, last = some ⟨false, on⟩ → f.underlineThick = false)
        ∧ (last = some ⟨true, false⟩ → f.underline = false) := by
  obtain ⟨held, thin, thick, untouched⟩ := reached
  rw [held, Formatting.underlining]
  rcases last with _ | ⟨_ | _, on⟩
  · obtain ⟨thinOff, thickOff⟩ := untouched rfl
    simp [UnderlineToggle.register, thinOff, thickOff]
  · obtain rfl := thin on rfl
    cases f.underline <;> cases f.underlineThick <;> simp [UnderlineToggle.register]
  · obtain rfl := thick on rfl
    cases f.underline <;> cases f.underlineThick <;> simp [UnderlineToggle.register]

-----------------------------------------------------------------------------------------
-- Whole documents
-----------------------------------------------------------------------------------------

namespace Markup

/-- No text of a parsed document holds an escape character, since XML does not allow it. -/
theorem noEscape_emission {xml : String} {document : Document}
    (parsed : Document.parse xml = .ok document) {root : Element}
    (found : document.root? = some root) (table : Option Table) (width : Nat)
    : Wire.NoEscape (emission table width root.children) := by
  intro s member escape
  have rootWritten : writtenIn root.children ⊆ writtenIn document.nodes := by
    obtain ⟨node, among, isRoot⟩ := List.exists_of_findSome?_eq_some found
    exact writtenIn_children_subset (List.mem_filterMap.mpr ⟨node, among, isRoot⟩)
  rcases emission_written table width root.children _ (mem_readOut member escape)
    with layout | ⟨written, among, inside⟩
  · exact absurd layout (by decide)
  · exact absurd (Xml.allowed_of_parse parsed written (rootWritten among) _ inside) (by decide)

/-- Markup that turns thin underlining on and thick underlining off. -/
def mixedMarkup : String :=
  "<printing><style underline=\"true\" underlineThick=\"false\"/>a</printing>"

/-- The root of that markup. -/
def mixedRoot : Element :=
  ⟨"printing", .empty,
    [.element "style" (.ofList [("underline", "true"), ("underlineThick", "false")]) [], .text "a"]⟩

theorem parse_mixedMarkup
    : Document.parse mixedMarkup
      = .ok ⟨[.element mixedRoot.name mixedRoot.attributes mixedRoot.children]⟩ := by
  have tokens
      : Xml.tokens? mixedMarkup.toList
        = some [.openTag ⟨"", "printing"⟩ [],
            .emptyTag ⟨"", "style"⟩
              [(⟨"", "underline"⟩, "true"), (⟨"", "underlineThick"⟩, "false")],
            .text ['a'], .closeTag ⟨"", "printing"⟩] := by
    decide +kernel
  rw [Document.parse, tokens, Option.bind_some]
  decide

/-- A parsed document that compiles leaves in the underline register of the printer what its last toggle
says. That is what the formatting at its end says exactly if that toggle was not one of thin underlining
while thick underlining is on, and did not turn thick underlining off while thin underlining is on. -/
theorem compile_underlines_by_last_toggle {xml : String} {document : Document} {root : Element}
    (parsed : Document.parse xml = .ok document) (found : document.root? = some root)
    (named : root.name = rootName) (width : Nat)
    : let done := (Compiler.onto (Job.start width)).nodes none root.children
      let last := UnderlineToggle.last? done.job.instructions
      compile xml (Job.start width) = .ok done.job
      ∧ ∀ before,
          let register := Wire.underlineAfter before done.job.rawBytes
          register = UnderlineToggle.register last
          ∧ (register = done.formatting.underlining
              ↔ (∀ on, last = some ⟨false, on⟩ → done.formatting.underlineThick = false)
                ∧ (last = some ⟨true, false⟩ → done.formatting.underline = false)) := by
  intro done last
  have job : done.job = ⟨width, .init :: emission none width root.children⟩ :=
    Compiler.adds_nodes none root.children (Compiler.onto (Job.start width)) rfl
  have formatting
      : done.formatting = ({} : Formatting).replay (emission none width root.children) := by
    obtain ⟨added, instructions, formatting⟩ :=
      Compiler.tracks_nodes none root.children (Compiler.onto (Job.start width))
    have same : emission none width root.children = added :=
      (List.cons.inj ((congrArg Job.instructions job).symm.trans instructions)).2
    rw [same]
    exact formatting
  refine ⟨?_, fun before => ?_⟩
  · rw [compile, parsed]
    simp only [bind, Except.bind, Document.compile, found, if_pos named, done]
  · have reached
        : ComesTo last (Wire.underlineAfter before done.job.rawBytes) done.formatting := by
      simp only [last, Job.rawBytes, job, formatting]
      exact comesTo_job (active_emission none root.children).1
        (noEscape_emission parsed found none width) before
    exact ⟨reached.held, reached.register_eq_iff⟩

/-- Witness: markup that turns thin underlining on and then thick underlining off. -/
theorem compile_mixedMarkup
    : let document : Document :=
        ⟨[.element mixedRoot.name mixedRoot.attributes mixedRoot.children]⟩
      let done := (Compiler.onto (Job.start 42)).nodes none mixedRoot.children
      let last := UnderlineToggle.last? done.job.instructions
      Document.parse mixedMarkup = .ok document
      ∧ document.root? = some mixedRoot
      ∧ mixedRoot.name = rootName
      ∧ compile mixedMarkup (Job.start 42) = .ok done.job
      ∧ ∀ before,
          let register := Wire.underlineAfter before done.job.rawBytes
          register = UnderlineToggle.register last
          ∧ (register = done.formatting.underlining
              ↔ (∀ on, last = some ⟨false, on⟩ → done.formatting.underlineThick = false)
                ∧ (last = some ⟨true, false⟩ → done.formatting.underline = false)) :=
  ⟨parse_mixedMarkup, rfl, rfl, compile_underlines_by_last_toggle parse_mixedMarkup rfl rfl 42⟩

/-- At the end of that markup thin underlining is on in the formatting, and the printer does not
underline. -/
theorem mixedMarkup_not_underlined
    : let document : Document :=
        ⟨[.element mixedRoot.name mixedRoot.attributes mixedRoot.children]⟩
      let done := (Compiler.onto (Job.start 42)).nodes none mixedRoot.children
      Document.parse mixedMarkup = .ok document
      ∧ document.root? = some mixedRoot
      ∧ document.compile (Job.start 42) = .ok done.job
      ∧ Wire.underlineAfter 0 done.job.rawBytes = 0
      ∧ done.formatting.underlining = 1 :=
  ⟨parse_mixedMarkup, rfl, rfl, by decide, by decide⟩

end Markup

end ReceiptFleet
