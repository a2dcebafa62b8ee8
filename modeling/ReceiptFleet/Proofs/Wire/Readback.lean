import ReceiptFleet.Proofs.Wire.Texts

/-!
Reading a job back from its commands. No command is the beginning of another one, and a text runs up to
the next escape byte; so the bytes of a job tell its instructions, up to a few that are sent alike: a
vertical tab is a newline, thick underlining is turned off by the command that turns off all underlining,
and where one text ends and the next begins is not seen.
-/

namespace ReceiptFleet.Wire

open ReceiptFleet.Text (utf8 utf8Char utf8Lossy)

-----------------------------------------------------------------------------------------
-- Normal forms
-----------------------------------------------------------------------------------------

/-- Of the instructions that are sent alike, the one that stands for them. -/
def canonical : Instruction → Instruction
  | .verticalTab => .text "\n"
  | .underlineThick false => .underline false
  | instruction => instruction

/-- Puts an instruction before others; a text goes to the text that it comes before. -/
def joinFront : Instruction → List Instruction → List Instruction
  | .text s, .text t :: rest => .text (s ++ t) :: rest
  | instruction, rest => instruction :: rest

/-- Adjacent texts as one text. -/
def joinTexts (instructions : List Instruction) : List Instruction :=
  instructions.foldr joinFront []

/-- Instructions in their normal form: those that stand for others, without empty texts, and with
adjacent texts as one. -/
def normalForm (instructions : List Instruction) : List Instruction :=
  joinTexts ((instructions.map canonical).filter (· ≠ .text ""))

/-- No text has a character whose byte begins a command. -/
def NoCommandByte (instructions : List Instruction) : Prop :=
  ∀ s, .text s ∈ instructions → '\x1b' ∉ s.toList ∧ '\x1d' ∉ s.toList

theorem normalForm_cons (first : Instruction) (rest : List Instruction)
    : normalForm (first :: rest)
      = if canonical first = .text "" then normalForm rest
        else joinFront (canonical first) (normalForm rest) := by
  simp only [normalForm, List.map_cons, List.filter_cons]
  by_cases blank : canonical first = .text ""
  · rw [if_pos blank, blank]
    rfl
  · rw [if_neg blank, if_pos (decide_eq_true blank)]
    rfl

/-- Joining does not show in the commands. -/
theorem commands_joinFront (first : Instruction) (rest : List Instruction)
    : commands (joinFront first rest) = command first ++ commands rest := by
  unfold joinFront
  split
  · simp only [commands, List.flatMap_cons, command, String.toList_append, utf8,
      List.flatMap_append, List.append_assoc]
  · rfl

theorem command_canonical (instruction : Instruction)
    : command (canonical instruction) = command instruction := by
  cases instruction with
  | verticalTab => rfl
  | underlineThick on => cases on <;> rfl
  | _ => rfl

/-- Instructions in their normal form have the same commands, by induction over them. -/
theorem commands_normalForm (instructions : List Instruction)
    : commands (normalForm instructions) = commands instructions := by
  induction instructions with
  | nil => rfl
  | cons first rest ih =>
      have whole : commands (first :: rest) = command (canonical first) ++ commands rest := by
        rw [command_canonical]
        rfl
      rw [normalForm_cons, whole]
      by_cases blank : canonical first = .text ""
      · rw [if_pos blank, blank, ih]
        rfl
      · rw [if_neg blank, commands_joinFront, ih]

-----------------------------------------------------------------------------------------
-- A reader of commands
-----------------------------------------------------------------------------------------

/-- Whether a byte begins a command. -/
def isEscape (b : UInt8) : Bool := b = esc || b = gs

/-- The instructions whose commands begin with an escape byte, one for each of these commands. -/
def escaped : List Instruction :=
  [.init, .align .left, .align .center, .align .right, .bold true, .bold false, .underline true,
    .underline false, .underlineThick true, .upsideDown true, .upsideDown false, .invert true,
    .invert false, .size .normal, .size .doubleHeight, .size .doubleWidth, .size .quadArea,
    .font .a, .font .b, .beep, .partialCut, .cut, .cashDrawer]

/-- The instruction with whose command some bytes begin. -/
def escaped? (bytes : List UInt8) : Option Instruction :=
  escaped.find? fun instruction => (command instruction).isPrefixOf bytes

/-- Reads the instructions of a job from its bytes: commands by their escape bytes, and what stands
between them as texts. Behind an unknown command nothing is read. -/
def read : List UInt8 → List Instruction
  | [] => []
  | b :: rest =>
    if isEscape b then
      match escaped? (b :: rest) with
      | some instruction => instruction :: read (rest.drop ((command instruction).length - 1))
      | none => []
    else
      .text (String.ofList (utf8Lossy (b :: rest.takeWhile (!isEscape ·))))
        :: read (rest.dropWhile (!isEscape ·))
termination_by bytes => bytes.length
decreasing_by
  · simp only [List.length_drop, List.length_cons]
    omega
  · exact Nat.lt_succ_of_le (List.dropWhile_suffix _).length_le

/-- No command is the beginning of another one. -/
theorem escaped_prefix_free
    : ∀ one ∈ escaped, ∀ two ∈ escaped, command one <+: command two → one = two := by
  decide

/-- An instruction is found by its command, whatever comes after it. -/
theorem escaped?_command {instruction : Instruction} (known : instruction ∈ escaped)
    (more : List UInt8)
    : escaped? (command instruction ++ more) = some instruction := by
  have fits : (command instruction).isPrefixOf (command instruction ++ more) = true :=
    List.isPrefixOf_iff_prefix.mpr (List.prefix_append _ _)
  cases found : escaped? (command instruction ++ more) with
  | none => exact absurd fits (List.find?_eq_none.mp found instruction known)
  | some other =>
      have otherKnown : other ∈ escaped := List.mem_of_find?_eq_some found
      have begins : (command other).isPrefixOf (command instruction ++ more) = true :=
        List.find?_some (p := fun other => (command other).isPrefixOf _) found
      have otherFits := List.isPrefixOf_iff_prefix.mp begins
      have same : other = instruction := by
        rcases List.prefix_or_prefix_of_prefix otherFits (List.prefix_append _ _) with shorter | longer
        · exact escaped_prefix_free other otherKnown instruction known shorter
        · exact (escaped_prefix_free instruction known other otherKnown longer).symm
      rw [same]

/-- A command is read as its instruction, whatever comes after it. -/
theorem read_command {instruction : Instruction} (known : instruction ∈ escaped)
    (more : List UInt8)
    : read (command instruction ++ more) = instruction :: read more := by
  have leads : ∀ other ∈ escaped, (command other).head?.map isEscape = some true := by
    decide
  obtain ⟨b, first, escape⟩ := Option.map_eq_some_iff.mp (leads instruction known)
  obtain ⟨rest, bytes⟩ := List.head?_eq_some_iff.mp first
  have found := escaped?_command known more
  rw [bytes, List.cons_append] at found ⊢
  rw [read, if_pos escape, found]
  simp [bytes]

theorem text_not_mem_escaped (s : String) : .text s ∉ escaped := by
  simp [escaped]

/-- A text stands by itself before bytes that begin a command, known or not. -/
theorem joinFront_read_of_escape {b : UInt8} (escape : isEscape b = true) (s : String)
    (rest : List UInt8)
    : joinFront (.text s) (read (b :: rest)) = .text s :: read (b :: rest) := by
  rw [read, if_pos escape]
  split
  case h_1 instruction found =>
    have known : instruction ∈ escaped := List.mem_of_find?_eq_some found
    cases instruction with
    | text t => exact absurd known (text_not_mem_escaped t)
    | _ => rfl
  case h_2 => rfl

theorem isEscape_eq_false_of_mem_utf8 {s : List Char} (noEsc : '\x1b' ∉ s) (noGs : '\x1d' ∉ s)
    {b : UInt8} (member : b ∈ utf8 s)
    : isEscape b = false := by
  refine Bool.eq_false_iff.mpr fun escape => ?_
  have command : b = esc ∨ b = gs := by simpa [isEscape] using escape
  rcases command with rfl | rfl
  · exact noEsc (mem_of_mem_utf8 member (by decide) rfl)
  · exact noGs (mem_of_mem_utf8 member (by decide) rfl)

/-- A text is read together with the text after it. -/
theorem read_utf8 {s : List Char} (nonempty : s ≠ []) (noEsc : '\x1b' ∉ s) (noGs : '\x1d' ∉ s)
    (more : List UInt8)
    : read (utf8 s ++ more) = joinFront (.text (String.ofList s)) (read more) := by
  have plain : ∀ b ∈ utf8 s, (!isEscape b) = true := fun b member => by
    rw [isEscape_eq_false_of_mem_utf8 noEsc noGs member, Bool.not_false]
  have present : utf8 s ≠ [] := by
    obtain ⟨c, rest, rfl⟩ := List.exists_cons_of_ne_nil nonempty
    simp [utf8, utf8Char_ne_nil]
  obtain ⟨b, rest, bytes⟩ := List.exists_cons_of_ne_nil present
  have joined
      : read (utf8 s ++ more)
        = .text (String.ofList (s ++ utf8Lossy (more.takeWhile (!isEscape ·))))
          :: read (more.dropWhile (!isEscape ·)) := by
    rw [← Text.utf8Lossy_utf8_append]
    rw [bytes] at plain ⊢
    have notEscape : ¬ isEscape b = true := by
      simpa using plain b List.mem_cons_self
    have restPlain := fun next member => plain next (List.mem_cons_of_mem b member)
    rw [List.cons_append, read, if_neg notEscape, List.takeWhile_append_of_pos restPlain,
      List.dropWhile_append_of_pos restPlain, List.cons_append]
  rw [joined]
  cases more with
  | nil => simp [read, utf8Lossy, joinFront]
  | cons next tail =>
      by_cases escape : isEscape next = true
      · rw [joinFront_read_of_escape escape]
        simp [escape, utf8Lossy]
      · rw [read, if_neg escape]
        simp [escape, joinFront, String.ofList_append]

-----------------------------------------------------------------------------------------
-- Whole jobs
-----------------------------------------------------------------------------------------

/-- Every instruction is sent as a command of its own or as a text: its own one, or a newline. -/
theorem canonical_cases (instruction : Instruction)
    : canonical instruction ∈ escaped
      ∨ ∃ s, canonical instruction = .text s ∧ (instruction = .text s ∨ s = "\n") := by
  cases instruction with
  | text s => exact .inr ⟨s, rfl, .inl rfl⟩
  | verticalTab => exact .inr ⟨"\n", rfl, .inr rfl⟩
  | align align => cases align <;> exact .inl (by decide)
  | size size => cases size <;> exact .inl (by decide)
  | font font => cases font <;> exact .inl (by decide)
  | bold on => cases on <;> exact .inl (by decide)
  | underline on => cases on <;> exact .inl (by decide)
  | underlineThick on => cases on <;> exact .inl (by decide)
  | upsideDown on => cases on <;> exact .inl (by decide)
  | invert on => cases on <;> exact .inl (by decide)
  | _ => exact .inl (by decide)

theorem joinFront_of_escaped {instruction : Instruction} (known : instruction ∈ escaped)
    (rest : List Instruction)
    : joinFront instruction rest = instruction :: rest := by
  cases instruction with
  | text s => exact absurd known (text_not_mem_escaped s)
  | _ => rfl

/-- The bytes of instructions are read as the normal form of these. The induction is over the
instructions, whose first one is a command or joins the text behind it. -/
theorem read_commands {instructions : List Instruction} (plain : NoCommandByte instructions)
    : read (commands instructions) = normalForm instructions := by
  induction instructions with
  | nil => rw [commands, List.flatMap_nil, read]; rfl
  | cons first rest ih =>
      have restPlain : NoCommandByte rest := fun s member => plain s (List.mem_cons_of_mem _ member)
      have parts : commands (first :: rest) = command (canonical first) ++ commands rest := by
        rw [command_canonical]
        rfl
      rw [parts, normalForm_cons]
      rcases canonical_cases first with known | ⟨s, sent, origin⟩
      · have spoken : canonical first ≠ .text "" := fun blank =>
          text_not_mem_escaped "" (blank ▸ known)
        rw [read_command known, if_neg spoken, joinFront_of_escaped known, ih restPlain]
      · have clean : '\x1b' ∉ s.toList ∧ '\x1d' ∉ s.toList := by
          rcases origin with rfl | rfl
          · exact plain s List.mem_cons_self
          · decide
        rw [sent, command]
        by_cases blank : s = ""
        · rw [blank, if_pos rfl]
          exact ih restPlain
        · have nonempty : s.toList ≠ [] := by simpa using blank
          rw [if_neg (blank ∘ Instruction.text.inj), read_utf8 nonempty clean.1 clean.2,
            String.ofList_toList, ih restPlain]

/-- Two jobs whose texts hold no byte that begins a command have the same bytes exactly if they have
the same normal form. -/
theorem rawBytes_eq_iff (a b : Job) (aPlain : NoCommandByte a.instructions)
    (bPlain : NoCommandByte b.instructions)
    : a.rawBytes = b.rawBytes ↔ normalForm a.instructions = normalForm b.instructions := by
  constructor
  · intro same
    calc normalForm a.instructions
        = read a.rawBytes := (read_commands aPlain).symm
      _ = read b.rawBytes := congrArg read same
      _ = normalForm b.instructions := read_commands bPlain
  · intro same
    calc a.rawBytes
        = commands (normalForm a.instructions) := (commands_normalForm _).symm
      _ = commands (normalForm b.instructions) := congrArg commands same
      _ = b.rawBytes := commands_normalForm _

/-- Witness: a job with an empty text, a vertical tab and thick underlining turned off has the bytes
of the job that is its normal form. -/
theorem rawBytes_eq_of_joined
    : let a : Job :=
        ⟨42, [.init, .text "5", .text "", .text "€", .verticalTab, .underlineThick false, .cashDrawer]⟩
      let b : Job := ⟨48, [.init, .text "5€\n", .underline false, .cashDrawer]⟩
      NoCommandByte a.instructions ∧ NoCommandByte b.instructions ∧ a.rawBytes = b.rawBytes := by
  intro a b
  have aPlain : NoCommandByte a.instructions := by
    simp [NoCommandByte, a]
  have bPlain : NoCommandByte b.instructions := by
    simp [NoCommandByte, b]
  exact ⟨aPlain, bPlain, (rawBytes_eq_iff a b aPlain bPlain).mpr (by decide)⟩

end ReceiptFleet.Wire
