import Mathlib.Data.List.Infix
import ReceiptFleet.Proofs.Wire.Texts

/-!
What is sent for a job, instruction by instruction. Commands are to pass as they are, and all of
them do but one: the last byte of the command that opens the cash drawer is above 7F, is read as
damaged text, and is sent as a replacement character.
-/

namespace ReceiptFleet.Wire

open ReceiptFleet.Text (utf8 replacement)

/-- What is to be sent for an instruction: a command as it is, initialization followed by
Chinese mode, and a text in GBK, with the sequence for the euro sign in its place. -/
def intended : Instruction → List UInt8
  | .init => [0x1B, 0x40, 0x1C, 0x26]
  | .text s => s.toList.flatMap fun c =>
      if c = '€' then [0x1C, 0x2E, 0x1B, 0x74, 0x13, 0xD5, 0x1C, 0x26] else Text.Gbk.encodeChar c
  | instruction => command instruction

/-- What is sent for an instruction. -/
def delivered : Instruction → List UInt8
  | .cashDrawer => [0x1B, 0x70, 0x00, 0x19] ++ Text.Gbk.encodeChar replacement
  | instruction => intended instruction

/-- No text has an escape character of its own, which could spell a command. -/
def NoEscape (instructions : List Instruction) : Prop :=
  ∀ s, .text s ∈ instructions → '\x1b' ∉ s.toList

theorem noEscape_cons {first : Instruction} {rest : List Instruction}
    (noEscape : NoEscape (first :: rest))
    : (∀ s, first = .text s → '\x1b' ∉ s.toList) ∧ NoEscape rest :=
  ⟨fun s same => noEscape s (same ▸ List.mem_cons_self),
    fun s member => noEscape s (List.mem_cons_of_mem _ member)⟩

-----------------------------------------------------------------------------------------
-- Commands that pass
-----------------------------------------------------------------------------------------

/-- Bytes that pass as they are: below 80, and without the command that initializes the printer.
-/
def Passes (bytes : List UInt8) : Prop :=
  (∀ b ∈ bytes, b < 0x80) ∧ ¬ reset <:+: bytes

instance (bytes : List UInt8) : Decidable (Passes bytes) :=
  @instDecidableAnd _ _ (List.decidableBAll (· < 0x80) bytes) (inferInstanceAs (Decidable (¬ _)))

/-- Bytes that pass are sent as they are and leave nothing pending, by induction over them. -/
theorem body_of_passes {bytes : List UInt8} (passes : Passes bytes)
    : body bytes = bytes ∧ pending [] bytes = [] := by
  induction bytes with
  | nil => exact ⟨by rw [body, sentFrom, List.reverse_nil, sentRun_nil], rfl⟩
  | cons b rest ih =>
      obtain ⟨low, absent⟩ := passes
      have lowHead := low b List.mem_cons_self
      have restPasses : Passes rest :=
        ⟨fun next member => low next (List.mem_cons_of_mem _ member),
          fun inside => absent (inside.trans (List.suffix_cons b rest).isInfix)⟩
      have other : b = 0x1B → rest.head? ≠ some 0x40 := by
        intro escape letter
        obtain ⟨tail, rfl⟩ := List.head?_eq_some_iff.mp letter
        exact absent ⟨[], tail, by rw [escape]; rfl⟩
      obtain ⟨same, nothing⟩ := ih restPasses
      refine ⟨?_, by rw [pending, if_pos lowHead, nothing]⟩
      rw [body, sentFrom_low [] rest lowHead other, ← body, same]
      simp

/-- What there is to say of an instruction on the wire: initialization, a text and the cash
drawer each have their own ways, and all others are commands that pass and do not end in an
escape byte. -/
theorem command_cases {P : Instruction → Prop} (init : P .init) (text : ∀ s, P (.text s))
    (cashDrawer : P .cashDrawer)
    (plain
      : ∀ instruction,
          Passes (command instruction)
          → (command instruction).getLast? ≠ some 0x1B
          → delivered instruction = command instruction
          → P instruction)
    (instruction : Instruction)
    : P instruction := by
  cases instruction with
  | init => exact init
  | text s => exact text s
  | cashDrawer => exact cashDrawer
  | align align => cases align <;> exact plain _ (by decide) (by decide) rfl
  | size size => cases size <;> exact plain _ (by decide) (by decide) rfl
  | font font => cases font <;> exact plain _ (by decide) (by decide) rfl
  | verticalTab => exact plain _ (by decide) (by decide) rfl
  | beep => exact plain _ (by decide) (by decide) rfl
  | partialCut => exact plain _ (by decide) (by decide) rfl
  | cut => exact plain _ (by decide) (by decide) rfl
  | bold on => cases on <;> exact plain _ (by decide) (by decide) rfl
  | underline on => cases on <;> exact plain _ (by decide) (by decide) rfl
  | underlineThick on => cases on <;> exact plain _ (by decide) (by decide) rfl
  | upsideDown on => cases on <;> exact plain _ (by decide) (by decide) rfl
  | invert on => cases on <;> exact plain _ (by decide) (by decide) rfl

-----------------------------------------------------------------------------------------
-- One instruction
-----------------------------------------------------------------------------------------

theorem sentChar_replacement : sentChar replacement = Text.Gbk.encodeChar replacement := by
  rw [sentChar, if_neg (by decide)]

/-- The command of the cash drawer is cut before its last byte, which is read as damaged text. -/
theorem body_cashDrawer : body (command .cashDrawer) = delivered .cashDrawer := by
  have passes : Passes [0x1B, 0x70, 0x00, 0x19] := by decide
  obtain ⟨same, nothing⟩ := body_of_passes passes
  have parts : command .cashDrawer = [0x1B, 0x70, 0x00, 0x19] ++ [0xFA] := rfl
  have high : ∀ b ∈ [(0xFA : UInt8)], ¬ b < 0x80 := List.forall_mem_singleton.mpr (by decide)
  have beyond : 0xF5 ≤ (0xFA : UInt8).toNat := by decide
  have stray : body [0xFA] = sentChar replacement := by
    rw [body, sentFrom_of_high [] high, List.reverse_nil, List.nil_append, sentRun,
      Text.utf8Lossy_stray 0xFA [] beyond, Text.utf8Lossy]
    exact List.append_nil _
  have cut
      : body ([0x1B, 0x70, 0x00, 0x19] ++ [0xFA])
        = body [0x1B, 0x70, 0x00, 0x19] ++ body [0xFA] :=
    body_append (by simp [ResetWhole]) (by rw [nothing]; exact closed_nil)
  rw [parts, cut, same, stray, sentChar_replacement, delivered]

/-- What is sent for each instruction by itself. -/
theorem body_command {instruction : Instruction}
    (noEscape : ∀ s, instruction = .text s → '\x1b' ∉ s.toList)
    : body (command instruction) = delivered instruction := by
  cases instruction using command_cases with
  | init =>
      rw [body, command, esc, sentFrom_reset, sentFrom, List.reverse_nil, sentRun_nil]
      rfl
  | text s =>
      rw [command, body_utf8, sentText_of_noEscape (noEscape s rfl)]
      rfl
  | cashDrawer => exact body_cashDrawer
  | plain instruction passes _ same => rw [same, (body_of_passes passes).1]

/-- An instruction leaves a closed run: whole characters, the last byte of the cash drawer's
command, or nothing. -/
theorem closed_pending_command (instruction : Instruction)
    : Closed (pending [] (command instruction)).reverse := by
  cases instruction using command_cases with
  | init => exact closed_nil
  | text s => exact closed_pending_utf8 s.toList closed_nil
  | cashDrawer => exact closed_stray (by decide)
  | plain instruction passes _ _ =>
      rw [(body_of_passes passes).2]
      exact closed_nil

/-- No instruction ends in an escape byte that the next one could take up. -/
theorem getLast?_command {instruction : Instruction}
    (noEscape : ∀ s, instruction = .text s → '\x1b' ∉ s.toList)
    : (command instruction).getLast? ≠ some 0x1B := by
  cases instruction using command_cases with
  | init => decide
  | text s =>
      intro last
      exact noEscape s rfl (mem_of_mem_utf8 (List.mem_of_getLast? last) (by decide) rfl)
  | cashDrawer => decide
  | plain instruction _ last _ => exact last

-----------------------------------------------------------------------------------------
-- Whole jobs
-----------------------------------------------------------------------------------------

/-- The body of a job is made of its instructions, each by itself. The induction is over the
instructions, and every step cuts off the first of them. -/
theorem body_commands {instructions : List Instruction} (noEscape : NoEscape instructions)
    : body (commands instructions) = instructions.flatMap delivered := by
  induction instructions with
  | nil => rw [commands, List.flatMap_nil, body, sentFrom, List.reverse_nil, sentRun_nil]; rfl
  | cons first rest ih =>
      obtain ⟨firstNoEscape, restNoEscape⟩ := noEscape_cons noEscape
      have whole : ResetWhole (command first) (commands rest) :=
        fun split => getLast?_command firstNoEscape split.1
      rw [commands, List.flatMap_cons, ← commands,
        body_append whole (closed_pending_command first), body_command firstNoEscape,
        ih restNoEscape, List.flatMap_cons]

/-- The replacement character takes more bytes than the one that it stands for. -/
theorem length_encodeChar_replacement : 1 < (Text.Gbk.encodeChar replacement).length := by
  rw [Text.Gbk.encodeChar, if_neg (by decide), if_neg (by decide)]
  cases Text.Gbk.code? replacement with
  | some code => simp
  | none => simp [Text.Gbk.reference]

/-- What is sent for an instruction is never shorter than what is to be sent, and longer only
for the cash drawer. -/
theorem length_delivered (instruction : Instruction)
    : (intended instruction).length ≤ (delivered instruction).length
      ∧ (instruction = .cashDrawer
          → (intended instruction).length < (delivered instruction).length) := by
  cases instruction with
  | cashDrawer =>
      -- the replacement's bytes get a name, so that no step evaluates the table behind them
      obtain ⟨bytes, named⟩ : ∃ bytes, Text.Gbk.encodeChar replacement = bytes := ⟨_, rfl⟩
      have sent : delivered .cashDrawer = [0x1B, 0x70, 0x00, 0x19] ++ bytes := by
        rw [delivered, named]
      have long : 1 < bytes.length := named ▸ length_encodeChar_replacement
      rw [sent]
      simp only [intended, command, List.length_append, List.length_cons, List.length_nil]
      omega
  | _ => exact ⟨Nat.le_refl _, nofun⟩

/-- The difference of one instruction is not made up for by the others, by induction over them. -/
theorem length_flatMap_delivered (instructions : List Instruction)
    : (instructions.flatMap intended).length ≤ (instructions.flatMap delivered).length
      ∧ (.cashDrawer ∈ instructions
          → (instructions.flatMap intended).length < (instructions.flatMap delivered).length) := by
  induction instructions with
  | nil => exact ⟨Nat.le_refl _, nofun⟩
  | cons first rest ih =>
      have firstLength := length_delivered first
      simp only [List.flatMap_cons, List.length_append, List.mem_cons]
      refine ⟨by omega, ?_⟩
      intro present
      rcases present with here | later
      · have longer := firstLength.2 here.symm
        omega
      · have longer := ih.2 later
        omega

/-- Instructions are delivered as intended exactly when none of them opens the cash drawer: with
one of them the delivered bytes are more. -/
theorem flatMap_delivered_eq_iff (instructions : List Instruction)
    : instructions.flatMap delivered = instructions.flatMap intended
      ↔ .cashDrawer ∉ instructions := by
  constructor
  · intro same present
    have longer := (length_flatMap_delivered instructions).2 present
    rw [same] at longer
    exact Nat.lt_irrefl _ longer
  · intro absent
    have each : ∀ instruction ∈ instructions, delivered instruction = intended instruction := by
      intro instruction member
      cases instruction with
      | cashDrawer => exact absurd member absent
      | _ => rfl
    rw [List.flatMap_def, List.flatMap_def, List.map_congr_left each]

/-- A job is sent between the bytes that turn Chinese mode on and off, instruction by
instruction. -/
theorem wireBytes_eq_delivered (job : Job) (noEscape : NoEscape job.instructions)
    : job.wireBytes
      = [0x1C, 0x26, 0x1C, 0x43, 0x01] ++ job.instructions.flatMap delivered ++ [0x1C, 0x2E] := by
  rw [Job.wireBytes, chinese, Job.rawBytes, body_commands noEscape]
  rfl

/-- Every instruction arrives as intended, but for the last byte of the command that opens the
cash drawer; so a whole job does if and only if it does not open the cash drawer. -/
theorem wireBytes_eq_intended_iff (job : Job) (noEscape : NoEscape job.instructions)
    : job.wireBytes
        = [0x1C, 0x26, 0x1C, 0x43, 0x01] ++ job.instructions.flatMap delivered ++ [0x1C, 0x2E]
      ∧ (job.wireBytes
            = [0x1C, 0x26, 0x1C, 0x43, 0x01] ++ job.instructions.flatMap intended ++ [0x1C, 0x2E]
          ↔ .cashDrawer ∉ job.instructions) := by
  refine ⟨wireBytes_eq_delivered job noEscape, ?_⟩
  rw [wireBytes_eq_delivered job noEscape, List.append_left_inj, List.append_right_inj]
  exact flatMap_delivered_eq_iff job.instructions

/-- The condition is met by a job whose last text follows the cash drawer's command directly. -/
theorem wireBytes_text_after_cashDrawer
    : let job : Job := ⟨42, [.init, .text "5€ 中", .bold true, .text "文", .cashDrawer, .text "é"]⟩
      NoEscape job.instructions
      ∧ job.wireBytes
        = [0x1C, 0x26, 0x1C, 0x43, 0x01] ++ job.instructions.flatMap delivered ++ [0x1C, 0x2E]
      ∧ (job.wireBytes
            = [0x1C, 0x26, 0x1C, 0x43, 0x01] ++ job.instructions.flatMap intended ++ [0x1C, 0x2E]
          ↔ .cashDrawer ∉ job.instructions) := by
  intro job
  have noEscape : NoEscape job.instructions := by
    simp [NoEscape, job]
  exact ⟨noEscape, wireBytes_eq_intended_iff job noEscape⟩

/-- The shortest job that opens the cash drawer does not arrive as intended. -/
theorem wireBytes_cashDrawer_ne
    : (Job.mk 42 [.init, .cashDrawer]).wireBytes
      ≠ [0x1C, 0x26, 0x1C, 0x43, 0x01] ++ [Instruction.init, .cashDrawer].flatMap intended
        ++ [0x1C, 0x2E] := by
  have noEscape : NoEscape [.init, .cashDrawer] := by simp [NoEscape]
  rw [wireBytes_eq_delivered _ noEscape, ne_eq, List.append_left_inj, List.append_right_inj]
  intro same
  exact (flatMap_delivered_eq_iff _).mp same (by decide)

end ReceiptFleet.Wire
