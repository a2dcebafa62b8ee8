import ReceiptFleet.Proofs.Text.GbkBytes
import ReceiptFleet.Proofs.Wire.Cuts

/-!
Where the printer is initialized. The command is two bytes, and what is sent puts other bytes next to each
other than the job does: codes, references, the bytes around a euro sign and those of Chinese mode. None of
them completes the command, so it is sent where the job has it and nowhere else.
-/

namespace ReceiptFleet.Wire

open ReceiptFleet.Text (utf8Lossy)

-----------------------------------------------------------------------------------------
-- Bytes without the command
-----------------------------------------------------------------------------------------

/-- Bytes in which the command does not begin, whatever comes behind them. -/
def NoReset (bytes : List UInt8) : Prop :=
  ∀ more before after,
    bytes ++ more = before ++ (reset ++ after)
    → ∃ between, before = bytes ++ between ∧ more = between ++ (reset ++ after)

theorem noReset_nil : NoReset [] :=
  fun _ before _ parts => ⟨before, rfl, parts⟩

theorem NoReset.append {first second : List UInt8} (one : NoReset first) (two : NoReset second)
    : NoReset (first ++ second) := by
  intro more before after parts
  rw [List.append_assoc] at parts
  obtain ⟨behindFirst, rfl, later⟩ := one _ _ _ parts
  obtain ⟨between, rfl, last⟩ := two _ _ _ later
  exact ⟨between, (List.append_assoc _ _ _).symm, last⟩

/-- The command does not begin with a byte that is not its first one, or that its second one does not
follow. -/
theorem split_cons {b : UInt8} {more before after : List UInt8}
    (apart : b = 0x1B → more.head? ≠ some 0x40) (parts : b :: more = before ++ (reset ++ after))
    : ∃ between, before = b :: between ∧ more = between ++ (reset ++ after) := by
  cases before with
  | nil =>
      obtain ⟨rfl, rfl⟩ := List.cons.inj parts
      exact absurd rfl (apart rfl)
  | cons first between =>
      obtain ⟨rfl, rfl⟩ := List.cons.inj parts
      exact ⟨between, rfl, rfl⟩

theorem noReset_singleton {b : UInt8} (other : b ≠ 0x1B)
    : NoReset [b] :=
  fun _ _ _ => split_cons fun same => absurd same other

/-- Bytes that are not the first one of the command do not have it, by induction over them. -/
theorem noReset_of_notMem {bytes : List UInt8} (other : 0x1B ∉ bytes)
    : NoReset bytes := by
  induction bytes with
  | nil => exact noReset_nil
  | cons b rest ih =>
      obtain ⟨first, later⟩ := List.ne_and_not_mem_of_not_mem_cons other
      exact (noReset_singleton first.symm).append (ih later)

-----------------------------------------------------------------------------------------
-- Characters and runs
-----------------------------------------------------------------------------------------

/-- The euro sign selects a character table, with a command that only begins alike. -/
theorem noReset_euroBytes : NoReset euroBytes := by
  have select : NoReset [0x1B, 0x74] := by
    intro more before after parts
    obtain ⟨behindFirst, rfl, later⟩ := split_cons (by simp) parts
    obtain ⟨between, rfl, last⟩ := split_cons (by simp) later
    exact ⟨between, rfl, last⟩
  have leave : NoReset [0x1C, 0x2E] := noReset_of_notMem (by decide)
  have sign : NoReset [19, 0xD5, 0x1C, 0x26] := noReset_of_notMem (by decide)
  exact (leave.append select).append sign

theorem noReset_sentChar {c : Char} (high : 0x80 ≤ c.toNat)
    : NoReset (sentChar c) := by
  rw [sentChar]
  split
  · exact noReset_euroBytes
  · apply noReset_of_notMem
    intro member
    exact absurd (Text.Gbk.le_of_mem_encodeChar high member) (by decide)

/-- Bytes are from 80 up, as those of a run. -/
def High (bytes : List UInt8) : Prop := ∀ b ∈ bytes, 0x80 ≤ b.toNat

theorem high_nil : High [] := List.forall_mem_nil _

theorem High.cons {b : UInt8} {run : List UInt8} (high : High run) (notLow : ¬ b < 0x80)
    : High (b :: run) :=
  List.forall_mem_cons.mpr ⟨Nat.le_of_not_lt notLow, high⟩

theorem High.reverse {run : List UInt8} (high : High run)
    : High run.reverse :=
  fun b member => high b (List.mem_reverse.mp member)

/-- Bytes from 80 up are sent without the command, by induction over their characters. -/
theorem noReset_sentRun {run : List UInt8} (high : High run)
    : NoReset (sentRun run) := by
  have characters := Text.utf8Lossy_high high
  rw [sentRun]
  generalize utf8Lossy run = text at characters
  induction text with
  | nil => exact noReset_nil
  | cons c rest ih =>
      rw [List.forall_mem_cons] at characters
      exact (noReset_sentChar characters.1).append (ih characters.2)

/-- A run does not begin with the second byte of the command. -/
theorem head?_sentRun {run : List UInt8} (high : High run)
    : (sentRun run).head? ≠ some 0x40 := by
  have characters := Text.utf8Lossy_high high
  rw [sentRun]
  generalize utf8Lossy run = text at characters
  cases text with
  | nil => simp
  | cons c rest =>
      obtain ⟨b, bytes, encoded, first⟩ := Text.Gbk.head_encodeChar (characters c List.mem_cons_self)
      rw [List.flatMap_cons, sentChar]
      split
      · simp [euroBytes, chineseOff]
      · rw [encoded]
        rintro ⟨⟩
        rcases first with first | first <;> simp at first

/-- Only a run without bytes is sent as nothing. -/
theorem eq_nil_of_sentRun_eq_nil {run : List UInt8} (empty : sentRun run = [])
    : run = [] := by
  cases run with
  | nil => rfl
  | cons b rest =>
      rw [sentRun, utf8Lossy, List.flatMap_cons, List.append_eq_nil_iff, sentChar] at empty
      split at empty
      · cases empty.1
      · exact absurd empty.1 (Text.Gbk.encodeChar_ne_nil _)

-----------------------------------------------------------------------------------------
-- Whole jobs
-----------------------------------------------------------------------------------------

/-- What is sent begins with the second byte of the command only where the bytes do, and no run comes before
them. -/
theorem head?_sentFrom {run bytes : List UInt8} (high : High run)
    (first : (sentFrom run bytes).head? = some 0x40)
    : run = [] ∧ bytes.head? = some 0x40 := by
  fun_induction sentFrom run bytes with
  | case1 run => exact absurd first (head?_sentRun high.reverse)
  | case2 run rest _ =>
      rw [List.append_assoc, List.append_assoc, List.head?_append, Option.or_eq_some_iff] at first
      rcases first with first | ⟨_, first⟩
      · exact absurd first (head?_sentRun high.reverse)
      · cases first
  | case3 run b rest _ _ _ =>
      rw [List.head?_append, Option.or_eq_some_iff] at first
      rcases first with first | ⟨empty, first⟩
      · exact absurd first (head?_sentRun high.reverse)
      · have none := eq_nil_of_sentRun_eq_nil (List.head?_eq_none_iff.mp empty)
        exact ⟨List.reverse_eq_nil_iff.mp none, first⟩
  | case4 run b rest _ notLow ih =>
      cases (ih (high.cons notLow) first).1

/-- Where the command is sent, it is in the bytes, and what comes before it and behind it is sent for the
bytes before it and behind it. The cases are those of the bytes as they are sent. -/
theorem sentFrom_split {run bytes before after : List UInt8} (high : High run)
    (sent : sentFrom run bytes = before ++ (reset ++ after))
    : ∃ first second,
        bytes = first ++ (reset ++ second)
        ∧ before = sentFrom run first
        ∧ after = chineseOn ++ body second := by
  fun_induction sentFrom run bytes generalizing before with
  | case1 run =>
      rw [← List.append_nil (sentRun _)] at sent
      obtain ⟨between, -, parts⟩ := noReset_sentRun high.reverse _ _ _ sent
      simp [reset] at parts
  | case2 run rest ih =>
      rw [List.append_assoc, List.append_assoc] at sent
      obtain ⟨between, rfl, here⟩ := noReset_sentRun high.reverse _ _ _ sent
      cases between with
      | nil =>
          rw [List.nil_append, List.append_cancel_left_eq] at here
          refine ⟨[], rest, rfl, ?_, here.symm⟩
          rw [sentFrom, List.append_nil]
      | cons b between =>
          have single : NoReset ([0x40] ++ chineseOn) := noReset_of_notMem (by decide)
          obtain ⟨rfl, next⟩ := List.cons.inj here
          obtain ⟨behind, rfl, later⟩ := single _ _ _ next
          obtain ⟨first, second, rfl, rfl, rfl⟩ := ih high_nil later
          refine ⟨0x1B :: 0x40 :: first, second, rfl, ?_, rfl⟩
          rw [sentFrom_reset]
          simp [reset]
  | case3 run b rest other low ih =>
      obtain ⟨between, rfl, here⟩ := noReset_sentRun high.reverse _ _ _ sent
      have apart : b = 0x1B → (sentFrom [] rest).head? ≠ some 0x40 := by
        intro escape next
        have starts : rest.head? = some 0x40 := (head?_sentFrom high_nil next).2
        obtain ⟨tail, rfl⟩ := List.head?_eq_some_iff.mp starts
        exact other tail escape rfl
      obtain ⟨behind, rfl, later⟩ := split_cons apart here
      obtain ⟨first, second, rfl, rfl, rfl⟩ := ih high_nil later
      refine ⟨b :: first, second, rfl, ?_, rfl⟩
      rw [sentFrom_low _ _ low]
      intro escape next
      obtain ⟨tail, rfl⟩ := List.head?_eq_some_iff.mp next
      exact other _ escape rfl
  | case4 run b rest _ notLow ih =>
      obtain ⟨first, second, rfl, rfl, rfl⟩ := ih (high.cons notLow) sent
      refine ⟨b :: first, second, rfl, ?_, rfl⟩
      rw [sentFrom_high _ _ notLow]

/-- The command is sent with Chinese mode behind it, and cuts what is sent. -/
theorem body_reset (first second : List UInt8)
    : body (first ++ (reset ++ second)) = body first ++ (reset ++ (chineseOn ++ body second)) := by
  have behind (run : List UInt8)
      : sentFrom run (reset ++ second)
        = sentRun run.reverse ++ (reset ++ (chineseOn ++ body second)) := by
    rw [reset, List.cons_append, List.cons_append, sentFrom_reset, ← body]
    simp [reset]
  have alone : body (reset ++ second) = reset ++ (chineseOn ++ body second) := by
    rw [body, behind, List.reverse_nil, sentRun_nil, List.nil_append]
  have whole : ResetWhole first (reset ++ second) := by
    rintro ⟨_, ⟨⟩⟩
  rw [body, sentFrom_append whole, alone, ← body]
  rw [behind, alone]

/-- The epilogue neither has the command nor completes one that the bytes before it have begun. -/
theorem split_of_append_epilogue {bytes before after : List UInt8}
    (parts : bytes ++ epilogue = before ++ (reset ++ after))
    : ∃ rest, bytes = before ++ (reset ++ rest) ∧ after = rest ++ epilogue := by
  rcases List.append_eq_append_iff.mp parts with ⟨behind, -, command⟩ | ⟨rest, within, command⟩
  · have member : 0x1B ∈ epilogue := command ▸ by simp [reset]
    exact absurd member (by decide)
  · rcases rest with _ | ⟨b, _ | ⟨c, rest⟩⟩ <;> simp [reset, epilogue, chineseOff] at command
    obtain ⟨rfl, rfl, behind⟩ := command
    exact ⟨rest, within, behind⟩

/-- A printer is initialized by the bytes of a job where the job says so and nowhere else: what comes before is
what the job has before, and what comes behind begins with Chinese mode. -/
theorem chinese_split_iff {bytes before after : List UInt8}
    : chinese bytes = before ++ (reset ++ after)
      ↔ ∃ first second,
          bytes = first ++ (reset ++ second)
          ∧ before = prologue ++ body first
          ∧ after = chineseOn ++ body second ++ epilogue := by
  constructor
  · intro sent
    have start : NoReset prologue := noReset_of_notMem (by decide)
    rw [chinese, List.append_assoc] at sent
    obtain ⟨between, rfl, parts⟩ := start _ _ _ sent
    obtain ⟨rest, within, behind⟩ := split_of_append_epilogue parts
    obtain ⟨first, second, split, start, command⟩ := sentFrom_split high_nil within
    refine ⟨first, second, split, ?_, ?_⟩
    · rw [start, body]
    · rw [behind, command]
  · rintro ⟨first, second, rfl, rfl, rfl⟩
    rw [chinese, body_reset]
    simp only [List.append_assoc]

end ReceiptFleet.Wire
