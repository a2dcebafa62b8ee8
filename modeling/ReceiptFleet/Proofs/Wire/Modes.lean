import ReceiptFleet.Proofs.Wire.Initializations
import ReceiptFleet.Proofs.Wire.Texts

/-!
Chinese mode along the bytes of a job. A printer turns the mode on and off by the commands that it reads, two
bytes each. For bytes that do not switch the mode themselves, whatever is sent from 80 up is sent while the
mode is on, but for the single byte of the euro sign; the printer is initialized where the bytes say so and
nowhere else; and in the end the mode is off.
-/

namespace ReceiptFleet.Wire

open ReceiptFleet.Text (utf8Lossy)

-----------------------------------------------------------------------------------------
-- Reading the mode
-----------------------------------------------------------------------------------------

/-- What a printer knows of the bytes so far: whether Chinese mode is on, and the last byte, which may have
begun a command. -/
structure Reader where
  on : Bool := false
  last : UInt8 := 0

namespace Reader

/-- The printer after one more byte. Two bytes turn the mode on; two turn it off, and so do the two that
initialize the printer. -/
def next (r : Reader) (b : UInt8) : Reader where
  on :=
    if r.last = 0x1C ∧ b = 0x26 then true
    else if (r.last = 0x1C ∧ b = 0x2E) ∨ (r.last = 0x1B ∧ b = 0x40) then false
    else r.on
  last := b

/-- The printer after some bytes. -/
def after (bytes : List UInt8) : Reader := bytes.foldl next {}

theorem after_append (seen bytes : List UInt8)
    : after (seen ++ bytes) = bytes.foldl next (after seen) :=
  List.foldl_append

/-- The last byte of some bytes is one of them. -/
theorem last_after_mem (seen : List UInt8) {bytes : List UInt8} (nonempty : bytes ≠ [])
    : (after (seen ++ bytes)).last ∈ bytes := by
  have parts := List.dropLast_concat_getLast nonempty
  have last : (after (seen ++ bytes)).last = bytes.getLast nonempty := by
    conv => lhs; rw [← parts, ← List.append_assoc, after_append]
    rfl
  exact last ▸ List.getLast_mem nonempty

end Reader

/-- Whether Chinese mode is on after some bytes, where it was off before. -/
def inChineseMode (bytes : List UInt8) : Bool := (Reader.after bytes).on

/-- What is sent right before the byte of the euro sign: Chinese mode is turned off, and 1B 74 13 selects the
character table that has the sign. -/
def euroTable : List UInt8 := [0x1C, 0x2E, 0x1B, 0x74, 0x13]

/-- Behind those bytes the mode is off, whatever it was before. -/
theorem inChineseMode_euroTable (seen : List UInt8)
    : inChineseMode (seen ++ euroTable) = false := by
  rw [inChineseMode, Reader.after_append]
  simp [euroTable, Reader.next]

-----------------------------------------------------------------------------------------
-- Bytes that keep to the mode
-----------------------------------------------------------------------------------------

/-- Of bytes that are sent behind others, those from 80 up come in Chinese mode, or one is the euro
sign. -/
def KeepsMode (seen : List UInt8) : List UInt8 → Prop
  | [] => True
  | b :: rest =>
    (0x80 ≤ b → inChineseMode seen = true ∨ (b = 0xD5 ∧ euroTable <:+ seen))
    ∧ KeepsMode (seen ++ [b]) rest

theorem keepsMode_append {seen first second : List UInt8}
    : KeepsMode seen (first ++ second)
      ↔ KeepsMode seen first ∧ KeepsMode (seen ++ first) second := by
  induction first generalizing seen with
  | nil => simp [KeepsMode]
  | cons b rest ih =>
      rw [List.cons_append, KeepsMode, KeepsMode, ih, and_assoc, List.append_assoc]
      rfl

/-- What the walk along the bytes says of each of them. -/
theorem KeepsMode.at {seen before after : List UInt8} {b : UInt8}
    (keeps : KeepsMode seen (before ++ b :: after)) (high : 0x80 ≤ b)
    : inChineseMode (seen ++ before) = true ∨ (b = 0xD5 ∧ euroTable <:+ seen ++ before) :=
  (keepsMode_append.mp keeps).2.1 high

/-- Chinese mode is on, and no byte waits that could turn it off with the next one, but for the one that
begins the command to initialize the printer. -/
structure Ready (seen : List UInt8) : Prop where
  on : inChineseMode seen = true
  clear : (Reader.after seen).last ≠ 0x1C

/-- Bytes that are sent in Chinese mode, keep to it, and leave it on. -/
structure Steady (seen bytes : List UInt8) : Prop where
  keeps : KeepsMode seen bytes
  ready : Ready (seen ++ bytes)

theorem Steady.append {seen first second : List UInt8} (one : Steady seen first)
    (two : Steady (seen ++ first) second)
    : Steady seen (first ++ second) := by
  refine ⟨keepsMode_append.mpr ⟨one.keeps, two.keeps⟩, ?_⟩
  rw [← List.append_assoc]
  exact two.ready

theorem Ready.steady_nil {seen : List UInt8} (ready : Ready seen)
    : Steady seen [] :=
  ⟨trivial, (List.append_nil seen).symm ▸ ready⟩

/-- A byte that begins no switch of the mode, and does not initialize the printer together with the one
before it, leaves the mode on. -/
theorem Ready.steady_singleton {seen : List UInt8} (ready : Ready seen) {b : UInt8}
    (plain : b ≠ 0x1C) (apart : b = 0x40 → (Reader.after seen).last ≠ 0x1B)
    : Steady seen [b] := by
  refine ⟨⟨fun _ => .inl ready.on, trivial⟩, ?_, ?_⟩
  · have on : (Reader.after seen).on = true := ready.on
    have stays : ¬ ((Reader.after seen).last = 0x1B ∧ b = 0x40) := fun both => apart both.2 both.1
    rw [inChineseMode, Reader.after_append]
    simp [Reader.next, ready.clear, stays, on]
  · rw [Reader.after_append]
    exact plain

/-- Bytes that begin no command leave the mode on, by induction over them. -/
theorem Ready.steady_plain {seen bytes : List UInt8} (ready : Ready seen)
    (plain : ∀ b ∈ bytes, b ≠ 0x1B ∧ b ≠ 0x1C)
    (apart : bytes.head? = some 0x40 → (Reader.after seen).last ≠ 0x1B)
    : Steady seen bytes := by
  induction bytes generalizing seen with
  | nil => exact ready.steady_nil
  | cons b rest ih =>
      have here := plain b List.mem_cons_self
      have first : Steady seen [b] :=
        ready.steady_singleton here.2 fun same => apart (congrArg some same)
      refine first.append (ih first.ready ?_ ?_)
      · exact fun next member => plain next (List.mem_cons_of_mem b member)
      · intro _
        rw [Reader.after_append]
        exact here.1

-----------------------------------------------------------------------------------------
-- Characters and runs
-----------------------------------------------------------------------------------------

/-- The euro sign is sent outside of Chinese mode, which is on afterwards. -/
theorem steady_euroBytes (seen : List UInt8)
    : Steady seen euroBytes := by
  refine ⟨?_, ?_, ?_⟩
  · have parts : euroBytes = euroTable ++ [0xD5, 0x1C, 0x26] := rfl
    rw [parts, keepsMode_append]
    refine ⟨?_, ⟨fun _ => .inr ⟨rfl, List.suffix_append _ _⟩, ?_⟩⟩
    · simp [euroTable, KeepsMode]
    · simp [KeepsMode]
  · rw [inChineseMode, Reader.after_append]
    simp [euroBytes, chineseOff, chineseOn, Reader.next]
  · rw [Reader.after_append]
    simp [euroBytes, chineseOff, chineseOn, Reader.next]

theorem Ready.steady_sentChar {seen : List UInt8} (ready : Ready seen) {c : Char}
    (high : 0x80 ≤ c.toNat)
    : Steady seen (sentChar c) := by
  rw [sentChar]
  split
  · exact steady_euroBytes seen
  · apply ready.steady_plain
    · intro b member
      have least := Text.Gbk.le_of_mem_encodeChar high member
      exact ⟨ne_of_apply_ne UInt8.toNat (by simp; omega), ne_of_apply_ne UInt8.toNat (by simp; omega)⟩
    · obtain ⟨b, rest, bytes, first⟩ := Text.Gbk.head_encodeChar high
      rw [bytes]
      rintro ⟨⟩
      rcases first with first | first <;> simp at first

theorem last_sentChar (seen : List UInt8) {c : Char} (high : 0x80 ≤ c.toNat)
    : (Reader.after (seen ++ sentChar c)).last ≠ 0x1B := by
  rw [sentChar]
  split
  · rw [Reader.after_append]
    simp [euroBytes, chineseOff, chineseOn, Reader.next]
  · have member := Reader.last_after_mem seen (Text.Gbk.encodeChar_ne_nil c)
    have least := Text.Gbk.le_of_mem_encodeChar high member
    exact ne_of_apply_ne UInt8.toNat (by simp; omega)

/-- Characters from 80 up leave the mode on, by induction over them. -/
theorem Ready.steady_chars {seen : List UInt8} (ready : Ready seen) {s : List Char}
    (high : ∀ c ∈ s, 0x80 ≤ c.toNat)
    : Steady seen (s.flatMap sentChar) := by
  induction s generalizing seen with
  | nil => exact ready.steady_nil
  | cons c s ih =>
      have first : Steady seen (sentChar c) := ready.steady_sentChar (high c List.mem_cons_self)
      rw [List.flatMap_cons]
      exact first.append (ih first.ready fun next member => high next (List.mem_cons_of_mem c member))

theorem Ready.steady_sentRun {seen run : List UInt8} (ready : Ready seen) (high : High run)
    : Steady seen (sentRun run) :=
  ready.steady_chars (Text.utf8Lossy_high high)

/-- A run does not end in a byte that begins a command. -/
theorem last_sentRun (seen : List UInt8) {run : List UInt8} (nonempty : run ≠ []) (high : High run)
    : (Reader.after (seen ++ sentRun run)).last ≠ 0x1B := by
  have read : utf8Lossy run ≠ [] := by
    obtain ⟨b, rest, rfl⟩ := List.exists_cons_of_ne_nil nonempty
    rw [utf8Lossy]
    exact List.cons_ne_nil _ _
  have parts := List.dropLast_concat_getLast read
  have last := Text.utf8Lossy_high high _ (List.getLast_mem read)
  rw [sentRun, ← parts, List.flatMap_append, List.flatMap_singleton, ← List.append_assoc]
  exact last_sentChar _ last

-----------------------------------------------------------------------------------------
-- Whole jobs
-----------------------------------------------------------------------------------------

/-- Whatever is sent behind an initialization, Chinese mode is on again right after it. -/
theorem steady_reset (seen : List UInt8)
    : Steady seen (reset ++ chineseOn) := by
  refine ⟨?_, ?_, ?_⟩
  · simp [reset, chineseOn, KeepsMode]
  · rw [inChineseMode, Reader.after_append]
    simp [reset, chineseOn, Reader.next]
  · rw [Reader.after_append]
    simp [reset, chineseOn, Reader.next]

/-- Bytes that do not switch the mode are sent in it. The cases are those of the bytes as they are sent,
and the run holds those from 80 up just before. -/
theorem Ready.steady_sentFrom {seen run bytes : List UInt8} (ready : Ready seen)
    (noSwitch : 0x1C ∉ bytes) (high : High run)
    (apart : run = [] → bytes.head? = some 0x40 → (Reader.after seen).last ≠ 0x1B)
    : Steady seen (sentFrom run bytes) := by
  fun_induction sentFrom run bytes generalizing seen with
  | case1 run => exact ready.steady_sentRun high.reverse
  | case2 run rest ih =>
      have before : Steady seen (sentRun run.reverse) := ready.steady_sentRun high.reverse
      have again := steady_reset (seen ++ sentRun run.reverse)
      rw [List.append_assoc (sentRun run.reverse)]
      refine (before.append again).append (ih ?_ ?_ high_nil ?_)
      · exact (before.append again).ready
      · exact fun member => noSwitch (List.mem_cons_of_mem _ (List.mem_cons_of_mem _ member))
      · intro _ _
        rw [← List.append_assoc, Reader.after_append]
        simp [reset, chineseOn, Reader.next]
  | case3 run b rest other low ih =>
      have before : Steady seen (sentRun run.reverse) := ready.steady_sentRun high.reverse
      obtain ⟨noSwitch, later⟩ := List.ne_and_not_mem_of_not_mem_cons noSwitch
      have byte : Steady (seen ++ sentRun run.reverse) [b] := by
        apply before.ready.steady_singleton noSwitch.symm
        rintro rfl
        by_cases empty : run = []
        · rw [empty, List.reverse_nil, sentRun_nil, List.append_nil]
          exact apart empty rfl
        · exact last_sentRun seen (mt List.reverse_eq_nil_iff.mp empty) high.reverse
      refine before.append (byte.append (ih byte.ready later high_nil ?_))
      intro _ next
      rw [Reader.after_append]
      rintro rfl
      obtain ⟨tail, rfl⟩ := List.head?_eq_some_iff.mp next
      exact other tail rfl rfl
  | case4 run b rest _ notLow ih =>
      apply ih ready (fun member => noSwitch (List.mem_cons_of_mem _ member)) (high.cons notLow)
      exact fun empty => absurd empty (List.cons_ne_nil b run)

/-- A job without switches of its own keeps to the mode from its first byte to the last one before the
epilogue. -/
theorem steady_job {bytes : List UInt8} (noSwitch : 0x1C ∉ bytes)
    : Steady [] (prologue ++ body bytes) := by
  have start : Steady [] prologue := by
    refine ⟨?_, ?_, ?_⟩
    · simp [prologue, chineseOn, selectGbk, KeepsMode]
    · decide
    · decide
  refine start.append (start.ready.steady_sentFrom noSwitch high_nil ?_)
  intro _ _
  decide

/-- Of bytes that do not switch the mode themselves, every one from 80 up is sent in Chinese mode, but for the
single byte of the euro sign behind the selection of its table, where the mode is off. The printer is
initialized where the bytes say so and nowhere else, and in the end the mode is off. -/
theorem chinese_keeps_mode {bytes : List UInt8} (noSwitch : 0x1C ∉ bytes)
    : (∀ before b after,
        chinese bytes = before ++ b :: after
        → 0x80 ≤ b
        → (inChineseMode before = false ↔ b = 0xD5 ∧ euroTable <:+ before))
      ∧ (∀ before after,
        chinese bytes = before ++ (reset ++ after)
        ↔ ∃ first second,
            bytes = first ++ (reset ++ second)
            ∧ before = prologue ++ body first
            ∧ after = chineseOn ++ body second ++ epilogue)
      ∧ inChineseMode (chinese bytes) = false := by
  have job : Steady [] (prologue ++ body bytes) := steady_job noSwitch
  refine ⟨?_, fun _ _ => chinese_split_iff, ?_⟩
  · intro before b after sent high
    constructor
    · intro off
      have keeps : KeepsMode [] (chinese bytes) :=
        keepsMode_append.mpr ⟨job.keeps, by simp [epilogue, chineseOff, KeepsMode]⟩
      rw [sent] at keeps
      rcases keeps.at high with on | euro
      · exact absurd on (by simp [off])
      · exact euro
    -- the selection of the table alone does not tell the sign, since a job can make it in Chinese mode
    · rintro ⟨-, seen, rfl⟩
      exact inChineseMode_euroTable seen
  · rw [chinese, inChineseMode, Reader.after_append]
    simp [epilogue, chineseOff, Reader.next]

/-- Witness: the command to initialize the printer, a digit and a euro sign. -/
theorem chinese_keeps_mode_five_euros
    : chinese [0x1B, 0x40, 0x35, 0xE2, 0x82, 0xAC]
        = prologue ++ reset ++ chineseOn ++ [0x35] ++ euroTable ++ 0xD5 :: (chineseOn ++ epilogue)
      ∧ inChineseMode (prologue ++ reset ++ chineseOn ++ [0x35] ++ euroTable) = false := by
  have sent
      : chinese (Text.utf8 ['\x1b', '@', '5', '€'])
        = prologue ++ reset ++ chineseOn ++ [0x35] ++ euroTable ++ 0xD5 :: (chineseOn ++ epilogue) := by
    rw [chinese, body_utf8]
    rfl
  have noSwitch : 0x1C ∉ Text.utf8 ['\x1b', '@', '5', '€'] := by decide
  refine ⟨sent, ?_⟩
  apply ((chinese_keeps_mode noSwitch).1 _ 0xD5 _ sent (by decide)).mpr
  exact ⟨rfl, List.suffix_append _ _⟩

end ReceiptFleet.Wire
