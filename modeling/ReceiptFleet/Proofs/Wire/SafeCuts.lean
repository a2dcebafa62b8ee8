import ReceiptFleet.Proofs.Wire.Initializations
import ReceiptFleet.Proofs.Wire.Texts

/-!
Cuts that need no look at the bytes before them. A run of bytes from 80 up ends where a byte below 80 stands
on either side, and a text ends with a whole character; so only the command that initializes the printer can
be cut through there. Bytes below 80 are such cuts themselves, and are sent where they stand.
-/

namespace ReceiptFleet.Wire

open ReceiptFleet.Text (utf8)

-----------------------------------------------------------------------------------------
-- Cuts outside of runs
-----------------------------------------------------------------------------------------

/-- Bytes are cut between two parts, and not inside a run of bytes from 80 up. -/
def RunWhole (first second : List UInt8) : Prop :=
  ¬ ((∃ b ∈ first.getLast?, 0x80 ≤ b) ∧ ∃ b ∈ second.head?, 0x80 ≤ b)

/-- A run is sent before all that does not begin with a byte from 80 up. -/
theorem sentFrom_of_head? {run bytes : List UInt8} (head : ¬ ∃ b ∈ bytes.head?, 0x80 ≤ b)
    : sentFrom run bytes = sentRun run.reverse ++ body bytes := by
  have flushed : sentRun ([] : List UInt8).reverse = [] := sentRun_nil
  cases bytes with
  | nil => simp [body, sentFrom]
  | cons b rest =>
      have low : b < 0x80 := by simpa using head
      by_cases command : b = 0x1B ∧ rest.head? = some 0x40
      · obtain ⟨rfl, next⟩ := command
        obtain ⟨tail, rfl⟩ := List.head?_eq_some_iff.mp next
        rw [body, sentFrom_reset, sentFrom_reset, flushed]
        simp only [List.append_assoc, List.nil_append]
      · have other : b = 0x1B → rest.head? ≠ some 0x40 := fun escape next => command ⟨escape, next⟩
        rw [body, sentFrom_low run rest low other, sentFrom_low [] rest low other, flushed,
          List.nil_append]

/-- Nothing is pending behind a byte below 80. -/
theorem pending_of_getLast? {bytes : List UInt8} (last : ¬ ∃ b ∈ bytes.getLast?, 0x80 ≤ b)
    : pending [] bytes = [] := by
  cases found : bytes.getLast? with
  | none =>
      rw [List.getLast?_eq_none_iff.mp found]
      rfl
  | some b =>
      obtain ⟨before, rfl⟩ := List.getLast?_eq_some_iff.mp found
      have low : b < 0x80 := by simpa using last
      rw [pending_append, pending, if_pos low, pending]

theorem body_append_of_whole {first second : List UInt8} (run : RunWhole first second)
    (reset : ResetWhole first second)
    : body (first ++ second) = body first ++ body second := by
  by_cases last : ∃ b ∈ first.getLast?, 0x80 ≤ b
  · exact sentFrom_append reset (sentFrom_of_head? fun head => run ⟨last, head⟩)
  · refine body_append reset ?_
    rw [pending_of_getLast? last]
    exact closed_nil

/-- No run goes on behind a byte below 80. -/
theorem runWhole_concat {b : UInt8} (low : b < 0x80) (before after : List UInt8)
    : RunWhole (before ++ [b]) after := by
  rintro ⟨last, -⟩
  exact absurd low (UInt8.not_lt.mpr (by simpa using last))

/-- No run goes on with a byte below 80. -/
theorem runWhole_cons {b : UInt8} (low : b < 0x80) (before after : List UInt8)
    : RunWhole before (b :: after) := by
  rintro ⟨-, head⟩
  exact absurd low (UInt8.not_lt.mpr (by simpa using head))

-----------------------------------------------------------------------------------------
-- Bytes below 80
-----------------------------------------------------------------------------------------

theorem body_low {b : UInt8} (low : b < 0x80)
    : body [b] = [b] := by
  rw [body, sentFrom_low [] [] low (by simp), sentFrom, List.reverse_nil, sentRun_nil]
  rfl

theorem body_concat_low {b : UInt8} (low : b < 0x80) {before : List UInt8}
    (whole : ResetWhole before [b])
    : body (before ++ [b]) = body before ++ [b] := by
  rw [body_append_of_whole (runWhole_cons low before []) whole, body_low low]

theorem body_cons_low {b : UInt8} (low : b < 0x80) {after : List UInt8}
    (whole : ResetWhole [b] after)
    : body (b :: after) = b :: body after := by
  have parts := body_append_of_whole (runWhole_concat low [] after) whole
  rwa [List.nil_append, body_low low] at parts

/-- A cut through the command that initializes the printer: what is sent for both parts, and for the whole. -/
theorem body_of_not_resetWhole {first second : List UInt8} (cut : ¬ ResetWhole first second)
    : ∃ before after,
        first = before ++ [0x1B]
        ∧ second = 0x40 :: after
        ∧ body first = body before ++ [0x1B]
        ∧ body second = 0x40 :: body after
        ∧ body (first ++ second) = body first ++ 0x40 :: (chineseOn ++ body after) := by
  obtain ⟨last, head⟩ := not_not.mp cut
  obtain ⟨before, rfl⟩ := List.getLast?_eq_some_iff.mp last
  obtain ⟨after, rfl⟩ := List.head?_eq_some_iff.mp head
  have escape : body (before ++ [0x1B]) = body before ++ [0x1B] :=
    body_concat_low (by decide) (by rintro ⟨-, ⟨⟩⟩)
  have letter : body (0x40 :: after) = 0x40 :: body after :=
    body_cons_low (by decide) (by rintro ⟨⟨⟩, -⟩)
  have command := body_reset before after
  refine ⟨before, after, rfl, rfl, escape, letter, ?_⟩
  rw [escape]
  simpa [reset] using command

/-- A byte below 80 is sent behind what is sent for the bytes before it, and what comes behind it is sent as
if alone, but for the two bytes of the command that initializes the printer. -/
theorem body_at_low {b : UInt8} (low : b < 0x80) (before behind : List UInt8)
    : ∃ after,
        body (before ++ b :: behind) = body before ++ b :: after
        ∧ (ResetWhole before (b :: behind) → ResetWhole [b] behind → after = body behind) := by
  by_cases whole : ResetWhole before (b :: behind)
  · rw [body_append_of_whole (runWhole_cons low before behind) whole]
    by_cases next : ResetWhole [b] behind
    · exact ⟨body behind, by rw [body_cons_low low next], fun _ _ => rfl⟩
    · obtain ⟨none, after, -, -, -, -, sent⟩ := body_of_not_resetWhole next
      rw [List.singleton_append, body_low low] at sent
      exact ⟨_, by rw [sent]; rfl, fun _ other => absurd other next⟩
  · obtain ⟨first, after, rfl, letter, -, -, sent⟩ := body_of_not_resetWhole whole
    obtain ⟨rfl, rfl⟩ := List.cons.inj letter
    exact ⟨_, sent, fun other => absurd other whole⟩

-----------------------------------------------------------------------------------------
-- Safe cuts
-----------------------------------------------------------------------------------------

/-- A cut that is safe outside of the command that initializes the printer is not safe inside of it, since the
two parts of the command are sent without Chinese mode behind them. -/
theorem body_append_iff {first second : List UInt8}
    (parted : ResetWhole first second → body (first ++ second) = body first ++ body second)
    : body (first ++ second) = body first ++ body second ↔ ResetWhole first second := by
  refine ⟨fun same => Classical.byContradiction fun cut => ?_, parted⟩
  obtain ⟨before, after, -, -, -, letter, sent⟩ := body_of_not_resetWhole cut
  rw [sent, letter, List.append_cancel_left_eq, List.cons_inj_right] at same
  cases List.append_left_eq_self.mp same

/-- What is sent between the five bytes of the prologue and the two of the epilogue is sent part by part. Outside
of runs of bytes from 80 up, and everywhere behind a text, a cut is safe precisely if it is not inside the
command that initializes the printer. A byte below 80 is sent in its place, and leaves what is before and
behind it as it is, but in that command, which is sent with Chinese mode behind it. -/
theorem body_of_cuts (first second : List UInt8)
    : (∀ bytes, body bytes = ((chinese bytes).drop 5).take ((chinese bytes).length - 7))
      ∧ (RunWhole first second
        → (body (first ++ second) = body first ++ body second ↔ ResetWhole first second))
      ∧ (∀ s : List Char,
          first = utf8 s
          → (body (first ++ second) = body first ++ body second ↔ ResetWhole first second))
      ∧ (∀ b : UInt8, b < 0x80 → body [b] = [b])
      ∧ body reset = reset ++ chineseOn
      ∧ ∀ b : UInt8,
          b < 0x80
          → ∃ after,
              body (first ++ b :: second) = body first ++ b :: after
              ∧ (ResetWhole first (b :: second) → ResetWhole [b] second → after = body second) := by
  refine ⟨fun bytes => ?_, fun run => body_append_iff (body_append_of_whole run), ?_,
    fun _ => body_low, ?_, fun b low => body_at_low low first second⟩
  · simp [chinese, prologue, chineseOn, selectGbk, epilogue, chineseOff]
  · rintro s rfl
    exact body_append_iff fun whole => body_append whole (closed_pending_utf8 s closed_nil)
  · simpa [body, sentFrom] using body_reset [] []

/-- Witness: an unfinished character and an escape before stray bytes; a euro sign before them, where the cut
is inside a run; and the escape by itself. -/
theorem body_of_malformed_cuts
    : let unfinished : List UInt8 := [0xE4, 0xB8, 0x1B]
      let stray : List UInt8 := [0xAD, 0x40]
      let sign := utf8 [Text.Gbk.euro]
      (RunWhole unfinished stray
        ∧ ResetWhole unfinished stray
        ∧ body (unfinished ++ stray) = body unfinished ++ body stray)
      ∧ (¬ RunWhole sign stray
        ∧ ResetWhole sign stray
        ∧ body (sign ++ stray) = body sign ++ body stray)
      ∧ ∃ after, body ([0xE4, 0xB8] ++ 0x1B :: stray) = body [0xE4, 0xB8] ++ 0x1B :: after := by
  intro unfinished stray sign
  have run : RunWhole unfinished stray := runWhole_concat (by decide) [0xE4, 0xB8] stray
  have whole : ResetWhole unfinished stray := by
    rintro ⟨-, ⟨⟩⟩
  have wholeSign : ResetWhole sign stray := by
    rintro ⟨-, ⟨⟩⟩
  have cut : ¬ RunWhole sign stray := not_not.mpr ⟨⟨0xAC, rfl, by decide⟩, ⟨0xAD, rfl, by decide⟩⟩
  obtain ⟨-, outside, -⟩ := body_of_cuts unfinished stray
  obtain ⟨-, -, behind, -⟩ := body_of_cuts sign stray
  obtain ⟨-, -, -, -, -, placed⟩ := body_of_cuts [0xE4, 0xB8] stray
  obtain ⟨after, sent, -⟩ := placed 0x1B (by decide)
  exact ⟨⟨run, whole, (outside run).mpr whole⟩,
    ⟨cut, wholeSign, (behind [Text.Gbk.euro] rfl).mpr wholeSign⟩, after, sent⟩

end ReceiptFleet.Wire
