import ReceiptFleet.Proofs.Text.Utf8
import ReceiptFleet.Wire.ChineseMode

/-!
Where the bytes of a job can be cut. What is sent for two parts, one after the other, is what is
sent for each of them, unless the cut goes through the command that initializes the printer or
through a character. The bytes from 80 up at the end of the first part decide the latter: they
must be read alike whatever comes after them.
-/

namespace ReceiptFleet.Wire

open ReceiptFleet.Text (utf8 utf8Char utf8Lossy replacement)

-----------------------------------------------------------------------------------------
-- Runs of bytes from 80 up
-----------------------------------------------------------------------------------------

/-- A run of bytes that is read alike whatever comes after it. -/
def Closed (run : List UInt8) : Prop :=
  ∀ more, utf8Lossy (run ++ more) = utf8Lossy run ++ utf8Lossy more

/-- The bytes from 80 up at the end, last first, where `run` holds those before. -/
def pending (run : List UInt8) : List UInt8 → List UInt8
  | [] => run
  | b :: rest => if b < 0x80 then pending [] rest else pending (b :: run) rest

/-- Bytes are cut between two parts, and not inside the command that initializes the printer. -/
def ResetWhole (first second : List UInt8) : Prop :=
  ¬ (first.getLast? = some 0x1B ∧ second.head? = some 0x40)

/-- Leaving out the first byte of a part leaves its end, so the cut is as good as before. -/
theorem ResetWhole.tail {b : UInt8} {rest second : List UInt8}
    (whole : ResetWhole (b :: rest) second)
    : ResetWhole rest second := by
  intro ⟨last, next⟩
  exact whole ⟨by simp [List.getLast?_cons, last], next⟩

theorem closed_nil : Closed [] := by
  intro more
  simp [utf8Lossy]

/-- The bytes of a text are closed, since its last character is whole. -/
theorem closed_utf8 (s : List Char)
    : Closed (utf8 s) := by
  intro more
  have alone := Text.utf8Lossy_utf8_append s []
  rw [List.append_nil] at alone
  rw [Text.utf8Lossy_utf8_append, alone]
  simp [utf8Lossy]

theorem closed_stray {b : UInt8} (stray : 0xF5 ≤ b.toNat)
    : Closed [b] := by
  intro more
  rw [List.singleton_append, Text.utf8Lossy_stray b more stray, Text.utf8Lossy_stray b [] stray]
  simp [utf8Lossy]

theorem Closed.append {first second : List UInt8} (one : Closed first) (two : Closed second)
    : Closed (first ++ second) := by
  intro more
  rw [List.append_assoc, one (second ++ more), two more, one second, List.append_assoc]

/-- Bytes are pending part by part, by induction over the first part. -/
theorem pending_append (run first second : List UInt8)
    : pending run (first ++ second) = pending (pending run first) second := by
  induction first generalizing run with
  | nil => rfl
  | cons b rest ih =>
      simp only [List.cons_append, pending]
      split <;> exact ih _

@[simp] theorem sentRun_nil : sentRun [] = [] := by
  simp [sentRun, utf8Lossy]

/-- A closed run is sent apart from what comes after it. -/
theorem sentRun_append {run : List UInt8} (closed : Closed run) (more : List UInt8)
    : sentRun (run ++ more) = sentRun run ++ sentRun more := by
  rw [sentRun, closed more, List.flatMap_append]
  rfl

/-- Characters are sent one by one, since each is read back from its bytes. -/
theorem sentRun_utf8 (s : List Char)
    : sentRun (utf8 s) = s.flatMap sentChar := by
  have read := Text.utf8Lossy_utf8_append s []
  rw [List.append_nil] at read
  rw [sentRun, read]
  simp [utf8Lossy]

-----------------------------------------------------------------------------------------
-- Single bytes
-----------------------------------------------------------------------------------------

/-- The command that initializes the printer ends a run and is followed by Chinese mode. -/
theorem sentFrom_reset (run rest : List UInt8)
    : sentFrom run (0x1B :: 0x40 :: rest)
      = sentRun run.reverse ++ reset ++ chineseOn ++ sentFrom [] rest := by
  rw [sentFrom]

/-- A byte below 80 that does not begin that command ends a run and is sent as it is. -/
theorem sentFrom_low (run : List UInt8) {b : UInt8} (rest : List UInt8) (low : b < 0x80)
    (other : b = 0x1B → rest.head? ≠ some 0x40)
    : sentFrom run (b :: rest) = sentRun run.reverse ++ b :: sentFrom [] rest := by
  rw [sentFrom, if_pos low]
  intro tail escape next
  subst escape next
  simp at other

/-- A byte from 80 up goes to the run. -/
theorem sentFrom_high (run : List UInt8) {b : UInt8} (rest : List UInt8) (high : ¬ b < 0x80)
    : sentFrom run (b :: rest) = sentFrom (b :: run) rest := by
  rw [sentFrom, if_neg high]
  intro tail escape
  subst escape
  exact absurd (by decide) high

-----------------------------------------------------------------------------------------
-- Cuts
-----------------------------------------------------------------------------------------

/-- A closed run is sent before all that comes after it, by induction over the bytes that
follow. -/
theorem sentFrom_closed {run : List UInt8} (closed : Closed run.reverse) (more bytes : List UInt8)
    : sentFrom (more ++ run) bytes = sentRun run.reverse ++ sentFrom more bytes := by
  have flush (more : List UInt8)
      : sentRun (more ++ run).reverse = sentRun run.reverse ++ sentRun more.reverse := by
    rw [List.reverse_append, sentRun_append closed]
  fun_induction sentFrom more bytes with
  | case1 more => rw [sentFrom, flush]
  | case2 more rest _ => rw [sentFrom_reset, flush]; simp only [List.append_assoc]
  | case3 more b rest other low _ =>
      have plain : b = 0x1B → rest.head? ≠ some 0x40 := by
        cases rest with
        | nil => simp
        | cons next tail => simpa using other tail
      rw [sentFrom_low _ _ low plain, flush, List.append_assoc]
  | case4 more b rest _ high ih =>
      rw [sentFrom_high _ _ high, ← List.cons_append]
      exact ih

/-- What is sent for two parts is what is sent for each, if the first part's last run is sent
apart from the second. The induction is over the first part, whose bytes so far are in the run.
-/
theorem sentFrom_append {run first second : List UInt8} (whole : ResetWhole first second)
    (parted
      : sentFrom (pending run first) second
        = sentRun (pending run first).reverse ++ body second)
    : sentFrom run (first ++ second) = sentFrom run first ++ body second := by
  fun_induction sentFrom run first with
  | case1 run => simpa [pending] using parted
  | case2 run rest ih =>
      rw [List.cons_append, List.cons_append, sentFrom_reset, ih (whole.tail.tail) parted]
      simp only [List.append_assoc]
  | case3 run b rest other low ih =>
      rw [pending, if_pos low] at parted
      have plain : b = 0x1B → (rest ++ second).head? ≠ some 0x40 := by
        cases rest with
        | nil => simpa [ResetWhole] using whole
        | cons next tail => simpa using other tail
      rw [List.cons_append, sentFrom_low _ _ low plain, ih whole.tail parted]
      simp only [List.append_assoc, List.cons_append]
  | case4 run b rest _ high ih =>
      rw [pending, if_neg high] at parted
      rw [List.cons_append, sentFrom_high _ _ high, ih whole.tail parted]

/-- The body of two parts is the bodies of both, if the first one ends in a closed run. -/
theorem body_append {first second : List UInt8} (whole : ResetWhole first second)
    (closed : Closed (pending [] first).reverse)
    : body (first ++ second) = body first ++ body second := by
  exact sentFrom_append whole (sentFrom_closed closed [] second)

end ReceiptFleet.Wire
