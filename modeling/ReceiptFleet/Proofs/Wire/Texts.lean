import ReceiptFleet.Proofs.Wire.Cuts

/-!
What is sent for a text: its characters one by one, and Chinese mode again after the two
characters that spell the command to initialize the printer.
-/

namespace ReceiptFleet.Wire

open ReceiptFleet.Text (utf8 utf8Char)

/-- A text as it is sent. -/
def sentText : List Char → List UInt8
  | [] => []
  | '\x1b' :: '@' :: rest => reset ++ chineseOn ++ sentText rest
  | c :: rest => sentChar c ++ sentText rest

-----------------------------------------------------------------------------------------
-- Bytes below 80 in UTF-8
-----------------------------------------------------------------------------------------

/-- A byte below 80 stands for the character with its number, and for no part of another one. -/
theorem toNat_of_low_mem {c : Char} {b : UInt8} (member : b ∈ utf8Char c) (low : b < 0x80)
    : c.toNat = b.toNat := by
  have scalar := Text.toNat_scalar c
  have small : b.toNat < 0x80 := low
  -- a byte of a longer form is one of 80 plus something below 80
  have longer {n : Nat} (least : 0x80 ≤ n) (most : n < 256) (same : b = UInt8.ofNat n)
      : False := by
    rw [same, Text.toNat_byte most] at small
    omega
  simp only [utf8Char] at member
  split at member
  case isTrue one =>
    rw [List.mem_singleton.mp member, Text.toNat_byte (by omega)]
  case isFalse high =>
    split at member
    case isTrue two =>
      simp only [List.mem_cons, List.not_mem_nil, or_false] at member
      rcases member with same | same <;> exact (longer (by omega) (by omega) same).elim
    case isFalse higher =>
      split at member <;> simp only [List.mem_cons, List.not_mem_nil, or_false] at member
      case isTrue three =>
        rcases member with same | same | same <;>
          exact (longer (by omega) (by omega) same).elim
      case isFalse four =>
        rcases member with same | same | same | same <;>
          exact (longer (by omega) (by omega) same).elim

theorem utf8Char_of_small {c : Char} (small : c.toNat < 0x80)
    : utf8Char c = [UInt8.ofNat c.toNat] := by
  simp [utf8Char, small]

theorem utf8Char_ne_nil (c : Char)
    : utf8Char c ≠ [] := by
  simp only [utf8Char]
  repeat' split
  all_goals simp

/-- A text has a byte below 80 only if it has the character of that number. -/
theorem toNat_of_low_mem_utf8 {s : List Char} {b : UInt8} (member : b ∈ utf8 s) (low : b < 0x80)
    : ∃ c ∈ s, c.toNat = b.toNat := by
  obtain ⟨c, present, inside⟩ := List.mem_flatMap.mp member
  exact ⟨c, present, toNat_of_low_mem inside low⟩

/-- A text whose bytes have the number of a character below 80 has that character. -/
theorem mem_of_mem_utf8 {s : List Char} {c : Char} {b : UInt8} (member : b ∈ Text.utf8 s)
    (low : b < 0x80) (number : c.toNat = b.toNat)
    : c ∈ s := by
  obtain ⟨other, present, same⟩ := toNat_of_low_mem_utf8 member low
  have character : other = c := Char.ext (UInt32.toNat_inj.mp (same.trans number.symm))
  exact character ▸ present

/-- A text begins with a byte below 80 only if it begins with the character of that number. -/
theorem head?_utf8 {s : List Char} {b : UInt8} (first : (utf8 s).head? = some b) (low : b < 0x80)
    : ∃ c rest, s = c :: rest ∧ c.toNat = b.toNat := by
  cases s with
  | nil => simp [utf8] at first
  | cons c rest =>
      obtain ⟨lead, others, bytes⟩ := List.exists_cons_of_ne_nil (utf8Char_ne_nil c)
      have same : lead = b := by simpa [utf8, bytes] using first
      have member : b ∈ utf8Char c := by simp [bytes, same]
      exact ⟨c, rest, rfl, toNat_of_low_mem member low⟩

-----------------------------------------------------------------------------------------
-- High bytes only
-----------------------------------------------------------------------------------------

/-- Bytes from 80 up are all pending, by induction over them. -/
theorem pending_of_high {bytes : List UInt8} (run : List UInt8) (high : ∀ b ∈ bytes, ¬ b < 0x80)
    : pending run bytes = bytes.reverse ++ run := by
  induction bytes generalizing run with
  | nil => rfl
  | cons b rest ih =>
      rw [pending, if_neg (high b List.mem_cons_self),
        ih (b :: run) (fun next member => high next (List.mem_cons_of_mem _ member))]
      simp

/-- Bytes from 80 up are sent as one run, by induction over them. -/
theorem sentFrom_of_high {bytes : List UInt8} (run : List UInt8) (high : ∀ b ∈ bytes, ¬ b < 0x80)
    : sentFrom run bytes = sentRun (run.reverse ++ bytes) := by
  induction bytes generalizing run with
  | nil => rw [sentFrom, List.append_nil]
  | cons b rest ih =>
      rw [sentFrom_high _ _ (high b List.mem_cons_self),
        ih (b :: run) (fun next member => high next (List.mem_cons_of_mem _ member))]
      simp

-----------------------------------------------------------------------------------------
-- Characters and texts
-----------------------------------------------------------------------------------------

theorem high_of_mem_utf8Char {c : Char} (high : ¬ c.toNat < 0x80)
    : ∀ b ∈ utf8Char c, ¬ b < 0x80 := by
  intro b member low
  have same := toNat_of_low_mem member low
  have small : b.toNat < 0x80 := low
  omega

/-- A character leaves a closed run: none, or its bytes after a closed run. -/
theorem closed_pending_utf8Char (c : Char) {run : List UInt8} (closed : Closed run.reverse)
    : Closed (pending run (utf8Char c)).reverse := by
  by_cases small : c.toNat < 0x80
  · have low : UInt8.ofNat c.toNat < 0x80 := by
      rw [UInt8.lt_iff_toNat_lt, Text.toNat_byte (by omega)]
      exact small
    rw [utf8Char_of_small small, pending, if_pos low]
    exact closed_nil
  · rw [pending_of_high run (high_of_mem_utf8Char small), List.reverse_append,
      List.reverse_reverse]
    exact closed.append (by simpa [utf8] using closed_utf8 [c])

/-- A text leaves a closed run, by induction over its characters. -/
theorem closed_pending_utf8 (s : List Char) {run : List UInt8} (closed : Closed run.reverse)
    : Closed (pending run (utf8 s)).reverse := by
  induction s generalizing run with
  | nil => exact closed
  | cons c rest ih =>
      rw [utf8, List.flatMap_cons, pending_append]
      exact ih (closed_pending_utf8Char c closed)

/-- The body of one character is that character as it is sent. -/
theorem body_utf8Char (c : Char)
    : body (utf8Char c) = sentChar c := by
  by_cases small : c.toNat < 0x80
  · have low : UInt8.ofNat c.toNat < 0x80 := by
      rw [UInt8.lt_iff_toNat_lt, Text.toNat_byte (by omega)]
      exact small
    have ordinary : c ≠ Text.Gbk.euro := by
      intro same
      rw [same] at small
      exact absurd small (by decide)
    rw [utf8Char_of_small small, body, sentFrom_low [] [] low (by simp), sentFrom, sentChar,
      if_neg ordinary, Text.Gbk.encodeChar, if_pos small]
    simp
  · rw [body, sentFrom_of_high [] (high_of_mem_utf8Char small)]
    simpa [utf8] using sentRun_utf8 [c]

/-- The body of a text is that text as it is sent. The cases are those of the text as it is
sent. -/
theorem body_utf8 (s : List Char)
    : body (utf8 s) = sentText s := by
  fun_induction sentText s with
  | case1 => rw [utf8, List.flatMap_nil, body, sentFrom, List.reverse_nil, sentRun_nil]
  | case2 rest ih =>
      have bytes : utf8 ('\x1b' :: '@' :: rest) = 0x1B :: 0x40 :: utf8 rest := rfl
      rw [bytes, body, sentFrom_reset, List.reverse_nil, sentRun_nil, List.nil_append, ← ih]
      rfl
  | case3 c rest other ih =>
      have whole : ResetWhole (utf8Char c) (utf8 rest) := by
        rintro ⟨last, next⟩
        have escape := toNat_of_low_mem (List.mem_of_getLast? last) (by decide)
        obtain ⟨second, tail, found, letter⟩ := head?_utf8 next (by decide)
        have escapeChar : c = '\x1b' := Char.ext (UInt32.toNat_inj.mp escape)
        have letterChar : second = '@' := Char.ext (UInt32.toNat_inj.mp letter)
        exact other tail escapeChar (letterChar ▸ found)
      rw [utf8, List.flatMap_cons, ← utf8,
        body_append whole (closed_pending_utf8Char c closed_nil), body_utf8Char, ih]

/-- A text without the escape character is sent character by character, by induction over it. -/
theorem sentText_of_noEscape {s : List Char} (noEscape : '\x1b' ∉ s)
    : sentText s = s.flatMap sentChar := by
  induction s with
  | nil => rfl
  | cons c rest ih =>
      rw [List.mem_cons, not_or] at noEscape
      rw [sentText, ih noEscape.2, List.flatMap_cons]
      intro tail escape
      exact absurd escape.symm noEscape.1

end ReceiptFleet.Wire
