/-!
UTF-8: the bytes of a text, and the text of bytes that may be damaged. Damaged bytes are read by
the practice of the Unicode standard: each longest beginning of a valid sequence that does not go
on as one becomes a single replacement character.
-/

namespace ReceiptFleet.Text

/-- The UTF-8 bytes of a character: its bits in groups of six behind a leading byte. -/
def utf8Char (c : Char) : List UInt8 :=
  let n := c.toNat
  if n < 0x80 then [UInt8.ofNat n]
  else if n < 0x800 then [UInt8.ofNat (0xC0 + n / 0x40), UInt8.ofNat (0x80 + n % 0x40)]
  else if n < 0x10000 then
    [UInt8.ofNat (0xE0 + n / 0x1000), UInt8.ofNat (0x80 + n / 0x40 % 0x40),
      UInt8.ofNat (0x80 + n % 0x40)]
  else
    [UInt8.ofNat (0xF0 + n / 0x40000), UInt8.ofNat (0x80 + n / 0x1000 % 0x40),
      UInt8.ofNat (0x80 + n / 0x40 % 0x40), UInt8.ofNat (0x80 + n % 0x40)]

/-- The UTF-8 bytes of a text. -/
def utf8 (s : List Char) : List UInt8 := s.flatMap utf8Char

/-- The character that stands for damaged bytes. -/
def replacement : Char := '\uFFFD'

/-- What may follow a leading byte: how many bytes, the bounds of the first of them, and the bits
of the leading byte. The bounds keep out overlong forms, surrogates and what lies above U+10FFFF. -/
structure Utf8Lead where
  more : Nat
  low : Nat
  high : Nat
  bits : Nat

/-- The class of a leading byte from 80 up; bytes that begin no sequence have none. -/
def utf8Lead? (b : UInt8) : Option Utf8Lead :=
  let n := b.toNat
  if 0xC2 ≤ n ∧ n ≤ 0xDF then some ⟨1, 0x80, 0xBF, n - 0xC0⟩
  else if n = 0xE0 then some ⟨2, 0xA0, 0xBF, 0⟩
  else if n = 0xED then some ⟨2, 0x80, 0x9F, 0xD⟩
  else if 0xE1 ≤ n ∧ n ≤ 0xEF then some ⟨2, 0x80, 0xBF, n - 0xE0⟩
  else if n = 0xF0 then some ⟨3, 0x90, 0xBF, 0⟩
  else if n = 0xF4 then some ⟨3, 0x80, 0x8F, 4⟩
  else if 0xF1 ≤ n ∧ n ≤ 0xF3 then some ⟨3, 0x80, 0xBF, n - 0xF0⟩
  else none

/-- Reads the bytes that follow a leading byte: the character and what is left, or a replacement
character and what is left from the first byte that does not fit. -/
def utf8Follow (more low high value : Nat) (bytes : List UInt8) : Char × List UInt8 :=
  match more, bytes with
  | 0, rest => (Char.ofNat value, rest)
  | _ + 1, [] => (replacement, [])
  | more + 1, b :: rest =>
    if low ≤ b.toNat ∧ b.toNat ≤ high then
      utf8Follow more 0x80 0xBF (value * 0x40 + (b.toNat - 0x80)) rest
    else (replacement, b :: rest)

/-- Following bytes are only ever taken from the front. -/
theorem utf8Follow_length_le (more low high value : Nat) (bytes : List UInt8)
    : (utf8Follow more low high value bytes).2.length ≤ bytes.length := by
  induction more generalizing low high value bytes with
  | zero => simp [utf8Follow]
  | succ more ih =>
    cases bytes with
    | nil => simp [utf8Follow]
    | cons b rest =>
      simp only [utf8Follow]
      split
      · exact Nat.le_succ_of_le (ih ..)
      · simp

/-- The first character of bytes that begin with a given one, and the bytes after it. -/
def utf8First (b : UInt8) (rest : List UInt8) : Char × List UInt8 :=
  if b.toNat < 0x80 then (Char.ofNat b.toNat, rest)
  else match utf8Lead? b with
    | some lead => utf8Follow lead.more lead.low lead.high lead.bits rest
    | none => (replacement, rest)

/-- The first character takes its leading byte, and more only from the front of the others. -/
theorem utf8First_length_le (b : UInt8) (rest : List UInt8)
    : (utf8First b rest).2.length ≤ rest.length := by
  simp only [utf8First]
  split
  · exact Nat.le_refl _
  · split
    · exact utf8Follow_length_le ..
    · exact Nat.le_refl _

/-- The text of bytes, with a replacement character for each damaged part. -/
def utf8Lossy : List UInt8 → List Char
  | [] => []
  | b :: rest => (utf8First b rest).1 :: utf8Lossy (utf8First b rest).2
termination_by bytes => bytes.length
decreasing_by
  exact Nat.lt_succ_of_le (utf8First_length_le b rest)

end ReceiptFleet.Text
