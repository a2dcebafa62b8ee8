import ReceiptFleet.Proofs.Text.GbkBytes
import ReceiptFleet.Proofs.Wire.Texts

/-!
The width of a text and the width that is sent. Layouts count the GBK bytes of a text, and what is sent has
more: it turns Chinese mode on and off, and leaves it for a euro sign. The bytes are counted exactly, and as
columns they come to the width of the text.
-/

namespace ReceiptFleet.Wire

open ReceiptFleet.Text (utf8)
open ReceiptFleet.Text.Gbk (charWidth charsWidth euro encodeChar)

-----------------------------------------------------------------------------------------
-- Counting bytes
-----------------------------------------------------------------------------------------

/-- How often the two characters stand next to each other in a text that spell the command to initialize the
printer. -/
def initializations (s : List Char) : Nat := (s.zip s.tail).count ('\x1b', '@')

/-- A euro sign is seven bytes longer than the column that it takes, and every other character is sent as the
bytes of its width. -/
theorem length_sentChar (c : Char)
    : (sentChar c).length = charWidth c + if c = euro then 7 else 0 := by
  rw [sentChar]
  split
  case isTrue sign =>
    rw [sign]
    decide
  case isFalse _ => rfl

/-- The bytes of a text as it is sent, counted by the cases of how it is sent. -/
theorem length_sentText (s : List Char)
    : (sentText s).length = charsWidth s + 7 * s.count euro + 2 * initializations s := by
  fun_induction sentText s with
  | case1 => rfl
  | case2 rest ih =>
      have counted : initializations ('\x1b' :: '@' :: rest) = initializations rest + 1 := by
        cases rest <;> simp [initializations]
      have signs : ('\x1b' :: '@' :: rest).count euro = rest.count euro := by
        simp [euro]
      have wide : charsWidth ('\x1b' :: '@' :: rest) = 2 + charsWidth rest := by
        rw [charsWidth, charsWidth, ← Nat.add_assoc]
        rfl
      rw [List.length_append, ih, counted, signs, wide, reset, chineseOn]
      simp only [List.length_append, List.length_cons, List.length_nil]
      omega
  | case3 c rest other ih =>
      have counted : initializations (c :: rest) = initializations rest := by
        cases rest with
        | nil => rfl
        | cons next tail =>
            have apart : ¬ (c = '\x1b' ∧ next = '@') := fun both =>
              other tail both.1 (both.2 ▸ rfl)
            simpa [initializations, List.count_cons] using apart
      rw [List.length_append, ih, counted, length_sentChar, charsWidth, List.count_cons]
      simp only [beq_iff_eq]
      split <;> omega

-----------------------------------------------------------------------------------------
-- Counting columns
-----------------------------------------------------------------------------------------

/-- The columns of a text as it is sent. A byte of the text takes one, the switch to Chinese mode behind an
initialization takes none, and the bytes of a euro sign take one together. -/
def columns : List UInt8 → Nat
  | [] => 0
  | 0x1B :: 0x40 :: 0x1C :: 0x26 :: rest => 2 + columns rest
  | 0x1C :: 0x2E :: 0x1B :: 0x74 :: 0x13 :: 0xD5 :: 0x1C :: 0x26 :: rest => 1 + columns rest
  | _ :: rest => 1 + columns rest

theorem columns_reset (rest : List UInt8)
    : columns (reset ++ chineseOn ++ rest) = 2 + columns rest := by
  rw [reset, chineseOn]
  rfl

theorem columns_euroBytes (rest : List UInt8)
    : columns (euroBytes ++ rest) = 1 + columns rest := by
  rw [euroBytes, chineseOff, chineseOn]
  rfl

/-- A byte takes a column of its own where neither sequence begins. -/
theorem columns_cons {b : UInt8} {rest : List UInt8} (noReset : b = 0x1B → rest.head? ≠ some 0x40)
    (noEuro : ¬ euroBytes <+: b :: rest)
    : columns (b :: rest) = 1 + columns rest := by
  rw [columns]
  · rintro tail rfl rfl
    simp at noReset
  · rintro tail rfl rfl
    exact noEuro (List.prefix_append euroBytes tail)

/-- Bytes that begin no command take a column each, by induction over them. -/
theorem columns_append {bytes : List UInt8} (rest : List UInt8) (plain : ∀ b ∈ bytes, 0x23 ≤ b.toNat)
    : columns (bytes ++ rest) = bytes.length + columns rest := by
  induction bytes with
  | nil => rw [List.nil_append, List.length_nil, Nat.zero_add]
  | cons b bytes ih =>
      obtain ⟨least, later⟩ := List.forall_mem_cons.mp plain
      rw [List.cons_append, columns_cons, ih later, List.length_cons]
      · omega
      · rintro rfl
        exact absurd least (by decide)
      · rintro ⟨tail, parts⟩
        obtain ⟨rfl, -⟩ := List.cons.inj parts
        exact absurd least (by decide)

-----------------------------------------------------------------------------------------
-- How the bytes of a text begin
-----------------------------------------------------------------------------------------

/-- A character below 80 is sent as the byte of its number. -/
theorem sentChar_of_small {c : Char} (small : c.toNat < 0x80)
    : sentChar c = [UInt8.ofNat c.toNat] := by
  rw [sentChar, if_neg, encodeChar, if_pos small]
  rintro rfl
  exact absurd small (by decide)

/-- A character from 80 up is sent as a sequence that begins with a command or an ampersand, or with a byte from
80 up that is alone or has one from 40 up behind it. -/
theorem sentChar_of_high {c : Char} (high : 0x80 ≤ c.toNat)
    : ∃ b others,
        sentChar c = b :: others
        ∧ (b = 0x1C
          ∨ b = 0x26
          ∨ b = 0x80
          ∨ (0x80 ≤ b.toNat ∧ ∃ trail, others = [trail] ∧ 0x40 ≤ trail.toNat)) := by
  rw [sentChar]
  split
  · exact ⟨_, _, rfl, .inl rfl⟩
  · rcases Text.Gbk.encodeChar_cases high with ⟨code, bytes⟩ | bytes | ⟨others, bytes, -⟩
    · refine ⟨_, _, bytes, .inr (.inr (.inr ⟨?_, _, rfl, Text.Gbk.le_toNat_trail code⟩))⟩
      rw [Text.Gbk.toNat_lead]
      omega
    · exact ⟨_, _, bytes, .inr (.inr (.inl rfl))⟩
    · exact ⟨_, _, bytes, .inr (.inl rfl)⟩

/-- A byte below 80 is sent for the character with its number, unless it begins a euro sign, a reference
or an initialization. -/
theorem sentText_cons_low {s : List Char} {b : UInt8} {rest : List UInt8}
    (sent : sentText s = b :: rest) (low : b.toNat < 0x80) (noSign : b ≠ 0x1C) (noReference : b ≠ 0x26)
    (noReset : b = 0x1B → rest.head? ≠ some 0x40)
    : ∃ c tail, s = c :: tail ∧ c.toNat = b.toNat ∧ sentText tail = rest := by
  fun_cases sentText s with
  | case1 => cases sent
  | case2 tail =>
      obtain ⟨rfl, rfl⟩ := List.cons.inj sent
      exact absurd rfl (noReset rfl)
  | case3 c tail other =>
      rw [sentText.eq_3 _ _ other] at sent
      by_cases small : c.toNat < 0x80
      · rw [sentChar_of_small small] at sent
        obtain ⟨rfl, rfl⟩ := List.cons.inj sent
        exact ⟨c, tail, rfl, (Text.toNat_byte (by omega)).symm, rfl⟩
      · obtain ⟨first, others, bytes, starts⟩ := sentChar_of_high (Nat.le_of_not_lt small)
        rw [bytes] at sent
        obtain ⟨rfl, -⟩ := List.cons.inj sent
        rcases starts with same | same | same | ⟨high, -⟩
        · exact absurd same noSign
        · exact absurd same noReference
        · exact absurd low (same ▸ by decide)
        · omega

/-- The second byte of the initialization is sent first only for its character. -/
theorem head?_sentText {s : List Char} (first : (sentText s).head? = some 0x40)
    : ∃ tail, s = '@' :: tail := by
  obtain ⟨bytes, sent⟩ := List.head?_eq_some_iff.mp first
  obtain ⟨c, tail, rfl, number, -⟩ :=
    sentText_cons_low sent (by decide) (by decide) (by decide) (by simp)
  have letter : c = '@' := Char.ext (UInt32.toNat_inj.mp number)
  exact ⟨tail, letter ▸ rfl⟩

/-- The byte of the euro sign outside of Chinese mode begins a code in it, so no command follows. -/
theorem sentText_ne_sign (s : List Char) (rest : List UInt8)
    : sentText s ≠ 0xD5 :: 0x1C :: rest := by
  intro sent
  fun_cases sentText s with
  | case1 => cases sent
  | case2 tail => cases sent
  | case3 c tail other =>
      rw [sentText.eq_3 _ _ other] at sent
      by_cases small : c.toNat < 0x80
      · rw [sentChar_of_small small] at sent
        have number := congrArg UInt8.toNat (List.cons.inj sent).1
        rw [Text.toNat_byte (by omega)] at number
        exact absurd (number ▸ small) (by decide)
      · obtain ⟨first, others, bytes, starts⟩ := sentChar_of_high (Nat.le_of_not_lt small)
        rw [bytes] at sent
        obtain ⟨rfl, behind⟩ := List.cons.inj sent
        rcases starts with same | same | same | ⟨-, trail, rfl, least⟩
        · cases same
        · cases same
        · cases same
        · obtain ⟨rfl, -⟩ := List.cons.inj behind
          exact absurd least (by decide)

/-- No text spells the bytes of a euro sign behind their first one. -/
theorem not_euroBytes_prefix (s : List Char)
    : ¬ euroBytes <+: 0x1C :: sentText s := by
  rintro ⟨rest, parts⟩
  have sent : sentText s = 0x2E :: 0x1B :: 0x74 :: 0x13 :: 0xD5 :: 0x1C :: 0x26 :: rest :=
    (List.cons.inj parts).2.symm
  obtain ⟨-, s, -, -, sent⟩ := sentText_cons_low sent (by decide) (by decide) (by decide) (by simp)
  obtain ⟨-, s, -, -, sent⟩ := sentText_cons_low sent (by decide) (by decide) (by decide) (by simp)
  obtain ⟨-, s, -, -, sent⟩ := sentText_cons_low sent (by decide) (by decide) (by decide) (by simp)
  obtain ⟨-, s, -, -, sent⟩ := sentText_cons_low sent (by decide) (by decide) (by decide) (by simp)
  exact sentText_ne_sign s _ sent

-----------------------------------------------------------------------------------------
-- Texts
-----------------------------------------------------------------------------------------

/-- What is sent for a text comes to its width in columns, by the cases of how it is sent. -/
theorem columns_sentText (s : List Char)
    : columns (sentText s) = charsWidth s := by
  fun_induction sentText s with
  | case1 => rfl
  | case2 rest ih =>
      rw [columns_reset, ih, charsWidth, charsWidth, ← Nat.add_assoc]
      rfl
  | case3 c rest other ih =>
      rw [charsWidth, ← ih]
      by_cases small : c.toNat < 0x80
      · have one : charWidth c = 1 := by
          rw [charWidth, encodeChar, if_pos small]
          rfl
        rw [sentChar_of_small small, one, List.singleton_append, columns_cons]
        · intro escape next
          have number := congrArg UInt8.toNat escape
          rw [Text.toNat_byte (by omega)] at number
          obtain ⟨tail, rfl⟩ := head?_sentText next
          exact other tail (Char.ext (UInt32.toNat_inj.mp number)) rfl
        · rintro ⟨more, parts⟩
          rw [← (List.cons.inj parts).1] at parts
          exact not_euroBytes_prefix rest ⟨more, parts⟩
      · rw [sentChar]
        split
        case isTrue sign =>
          rw [columns_euroBytes, sign]
          rfl
        case isFalse _ =>
          rw [columns_append _ fun b member => Text.Gbk.le_of_mem_encodeChar (Nat.le_of_not_lt small) member]
          rfl

/-- The width of a text adds up the widths of its characters, which is how a separator counts it. -/
theorem charsWidth_eq_sum (s : List Char)
    : charsWidth s = (s.map charWidth).sum := by
  induction s with
  | nil => rfl
  | cons c rest ih => rw [charsWidth, ih, List.map_cons, List.sum_cons]

/-- What is sent for a text is sent character by character, as GBK or as the sequence of the euro sign, with
Chinese mode again behind an initialization. So its length is known from the width of the text, its columns
come to that width, and widths add up. -/
theorem chinese_text_width (s t : String)
    : chinese (utf8 s.toList) = prologue ++ sentText s.toList ++ epilogue
      ∧ (chinese (utf8 s.toList)).length
        = 7 + Text.Gbk.width s + 7 * s.toList.count euro + 2 * initializations s.toList
      ∧ columns (sentText s.toList) = Text.Gbk.width s
      ∧ Text.Gbk.width s = (s.toList.map charWidth).sum
      ∧ Text.Gbk.width (s ++ t) = Text.Gbk.width s + Text.Gbk.width t := by
  have sent : chinese (utf8 s.toList) = prologue ++ sentText s.toList ++ epilogue := by
    rw [chinese, body_utf8]
  refine ⟨sent, ?_, columns_sentText s.toList, ?_, Text.Gbk.width_append s t⟩
  · rw [sent, List.length_append, List.length_append, length_sentText, Text.Gbk.width]
    have around : prologue.length + epilogue.length = 7 := rfl
    omega
  · exact charsWidth_eq_sum s.toList

end ReceiptFleet.Wire
