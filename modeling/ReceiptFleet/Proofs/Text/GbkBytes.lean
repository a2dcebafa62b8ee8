import ReceiptFleet.Text.Gbk

/-!
The bytes of GBK. Those of a character from 80 up are a two-byte code, the single byte of the euro sign, or a
reference in ASCII, so none of them is a control byte, which could begin a command.
-/

namespace ReceiptFleet.Text.Gbk

/-- Every character takes a column. -/
theorem charWidth_pos (c : Char)
    : 0 < charWidth c :=
  List.length_pos_iff.mpr (encodeChar_ne_nil c)

theorem toNat_lead (code : Code)
    : code.lead.toNat = 0x81 + code.val / 190 := by
  have bound : code.val < 23940 := code.isLt
  rw [Code.lead, UInt8.toNat_ofNat']
  omega

/-- The second byte of a code is at least 40, and so no byte of a command or a control character. -/
theorem le_toNat_trail (code : Code)
    : 0x40 ≤ code.trail.toNat := by
  have column : code.val % 190 < 190 := Nat.mod_lt _ (by decide)
  rw [Code.trail, UInt8.toNat_ofNat']
  split <;> omega

/-- A reference is written with digits and the signs around them. -/
theorem le_of_mem_reference {c : Char} {b : UInt8} (member : b ∈ reference c)
    : 0x23 ≤ b.toNat := by
  obtain ⟨d, present, rfl⟩ := List.mem_map.mp member
  simp only [List.cons_append, List.mem_cons, List.mem_append, List.not_mem_nil,
    or_false] at present
  rcases present with rfl | rfl | digit | rfl
  · decide
  · decide
  · have digit : d.isDigit = true := Nat.isDigit_of_mem_toDigits (by decide) (by decide) digit
    have bounds : 0x30 ≤ d.toNat ∧ d.toNat ≤ 0x39 := by
      simpa [Char.isDigit, UInt32.le_iff_toNat_le] using digit
    rw [UInt8.toNat_ofNat']
    omega
  · decide

/-- The bytes of a character from 80 up: a code of two bytes, the single byte of the euro sign, or
printable ASCII that begins with an ampersand. -/
theorem encodeChar_cases {c : Char} (high : 0x80 ≤ c.toNat)
    : (∃ code : Code, encodeChar c = [code.lead, code.trail])
      ∨ encodeChar c = [0x80]
      ∨ ∃ rest, encodeChar c = 0x26 :: rest ∧ ∀ b ∈ rest, 0x23 ≤ b.toNat := by
  rw [encodeChar, if_neg (by omega)]
  split
  · exact .inr (.inl rfl)
  · cases code? c with
    | some code => exact .inl ⟨code, rfl⟩
    | none =>
        refine .inr (.inr ⟨(reference c).tail, rfl, ?_⟩)
        intro b member
        exact le_of_mem_reference (List.mem_of_mem_tail member)

/-- No byte of a character from 80 up is a control byte. -/
theorem le_of_mem_encodeChar {c : Char} (high : 0x80 ≤ c.toNat) {b : UInt8}
    (member : b ∈ encodeChar c)
    : 0x23 ≤ b.toNat := by
  rcases encodeChar_cases high with ⟨code, bytes⟩ | bytes | ⟨rest, bytes, printable⟩
  · rw [bytes, List.mem_cons, List.mem_singleton] at member
    rcases member with rfl | rfl
    · rw [toNat_lead]
      omega
    · exact Nat.le_trans (by decide) (le_toNat_trail code)
  · rw [bytes, List.mem_singleton] at member
    rw [member]
    decide
  · rw [bytes, List.mem_cons] at member
    rcases member with rfl | later
    · decide
    · exact printable b later

/-- A character from 80 up begins with a byte from 80 up, or with an ampersand. -/
theorem head_encodeChar {c : Char} (high : 0x80 ≤ c.toNat)
    : ∃ b rest, encodeChar c = b :: rest ∧ (b = 0x26 ∨ 0x80 ≤ b.toNat) := by
  rcases encodeChar_cases high with ⟨code, bytes⟩ | bytes | ⟨rest, bytes, _⟩
  · refine ⟨_, _, bytes, .inr ?_⟩
    rw [toNat_lead]
    omega
  · exact ⟨_, _, bytes, .inr (by decide)⟩
  · exact ⟨_, _, bytes, .inl rfl⟩

end ReceiptFleet.Text.Gbk
