import ReceiptFleet.Text.Blank

/-!
Letters and digits of all scripts, told apart by the blocks in which other signs stand.
-/

namespace ReceiptFleet.Text

/-- Blocks of Unicode without letters and digits: punctuation, symbols, boxes, pictures and characters
for private use. -/
def signBlocks : List (Nat × Nat) :=
  [(0x80, 0xA9), (0xAB, 0xB1), (0xB4, 0xB4), (0xB6, 0xB8), (0xBB, 0xBB), (0xBF, 0xBF), (0xD7, 0xD7),
    (0xF7, 0xF7), (0x2000, 0x206F), (0x20A0, 0x20FF), (0x2190, 0x245F), (0x2500, 0x2775),
    (0x2794, 0x2BFF), (0x2E00, 0x2E7F), (0x3000, 0x3004), (0x3008, 0x3020), (0xD800, 0xF8FF),
    (0xFE10, 0xFE6F), (0xFF00, 0xFF0F), (0xFF1A, 0xFF20), (0xFFE0, 0xFFFF), (0x1F000, 0x1F0FF),
    (0x1F200, 0x1FBEF), (0xE0000, 0x10FFFF)]

/-- Whether a character is a letter or a digit. -/
def isAlphanumeric (c : Char) : Bool :=
  let n := c.toNat
  if n < 0x80 then c.isAlphanum
  else !isBlank c && !signBlocks.any fun (first, last) => first ≤ n && n ≤ last

end ReceiptFleet.Text
