/-!
White space and trimming. Two kinds of white space are told apart: the blanks of Unicode's
White_Space property, and the three that may stand around a line. Trimming is a rule on lists of
characters, for any class of characters.
-/

namespace ReceiptFleet.Text

/-- Unicode's White_Space property. -/
def isBlank (c : Char) : Bool :=
  let n := c.toNat
  (0x09 ≤ n && n ≤ 0x0D) || n == 0x20 || n == 0x85 || n == 0xA0 || n == 0x1680
    || (0x2000 ≤ n && n ≤ 0x200A) || n == 0x2028 || n == 0x2029 || n == 0x202F || n == 0x205F
    || n == 0x3000

/-- The white space that may stand around a line of text: a space, a tab or a carriage return. -/
def isLinePadding (c : Char) : Bool := c == ' ' || c == '\t' || c == '\r'

/-- The list without the members of a class at its end. -/
def dropEnd (p : Char → Bool) (s : List Char) : List Char := (s.reverse.dropWhile p).reverse

/-- The list without the members of a class at both of its ends. -/
def stripChars (p : Char → Bool) (s : List Char) : List Char := dropEnd p (s.dropWhile p)

/-- The text without blanks at its ends. -/
def trim (s : String) : String := String.ofList (stripChars isBlank s.toList)

/-- Whether a text has nothing but blanks. -/
def isAllBlank (s : List Char) : Bool := s.all isBlank

/-- Padding of a line is blank. -/
theorem isBlank_of_isLinePadding (c : Char) (padding : isLinePadding c = true)
    : isBlank c = true := by
  simp only [isLinePadding, Bool.or_eq_true, beq_iff_eq] at padding
  rcases padding with (rfl | rfl) | rfl <;> rfl

end ReceiptFleet.Text
