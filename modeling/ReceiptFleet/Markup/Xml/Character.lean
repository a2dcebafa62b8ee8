/-!
The character classes of XML 1.0, fifth edition. Characters up to U+0080 are classed as ASCII; a
colon counts as a name character, and it is the reader of names that gives it a meaning.
-/

namespace ReceiptFleet.Markup.Xml

/-- The characters that may stand in a document. -/
def isAllowed (c : Char) : Bool :=
  if c.toNat < 0x20 then c == '\t' || c == '\n' || c == '\r'
  else c.toNat != 0xFFFE && c.toNat != 0xFFFF

/-- The white space of markup. -/
def isSpace (c : Char) : Bool := c == ' ' || c == '\t' || c == '\n' || c == '\r'

/-- The characters that may begin a name. -/
def isNameStart (c : Char) : Bool :=
  let n := c.toNat
  if n ≤ 0x80 then c.isAlpha || c == ':' || c == '_'
  else (0xC0 ≤ n && n ≤ 0xD6) || (0xD8 ≤ n && n ≤ 0xF6) || (0xF8 ≤ n && n ≤ 0x2FF)
    || (0x370 ≤ n && n ≤ 0x37D) || (0x37F ≤ n && n ≤ 0x1FFF) || (0x200C ≤ n && n ≤ 0x200D)
    || (0x2070 ≤ n && n ≤ 0x218F) || (0x2C00 ≤ n && n ≤ 0x2FEF) || (0x3001 ≤ n && n ≤ 0xD7FF)
    || (0xF900 ≤ n && n ≤ 0xFDCF) || (0xFDF0 ≤ n && n ≤ 0xFFFD) || (0x10000 ≤ n && n ≤ 0xEFFFF)

/-- The characters that may go on in a name. -/
def isNameChar (c : Char) : Bool :=
  let n := c.toNat
  isNameStart c
    || (if n ≤ 0x80 then c.isDigit || c == '-' || c == '.'
      else n == 0xB7 || (0x300 ≤ n && n ≤ 0x36F) || (0x203F ≤ n && n ≤ 0x2040))

end ReceiptFleet.Markup.Xml
