import Std.Data.HashMap
import ReceiptFleet.Text.Gbk.Index

/-!
GBK, one character at a time. An ASCII character is its own byte, the euro sign is the single byte
80, a character of the index is the two bytes of its code, and any other character is written out
as a decimal character reference. The width of a text is the number of its bytes, which is also the
number of columns that it takes on paper.
-/

namespace ReceiptFleet.Text.Gbk

/-- How many two-byte codes there are: 126 leading bytes with 190 trailing bytes each. -/
abbrev codeCount : Nat := 23940

/-- A two-byte code, by its place in the order of all codes. -/
abbrev Code := Fin codeCount

/-- The first byte of a code. -/
def Code.lead (code : Code) : UInt8 := UInt8.ofNat (0x81 + code.val / 190)

/-- The second byte of a code; 7F is left out. -/
def Code.trail (code : Code) : UInt8 :=
  let column := code.val % 190
  UInt8.ofNat (if column < 0x3F then 0x40 + column else 0x41 + column)

/-- The codes of the code points in the index, the first one for each of them. -/
def indexed : Std.HashMap Nat Code :=
  let characters := (indexLines.flatMap String.toList).zipIdx
  characters.foldl (fun codes (c, place) =>
    if h : place < codeCount then (if c = '.' then codes else codes.insertIfNew c.toNat ⟨place, h⟩)
    else codes) ∅

/-- The codes of the three user-defined areas, which follow the order of the code points; the code
point U+E5E5 is left out. The first two areas have 94 codes a leading byte, the third has 96. -/
def userDefined? (c : Char) : Option Code :=
  let n := c.toNat
  let place :=
    if 0xE000 ≤ n ∧ n < 0xE234 then
      (0xAA - 0x81 + (n - 0xE000) / 94) * 190 + 96 + (n - 0xE000) % 94
    else if 0xE234 ≤ n ∧ n < 0xE4C6 then
      (0xF8 - 0x81 + (n - 0xE234) / 94) * 190 + 96 + (n - 0xE234) % 94
    else if 0xE4C6 ≤ n ∧ n < 0xE766 ∧ n ≠ 0xE5E5 then
      (0xA1 - 0x81 + (n - 0xE4C6) / 96) * 190 + (n - 0xE4C6) % 96
    else codeCount
  if h : place < codeCount then some ⟨place, h⟩ else none

/-- Private code points that stood for eighteen codes before these had characters of their own. -/
def formerPrivate? (c : Char) : Option Code :=
  match c.toNat with
  | 0xE78D => some 7182
  | 0xE78E => some 7183
  | 0xE78F => some 7184
  | 0xE790 => some 7185
  | 0xE791 => some 7186
  | 0xE792 => some 7187
  | 0xE793 => some 7188
  | 0xE794 => some 7201
  | 0xE795 => some 7202
  | 0xE796 => some 7208
  | 0xE81E => some 23775
  | 0xE826 => some 23783
  | 0xE82B => some 23788
  | 0xE82C => some 23789
  | 0xE832 => some 23795
  | 0xE843 => some 23812
  | 0xE854 => some 23829
  | 0xE864 => some 23845
  | _ => none

/-- The two-byte code of a character, if it has one. -/
def code? (c : Char) : Option Code :=
  (formerPrivate? c).or ((userDefined? c).or indexed[c.toNat]?)

/-- The euro sign. -/
def euro : Char := '€'

/-- The decimal character reference of a character without a code, as ASCII bytes. -/
def reference (c : Char) : List UInt8 :=
  ('&' :: '#' :: Nat.toDigits 10 c.toNat ++ [';']).map fun d => UInt8.ofNat d.toNat

/-- The bytes of a character. -/
def encodeChar (c : Char) : List UInt8 :=
  if c.toNat < 0x80 then [UInt8.ofNat c.toNat]
  else if c = euro then [0x80]
  else match code? c with
    | some code => [code.lead, code.trail]
    | none => reference c

/-- The bytes of a text. -/
def encode (s : List Char) : List UInt8 := s.flatMap encodeChar

/-- The columns that a character takes. -/
def charWidth (c : Char) : Nat := (encodeChar c).length

/-- The columns that a text takes. -/
def charsWidth : List Char → Nat
  | [] => 0
  | c :: rest => charWidth c + charsWidth rest

/-- The columns that a text takes. -/
def width (s : String) : Nat := charsWidth s.toList

/-- The width of a text is the number of its bytes, character by character. -/
theorem charsWidth_eq_length_encode (s : List Char)
    : charsWidth s = (encode s).length := by
  induction s with
  | nil => rfl
  | cons c rest ih =>
    rw [charsWidth, ih, encode, encode, List.flatMap_cons, List.length_append]
    rfl

/-- The widths of two parts add up, as their bytes do. -/
theorem charsWidth_append (s t : List Char)
    : charsWidth (s ++ t) = charsWidth s + charsWidth t := by
  simp only [charsWidth_eq_length_encode, encode, List.flatMap_append, List.length_append]

@[simp] theorem width_append (s t : String)
    : width (s ++ t) = width s + width t := by
  rw [width, String.toList_append, charsWidth_append, width, width]

@[simp] theorem width_empty
    : width "" = 0 :=
  rfl

theorem charWidth_space
    : charWidth ' ' = 1 := by
  decide

/-- Every character has a byte. -/
theorem encodeChar_ne_nil (c : Char)
    : encodeChar c ≠ [] := by
  simp only [encodeChar]
  split
  · simp
  · split
    · simp
    · split <;> simp [reference]

end ReceiptFleet.Text.Gbk
