import ReceiptFleet.Markup.Xml.Character
import ReceiptFleet.Text.Digits

/-!
What written characters stand for. References are resolved, line ends become single newlines in
text, and white space becomes spaces in attribute values. A character from a reference is kept as
it is, and so is the character right after a reference in text.
-/

namespace ReceiptFleet.Markup.Xml

/-- A written character, or a reference by the character that it stands for. -/
inductive Piece where
  | literal (c : Char)
  | reference (c : Char)
deriving DecidableEq

/-- The character of a number, where numbers that are no character stand for U+FFFD; it must be
allowed in a document, and the number must be below 2^32. -/
def numberedChar? (number : Nat) : Option Char :=
  if number < 4294967296 then
    let c := if number.isValidChar then Char.ofNat number else '\uFFFD'
    if isAllowed c then some c else none
  else none

/-- The character of a reference, given what stands between the ampersand and the semicolon. -/
def referenced? : List Char → Option Char
  | ['l', 't'] => some '<'
  | ['g', 't'] => some '>'
  | ['a', 'm', 'p'] => some '&'
  | ['q', 'u', 'o', 't'] => some '"'
  | ['a', 'p', 'o', 's'] => some '\''
  | '#' :: 'x' :: digits => (Text.digits? 16 digits).bind numberedChar?
  | '#' :: digits => (Text.digits? 10 digits).bind numberedChar?
  | _ => none

/-- Splits written characters into pieces; inside a reference, `name` holds what was read of it
since the ampersand, last first. -/
def piecesFrom? (name : Option (List Char)) : List Char → Option (List Piece)
  | [] => if name.isNone then some [] else none
  | c :: rest =>
    match name with
    | none =>
      if c = '&' then piecesFrom? (some []) rest
      else (piecesFrom? none rest).map (.literal c :: ·)
    | some name =>
      if c = ';' then do
        let r ← referenced? name.reverse
        let pieces ← piecesFrom? none rest
        return .reference r :: pieces
      else piecesFrom? (some (c :: name)) rest

/-- Splits written characters into pieces; a broken or unknown reference refuses them. -/
def pieces? (s : List Char) : Option (List Piece) := piecesFrom? none s

/-- The text of pieces. `done` holds the text before, last character first, and `asIs` tells that
the next character is kept as it is. A carriage return becomes a newline when the next character
shows that it was a line end of its own or the first half of one. -/
def textFrom (asIs : Bool) (done : List Char) : List Piece → List Char
  | [] => done.reverse
  | .reference c :: rest => textFrom true (c :: done) rest
  | .literal c :: rest =>
    if asIs then textFrom false (c :: done) rest
    else
      let last := rest.isEmpty && c == '\r'
      match done with
      | '\r' :: before =>
        if last then textFrom false ('\n' :: '\n' :: before) rest
        else if c = '\n' then textFrom false ('\n' :: before) rest
        else textFrom false (c :: '\n' :: before) rest
      | _ => textFrom false ((if last then '\n' else c) :: done) rest

/-- The text that written characters stand for. -/
def text? (s : List Char) : Option (List Char) := (pieces? s).map (textFrom false [])

/-- The text of a section without references: only line ends are read. -/
def plainText (s : List Char) : List Char := textFrom false [] (s.map .literal)

/-- The value of an attribute's pieces: a line end or a tab is one space. -/
def attributeFrom : List Piece → List Char
  | [] => []
  | .literal '\r' :: .literal '\n' :: rest => ' ' :: attributeFrom rest
  | .literal c :: rest => (if isSpace c then ' ' else c) :: attributeFrom rest
  | .reference c :: rest => c :: attributeFrom rest

/-- The value that an attribute's written characters stand for. -/
def attributeValue? (s : List Char) : Option (List Char) := (pieces? s).map attributeFrom

end ReceiptFleet.Markup.Xml
