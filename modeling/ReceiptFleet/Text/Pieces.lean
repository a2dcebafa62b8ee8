/-!
Cutting text at a separator: into all pieces between separators, or once at the first of them.
-/

namespace ReceiptFleet.Text

/-- The pieces between the separators, as the first piece and the others: there is always one. -/
def piecesAt (separator : Char) : List Char → List Char × List (List Char)
  | [] => ([], [])
  | c :: rest =>
    let (first, others) := piecesAt separator rest
    if c = separator then ([], first :: others) else (c :: first, others)

/-- All pieces of a text between the separators, empty ones included. -/
def pieces (separator : Char) (s : List Char) : List (List Char) :=
  (piecesAt separator s).1 :: (piecesAt separator s).2

/-- The texts before and after the first separator, if there is one. -/
def cut? (separator : Char) : List Char → Option (List Char × List Char)
  | [] => none
  | c :: rest =>
    if c = separator then some ([], rest)
    else (cut? separator rest).map fun (before, after) => (c :: before, after)

/-- Pieces put together again with a separator between them. -/
def joinPieces (separator : Char) : List (List Char) → List Char
  | [] => []
  | [piece] => piece
  | piece :: others => piece ++ separator :: joinPieces separator others

end ReceiptFleet.Text
