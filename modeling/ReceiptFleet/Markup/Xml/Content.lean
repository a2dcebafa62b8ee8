import ReceiptFleet.Markup.Xml.Token

/-!
The tokens of a whole document: an optional byte order mark and declaration, asides and white space
around one element, and the content of that element down to its own end tag.
-/

namespace ReceiptFleet.Markup.Xml

/-- Reads a declaration behind its `<?xml`: a version, then an encoding and a standalone mark if
there are any. Their values are not looked at. -/
def declaration? (s : List Char) : Option (List Char) := do
  let s ← spaced? s
  let s ← versioned? s
  let s ← spaced? s
  let s ← optional? ['e', 'n', 'c', 'o', 'd', 'i', 'n', 'g'] s
  let s ← if (after? ['s', 't', 'a', 'n', 'd', 'a', 'l', 'o', 'n', 'e'] s).isSome
    then (assignment? s).map (·.2.2) else some s
  after? ['?', '>'] (skipSpace s)
where
  /-- White space, which may be missing only before the end. -/
  spaced? (s : List Char) : Option (List Char) :=
    if (skipSpace s).length < s.length then some (skipSpace s)
    else if s.isEmpty || (after? ['?', '>'] s).isSome then some s
    else none
  /-- An assignment to a word that begins like `version`. -/
  versioned? (s : List Char) : Option (List Char) :=
    if (after? ['v', 'e', 'r', 's', 'i', 'o', 'n'] s).isSome
    then (assignment? s).map (·.2.2) else none
  /-- An assignment to a word of a given beginning and the white space behind it, or nothing. -/
  optional? (word s : List Char) : Option (List Char) :=
    if (after? word s).isSome then ((assignment? s).map (·.2.2)).bind spaced? else some s

/-- Whether a comment or a processing instruction begins here. -/
def beginsAside (s : List Char) : Bool :=
  (after? ['<', '!', '-', '-'] s).isSome || (after? ['<', '?'] s).isSome

/-- What is left behind comments, processing instructions and white space. -/
def skipAsides? (s : List Char) : Option (List Char) :=
  if beginsAside (skipSpace s) then
    match h : token? (skipSpace s) with
    | none => none
    | some (_, left) =>
      have : left.length < s.length :=
        Nat.lt_of_lt_of_le (length_lt_of_token? h) (skipSpace_suffix s).length_le
      skipAsides? left
  else some (skipSpace s)
termination_by s.length

/-- What is left of a document in front of its element. -/
def prologue? (s : List Char) : Option (List Char) := do
  let s := match s with
    | '\uFEFF' :: rest => rest
    | _ => s
  let s ← match after? ['<', '?', 'x', 'm', 'l', ' '] s with
    | some rest => declaration? (' ' :: rest)
    | none => some s
  skipAsides? s

/-- How many elements are open behind a token, given how many were open before it. -/
def Token.depth (outer : Nat) : Token → Nat
  | .openTag .. | .cutTag .. => outer + 1
  | .closeTag _ => outer - 1
  | _ => outer

/-- The tokens up to the end tag that closes the last open element, and what is left behind it. -/
def content? (depth : Nat) (s : List Char) : Option (List Token × List Char) :=
  if depth = 0 then some ([], s)
  else match h : token? s with
    | none => none
    | some (token, left) =>
      have : left.length < s.length := length_lt_of_token? h
      (content? (token.depth depth) left).map fun (tokens, left) => (token :: tokens, left)
termination_by s.length

/-- The tokens of a document's element. There are none if the document has no element. -/
def tokens? (s : List Char) : Option (List Token) := do
  let s ← prologue? s
  match s with
  | [] => some []
  | '<' :: rest => do
    let (tag, left) ← startTag? rest
    match tag with
    | .cutTag .. => some [tag]
    | _ => do
      let (tokens, left) ← content? (tag.depth 0) left
      let left ← skipAsides? left
      if left.isEmpty then some (tag :: tokens) else none
  | _ => none

end ReceiptFleet.Markup.Xml
