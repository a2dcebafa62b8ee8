import ReceiptFleet.Markup.Xml.Scan
import ReceiptFleet.Markup.Xml.Value

/-!
Tokens: tags, runs of text, and asides, which are comments and processing instructions. A token is
read from the front of a text and always takes something of it.
-/

namespace ReceiptFleet.Markup.Xml

/-- A part of a document's content. -/
inductive Token where
  | openTag (name : Name) (attributes : List Attribute)
  | emptyTag (name : Name) (attributes : List Attribute)
  | cutTag (name : Name) (attributes : List Attribute)
  | closeTag (name : Name)
  | text (content : List Char)
  | aside
deriving DecidableEq

/-- How a start tag ends: open for content, closed at once, or cut off by the end of the text. -/
inductive TagEnd where
  | content
  | slash
  | cut
deriving DecidableEq

/-- The start tag of an ending. -/
def TagEnd.token (name : Name) (attributes : List Attribute) : TagEnd → Token
  | .content => .openTag name attributes
  | .slash => .emptyTag name attributes
  | .cut => .cutTag name attributes

/-- Reads the attributes of a start tag and its end. White space must stand before an attribute;
the text may end right behind the name or a value, but not behind white space. -/
def attributes? (s : List Char) : Option (List Attribute × TagEnd × List Char) :=
  if s.isEmpty then some ([], .cut, [])
  else match skipSpace s with
    | [] => none
    | '>' :: left => some ([], .content, left)
    | '/' :: '>' :: left => some ([], .slash, left)
    | _ =>
      if (skipSpace s).length = s.length then none
      else match h : assignment? (skipSpace s) with
        | none => none
        | some (name, written, left) =>
          have : left.length < s.length :=
            Nat.lt_of_lt_of_le (length_lt_of_assignment? h) (skipSpace_suffix s).length_le
          do
            let value ← attributeValue? written
            let (others, ending, left) ← attributes? left
            return ((name, String.ofList value) :: others, ending, left)
termination_by s.length

/-- Reads a start tag behind its `<`. -/
def startTag? (s : List Char) : Option (Token × List Char) := do
  let (name, s) ← name? s
  let (attributes, ending, s) ← attributes? s
  return (ending.token name attributes, s)

/-- Reads an end tag behind its `</`. -/
def closeTag? (s : List Char) : Option (Token × List Char) := do
  let (name, s) ← name? s
  let s ← after? ['>'] (skipSpace s)
  return (.closeTag name, s)

/-- Reads a comment behind its `<!--`. It holds no two hyphens and does not end in one. -/
def comment? (s : List Char) : Option (Token × List Char) := do
  let (content, s) ← allowedUpTo? ['-', '-', '>'] s
  if hasMark ['-', '-'] content || content.getLast? = some '-' then none
  else some (.aside, s)

/-- Reads a processing instruction behind its `<?`. A declaration is none. -/
def instruction? (s : List Char) : Option (Token × List Char) :=
  if (after? ['x', 'm', 'l', ' '] s).isSome then none
  else if isNamePart s then do
    let (_, s) ← allowedUpTo? ['?', '>'] (skipSpace (s.dropWhile isNameChar))
    return (.aside, s)
  else none

/-- Reads a section of plain text behind its `<![CDATA[`. -/
def section? (s : List Char) : Option (Token × List Char) := do
  let (content, s) ← allowedUpTo? [']', ']', '>'] s
  return (.text (plainText content), s)

/-- Reads a run of text up to the next `<` or the end. It does not hold `]]>`. -/
def run? (s : List Char) : Option (Token × List Char) := do
  let written := s.takeWhile (· ≠ '<')
  if written.all isAllowed && !hasMark [']', ']', '>'] written then
    let content ← text? written
    return (.text content, s.dropWhile (· ≠ '<'))
  else none

/-- Reads the token at the front of an element's content. -/
def token? : List Char → Option (Token × List Char)
  | [] => none
  | '<' :: '!' :: s =>
    match after? ['-', '-'] s with
    | some s => comment? s
    | none => (after? ['[', 'C', 'D', 'A', 'T', 'A', '['] s).bind section?
  | '<' :: '?' :: s => instruction? s
  | '<' :: '/' :: s => closeTag? s
  | '<' :: s => startTag? s
  | s => run? s

/-! ## What is left -/

/-- What is left behind a mark is no longer than the whole. -/
theorem length_le_of_allowedUpTo? {mark s before left : List Char}
    (h : allowedUpTo? mark s = some (before, left))
    : left.length ≤ s.length :=
  (suffix_of_upTo? (Option.eq_some_of_filter_eq_some h)).length_le

/-- What is left behind attributes is no longer than the whole, by the length of the text. -/
theorem length_le_of_attributes? {s left : List Char} {attributes : List Attribute}
    {ending : TagEnd} (h : attributes? s = some (attributes, ending, left))
    : left.length ≤ s.length := by
  fun_induction attributes? s generalizing attributes ending left with
  | case1 s => simp_all
  | case2 => contradiction
  | case3 s _ left' found =>
    have := (skipSpace_suffix s).length_le
    simp_all
    omega
  | case4 s _ left' found =>
    have := (skipSpace_suffix s).length_le
    simp_all
    omega
  | case5 => contradiction
  | case6 => contradiction
  | case7 s _ _ _ _ _ _ shorter _ _ _ ih =>
    simp only [Option.pure_def, Option.bind_eq_bind, Option.bind_eq_some_iff, Option.some.injEq,
      Prod.mk.injEq, Prod.exists] at h
    obtain ⟨_, _, others, ending', left', tail, _, _, rfl⟩ := h
    have := ih tail
    omega

/-- A token takes at least one character. -/
theorem length_lt_of_token? {s left : List Char} {token : Token} (h : token? s = some (token, left))
    : left.length < s.length := by
  unfold token? at h
  split at h
  · contradiction
  · rename_i s
    split at h
    · rename_i s' found
      have := congrArg List.length (append_of_after? found)
      simp only [comment?, Option.bind_eq_bind, Option.bind_eq_some_iff, Prod.exists] at h
      obtain ⟨_, left', found', h⟩ := h
      have := length_le_of_allowedUpTo? found'
      split at h <;> simp_all
      omega
    · simp only [Option.bind_eq_some_iff, section?, Option.pure_def, Option.bind_eq_bind,
        Option.some.injEq, Prod.mk.injEq, Prod.exists] at h
      obtain ⟨s', found, _, left', found', _, rfl⟩ := h
      have := congrArg List.length (append_of_after? found)
      have := length_le_of_allowedUpTo? found'
      simp_all
      omega
  · rename_i s
    simp only [instruction?] at h
    split at h <;> try contradiction
    split at h <;> try contradiction
    simp only [Option.pure_def, Option.bind_eq_bind, Option.bind_eq_some_iff, Option.some.injEq,
      Prod.mk.injEq, Prod.exists] at h
    obtain ⟨_, left', found, _, rfl⟩ := h
    have := length_le_of_allowedUpTo? found
    have := (skipSpace_suffix (s.dropWhile isNameChar)).length_le
    have := (List.dropWhile_suffix isNameChar (l := s)).length_le
    simp
    omega
  · rename_i s
    simp only [closeTag?, Option.pure_def, Option.bind_eq_bind, Option.bind_eq_some_iff,
      Option.some.injEq, Prod.mk.injEq, Prod.exists] at h
    obtain ⟨_, s₁, first, left', found, _, rfl⟩ := h
    have := (suffix_of_name? first).length_le
    have := congrArg List.length (append_of_after? found)
    have := (skipSpace_suffix s₁).length_le
    simp_all
    omega
  · rename_i s _ _ _
    simp only [startTag?, Option.pure_def, Option.bind_eq_bind, Option.bind_eq_some_iff,
      Option.some.injEq, Prod.mk.injEq, Prod.exists] at h
    obtain ⟨_, s₁, first, _, _, left', second, _, rfl⟩ := h
    have := (suffix_of_name? first).length_le
    have := length_le_of_attributes? second
    simp
    omega
  · rename_i notEmpty _ _ _ notTag
    simp only [run?, Option.pure_def, Option.bind_eq_bind] at h
    split at h <;> try contradiction
    simp only [Option.bind_eq_some_iff, Option.some.injEq, Prod.mk.injEq] at h
    obtain ⟨_, _, _, rfl⟩ := h
    cases s with
    | nil => exact (notEmpty rfl).elim
    | cons c rest =>
      have : c ≠ '<' := fun e => notTag rest (by rw [e])
      have shorter := (List.dropWhile_suffix (fun c => decide (c ≠ '<')) (l := rest)).length_le
      rw [List.dropWhile_cons_of_pos (by simpa using this)]
      exact Nat.lt_succ_of_le shorter

end ReceiptFleet.Markup.Xml
