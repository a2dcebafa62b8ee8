import ReceiptFleet.Markup.Xml.Character

/-!
Reading from the front of a list of characters. Each reader gives what it read and what is left,
which is always a suffix of what it was given; a reader that must take something leaves less.
-/

namespace ReceiptFleet.Markup.Xml

/-- A qualified name: a qualifier, empty if there is none, and a local part. -/
structure Name where
  qualifier : String
  localPart : String
deriving DecidableEq, Inhabited

/-- An attribute as it is written: its name and its value. -/
abbrev Attribute := Name × String

/-- What is left behind white space. -/
def skipSpace (s : List Char) : List Char := s.dropWhile isSpace

/-- What is left behind a given beginning. -/
def after? : List Char → List Char → Option (List Char)
  | [], s => some s
  | _ :: _, [] => none
  | m :: mark, c :: s => if m = c then after? mark s else none

/-- The text before the first place where a mark stands, and what is left behind the mark. -/
def upTo? (mark : List Char) : List Char → Option (List Char × List Char)
  | [] => none
  | c :: rest =>
    match after? mark (c :: rest) with
    | some left => some ([], left)
    | none => (upTo? mark rest).map fun (before, left) => (c :: before, left)

/-- The text up to a mark, all of it allowed in a document. -/
def allowedUpTo? (mark s : List Char) : Option (List Char × List Char) :=
  (upTo? mark s).filter fun (before, _) => before.all isAllowed

/-- Whether a mark stands anywhere in a text. -/
def hasMark (mark s : List Char) : Bool := (upTo? mark s).isSome

/-- Whether a text is a name part: not empty, and begun by a character that may begin a name. -/
def isNamePart (s : List Char) : Bool :=
  match s with
  | [] => false
  | c :: _ => isNameStart c

/-- Reads a qualified name. The qualifier may be empty even where a colon follows; a second colon
is refused. -/
def name? (s : List Char) : Option (Name × List Char) :=
  let written := s.takeWhile isNameChar
  let left := s.dropWhile isNameChar
  let qualifier := written.takeWhile (· ≠ ':')
  match written.dropWhile (· ≠ ':') with
  | [] => if isNamePart written then some (⟨"", String.ofList written⟩, left) else none
  | _ :: localPart =>
    if (qualifier.isEmpty || isNamePart qualifier) && isNamePart localPart
      && !localPart.contains ':'
    then some (⟨String.ofList qualifier, String.ofList localPart⟩, left)
    else none

/-- Reads a quoted value and gives it as it is written. It holds no `<`. -/
def quoted? : List Char → Option (List Char × List Char)
  | quote :: s =>
    if quote = '"' ∨ quote = '\'' then
      let written := s.takeWhile fun c => c ≠ quote && c ≠ '<'
      match s.dropWhile fun c => c ≠ quote && c ≠ '<' with
      | close :: left => if close = quote ∧ written.all isAllowed then some (written, left) else none
      | [] => none
    else none
  | [] => none

/-- Reads a name, an equals sign and a quoted value. -/
def assignment? (s : List Char) : Option (Name × List Char × List Char) := do
  let (name, s) ← name? s
  let s ← after? ['='] (skipSpace s)
  let (written, s) ← quoted? (skipSpace s)
  return (name, written, s)

/-! ## What is left -/

/-- What is left behind white space is a suffix. -/
theorem skipSpace_suffix (s : List Char)
    : skipSpace s <:+ s :=
  List.dropWhile_suffix _

/-- What is left behind a beginning, put behind it, is the whole. -/
theorem append_of_after? {start s left : List Char} (h : after? start s = some left)
    : start ++ left = s := by
  induction start generalizing s with
  | nil => exact (Option.some.inj h).symm
  | cons m mark ih =>
    cases s with
    | nil => simp [after?] at h
    | cons c rest =>
      simp only [after?] at h
      split at h
      · rename_i same
        simp [same, ih h]
      · contradiction

/-- What is left behind a mark is a suffix. -/
theorem suffix_of_upTo? {mark s before left : List Char} (h : upTo? mark s = some (before, left))
    : left <:+ s := by
  induction s generalizing before left with
  | nil => simp [upTo?] at h
  | cons c rest ih =>
    simp only [upTo?] at h
    split at h
    · rename_i found
      obtain ⟨_, rfl⟩ := Prod.mk.inj (Option.some.inj h)
      exact ⟨mark, append_of_after? found⟩
    · obtain ⟨⟨before', left'⟩, found, same⟩ := Option.map_eq_some_iff.mp h
      obtain ⟨_, rfl⟩ := Prod.mk.inj same
      exact (ih found).trans (List.suffix_cons c rest)

/-- What is left behind a name is a suffix. -/
theorem suffix_of_name? {s left : List Char} {name : Name} (h : name? s = some (name, left))
    : left <:+ s := by
  simp only [name?] at h
  split at h <;> split at h <;> try contradiction
  all_goals
    obtain ⟨_, rfl⟩ := Prod.mk.inj (Option.some.inj h)
    exact List.dropWhile_suffix _

/-- What is left behind a quoted value is a suffix. -/
theorem suffix_of_quoted? {s written left : List Char} (h : quoted? s = some (written, left))
    : left <:+ s := by
  unfold quoted? at h
  split at h
  · rename_i quote s
    split at h <;> try contradiction
    dsimp only at h
    split at h <;> try contradiction
    rename_i close left' found
    split at h <;> try contradiction
    obtain ⟨_, rfl⟩ := Prod.mk.inj (Option.some.inj h)
    have tail : close :: left' <:+ s := found ▸ List.dropWhile_suffix _
    exact (List.suffix_cons close left').trans (tail.trans (List.suffix_cons quote s))
  · contradiction

/-- An assignment takes at least its equals sign. -/
theorem length_lt_of_assignment? {s written left : List Char} {name : Name}
    (h : assignment? s = some (name, written, left))
    : left.length < s.length := by
  simp only [assignment?, Option.pure_def, Option.bind_eq_bind, Option.bind_eq_some_iff,
    Option.some.injEq, Prod.mk.injEq, Prod.exists] at h
  obtain ⟨_, s₁, first, s₂, second, _, s₃, third, _, _, rfl⟩ := h
  have l₁ := (suffix_of_name? first).length_le
  have l₂ := congrArg List.length (append_of_after? second)
  have l₃ := (suffix_of_quoted? third).length_le
  have l₄ := (skipSpace_suffix s₁).length_le
  have l₅ := (skipSpace_suffix s₂).length_le
  simp at l₂
  omega

end ReceiptFleet.Markup.Xml
