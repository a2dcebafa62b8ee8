import ReceiptFleet.Markup.Parse
import ReceiptFleet.Proofs.Markup.ParsedText
import ReceiptFleet.Proofs.Markup.Readers

/-!
Places in a document. A place inside the root element is one that the reader of tokens comes to. What
was read in front of it stays as it is whatever is put behind it, so that a document is the tokens in
front of a place and then the tokens that the text behind it gives.
-/

namespace ReceiptFleet.Markup.Xml

variable {s left xml : List Char}

-----------------------------------------------------------------------------------------
-- Declarations
-----------------------------------------------------------------------------------------

/-- A reader inside a declaration, which goes by nothing that stands behind the end of it. -/
def Fenced (read : List Char → Option (List Char)) : Prop :=
  ∀ ⦃s u left⦄,
    read s = some (u ++ '?' :: '>' :: left)
    → ∃ t,
        s = t ++ '?' :: '>' :: left
        ∧ ∀ other, read (t ++ '?' :: '>' :: other) = some (u ++ '?' :: '>' :: other)

theorem fenced_some : Fenced some := by
  intro s u left read
  cases read
  exact ⟨u, rfl, fun _ => rfl⟩

theorem fenced_skipSpace : Fenced fun s => some (skipSpace s) := by
  intro s u left read
  obtain ⟨spaces, split, skips⟩ := exists_spaces s
  rw [Option.some.inj read] at split skips
  refine ⟨spaces ++ u, by simpa using split, fun other => ?_⟩
  rw [List.append_assoc]
  exact congrArg some (skips _ (head?_append_cons ..))

theorem fenced_assignment : Fenced fun s => (assignment? s).map (·.2.2) := by
  intro s u left read
  obtain ⟨⟨name, written, _⟩, assigned, same⟩ := Option.map_eq_some_iff.mp read
  cases same
  obtain ⟨taken, _, rfl, reads⟩ := closed_of_assignment? assigned
  refine ⟨taken ++ u, (List.append_assoc ..).symm, fun other => ?_⟩
  rw [List.append_assoc]
  exact congrArg (Option.map (·.2.2)) (reads _)

theorem Fenced.bind {first second : List Char → Option (List Char)} (one : Fenced first)
    (two : Fenced second)
    : Fenced fun s => (first s).bind second := by
  intro s u left read
  obtain ⟨s', begun, ended⟩ := Option.bind_eq_some_iff.mp read
  obtain ⟨t', rfl, further⟩ := two ended
  obtain ⟨t, rfl, reads⟩ := one begun
  refine ⟨t, rfl, fun other => ?_⟩
  exact Option.bind_eq_some_iff.mpr ⟨_, reads other, further other⟩

/-- Looking out for a word does not go beyond the question mark at the end of the declaration. -/
theorem Fenced.guarded {first second : List Char → Option (List Char)} {word : List Char}
    (one : Fenced first) (two : Fenced second) (plain : '?' ∉ word)
    : Fenced fun s => if (after? word s).isSome then first s else second s := by
  have sees (t left : List Char) : (after? word (t ++ '?' :: left)).isSome ↔ word <+: t ++ ['?'] := by
    rw [isSome_after?_iff, ← List.singleton_append, ← List.append_assoc,
      prefix_append_iff_of_mem (by simp : '?' ∈ t ++ ['?']) plain]
  intro s u left read
  dsimp only at read ⊢
  split at read
  case isTrue found =>
    obtain ⟨t, rfl, reads⟩ := one read
    refine ⟨t, rfl, fun other => ?_⟩
    rw [sees] at found
    rw [if_pos ((sees _ _).mpr found), reads]
  case isFalse missing =>
    obtain ⟨t, rfl, reads⟩ := two read
    refine ⟨t, rfl, fun other => ?_⟩
    rw [sees] at missing
    rw [if_neg fun found => missing ((sees _ _).mp found), reads]

theorem fenced_spaced : Fenced declaration?.spaced? := by
  intro s u left read
  obtain ⟨spaces, split, skips⟩ := exists_spaces s
  simp only [declaration?.spaced?] at read ⊢
  split at read
  case isTrue shorter =>
    rw [Option.some.inj read] at split skips shorter
    refine ⟨spaces ++ u, by simpa using split, fun other => ?_⟩
    have skipped := skips (u ++ '?' :: '>' :: other) (head?_append_cons ..)
    rw [List.append_assoc, skipped, if_pos]
    have lengths := congrArg List.length split
    rw [@List.length_append _ spaces] at lengths ⊢
    omega
  case isFalse stays =>
    simp only [Option.ite_none_right_eq_some, Option.some.injEq] at read
    obtain ⟨ends, rfl⟩ := read
    have none : spaces = [] := by
      have lengths := congrArg List.length split
      rw [@List.length_append _ spaces] at lengths
      exact List.eq_nil_of_length_eq_zero (by omega)
    rw [none, List.nil_append] at split
    have sees (left : List Char)
        : (after? ['?', '>'] (u ++ '?' :: '>' :: left)).isSome ↔ ['?', '>'] <+: u ++ ['?', '>'] := by
      have whole : u ++ '?' :: '>' :: left = u ++ ['?', '>'] ++ left := by simp
      rw [isSome_after?_iff, whole, prefix_append_iff_of_length (by simp)]
    have nonempty (left : List Char) : (u ++ '?' :: '>' :: left).isEmpty = false := by simp
    rw [nonempty, Bool.false_or, sees] at ends
    refine ⟨u, rfl, fun other => ?_⟩
    have skipped : skipSpace (u ++ '?' :: '>' :: other) = u ++ '?' :: '>' :: other := by
      rw [none] at skips
      refine skips _ ?_
      rw [← split]
      exact head?_append_cons ..
    rw [skipped, if_neg (Nat.lt_irrefl _), nonempty, Bool.false_or, if_pos ((sees other).mpr ends)]

/-- What a declaration has in front of its end, with the white space there. -/
def declarationBody? (s : List Char) : Option (List Char) :=
  ((((declaration?.spaced? s).bind declaration?.versioned?).bind declaration?.spaced?).bind
    (declaration?.optional? ['e', 'n', 'c', 'o', 'd', 'i', 'n', 'g'])).bind fun s =>
      (if (after? ['s', 't', 'a', 'n', 'd', 'a', 'l', 'o', 'n', 'e'] s).isSome
        then (assignment? s).map (·.2.2) else some s).bind fun s => some (skipSpace s)

theorem declaration?_eq (s : List Char)
    : declaration? s = (declarationBody? s).bind (after? ['?', '>']) := by
  have pushed (found : Bool) (one two : Option (List Char)) (rest : List Char → Option (List Char))
      : (if found = true then one else two).bind rest
        = if found = true then one.bind rest else two.bind rest := by
    split <;> rfl
  simp only [declaration?, declarationBody?, Option.bind_eq_bind, Option.bind_assoc, pushed,
    Option.bind_some]

theorem fenced_declarationBody : Fenced declarationBody? := by
  have version : Fenced declaration?.versioned? :=
    fenced_assignment.guarded (fun _ _ _ read => nomatch read) (by decide)
  have encoding : Fenced (declaration?.optional? ['e', 'n', 'c', 'o', 'd', 'i', 'n', 'g']) :=
    (fenced_assignment.bind fenced_spaced).guarded fenced_some (by decide)
  have standalone
      : Fenced fun s =>
          if (after? ['s', 't', 'a', 'n', 'd', 'a', 'l', 'o', 'n', 'e'] s).isSome
          then (assignment? s).map (·.2.2) else some s :=
    fenced_assignment.guarded fenced_some (by decide)
  exact (((fenced_spaced.bind version).bind fenced_spaced).bind encoding).bind
    (standalone.bind fenced_skipSpace)

/-- A declaration goes by nothing that stands behind it. -/
theorem closed_of_declaration? (read : declaration? s = some left)
    : Closed (fun s left => declaration? s = some left) s left := by
  rw [declaration?_eq] at read
  obtain ⟨ending, inside, ends⟩ := Option.bind_eq_some_iff.mp read
  rw [← append_of_after? ends] at inside
  obtain ⟨t, rfl, reads⟩ := fenced_declarationBody (u := []) inside
  refine ⟨t ++ ['?', '>'], by simp, by simp, fun other => ?_⟩
  show declaration? (t ++ ['?', '>'] ++ other) = some other
  rw [declaration?_eq, List.append_assoc]
  exact Option.bind_eq_some_iff.mpr ⟨_, reads other, rfl⟩

-----------------------------------------------------------------------------------------
-- What stands in front of the root
-----------------------------------------------------------------------------------------

theorem aside_of_beginsAside {token : Token} (begins : beginsAside s = true)
    (read : token? s = some (token, left))
    : token = .aside := by
  rw [beginsAside, Bool.or_eq_true, isSome_after?_iff, isSome_after?_iff] at begins
  rcases begins with ⟨rest, rfl⟩ | ⟨rest, rfl⟩
  · obtain ⟨⟨content, _⟩, _, read⟩ := Option.bind_eq_some_iff.mp (read : comment? rest = _)
    dsimp only at read
    split at read <;> cases read
    rfl
  · replace read : instruction? rest = some (token, left) := read
    simp only [instruction?] at read
    split at read
    case isTrue => cases read
    case isFalse =>
      split at read
      case isTrue =>
        obtain ⟨_, _, same⟩ := Option.bind_eq_some_iff.mp read
        cases same
        rfl
      case isFalse => cases read

theorem beginsAside_of_aside (read : token? s = some (.aside, left))
    : beginsAside s = true := by
  unfold token? at read
  split at read
  case h_1 => cases read
  case h_2 s =>
    split at read
    case h_1 behind found => simp [beginsAside, after?, found]
    case h_2 =>
      simp only [Option.bind_eq_some_iff, section?, Option.pure_def, Option.bind_eq_bind,
        Option.some.injEq, Prod.mk.injEq, reduceCtorEq, false_and, and_false, exists_false] at read
  case h_3 => simp [beginsAside, after?]
  case h_4 =>
    simp only [closeTag?, Option.bind_eq_some_iff, Option.pure_def, Option.bind_eq_bind,
      Option.some.injEq, Prod.mk.injEq, reduceCtorEq, false_and, and_false, exists_false] at read
  case h_5 =>
    simp only [startTag?, Option.bind_eq_some_iff, Option.pure_def, Option.bind_eq_bind,
      Option.some.injEq, Prod.mk.injEq, Prod.exists] at read
    obtain ⟨_, _, _, _, ending, _, _, same, _⟩ := read
    cases ending <;> cases same
  case h_6 => exact absurd trivial (not_isMarkup_of_run? read)

/-- An element is no aside. -/
theorem beginsAside_of_nameChar {c : Char} (nameChar : isNameChar c = true) (rest : List Char)
    : beginsAside ('<' :: c :: rest) = false := by
  have other : '!' ≠ c ∧ '?' ≠ c := by
    refine ⟨?_, ?_⟩ <;> rintro rfl <;> exact absurd nameChar (by decide)
  simp [beginsAside, after?, other]

theorem skipAsides?_of_aside {behind : List Char}
    (read : token? (skipSpace s) = some (.aside, behind))
    : skipAsides? s = skipAsides? behind := by
  fun_cases skipAsides? s with
  | case1 _ stuck => cases stuck.symm.trans read
  | case2 _ _ _ found =>
      cases found.symm.trans read
      rfl
  | case3 other => exact absurd (beginsAside_of_aside read) other

theorem skipAsides?_of_not_beginsAside (other : beginsAside (skipSpace s) = false)
    : skipAsides? s = some (skipSpace s) := by
  fun_cases skipAsides? s with
  | case1 begins | case2 begins => cases begins.symm.trans other
  | case3 => rfl

/-- Where the root begins is found again whatever stands behind its first character. The induction is
over what stands in front of it. -/
theorem exists_of_skipAsides? {c : Char} (nameChar : isNameChar c = true)
    (read : skipAsides? s = some ('<' :: c :: left))
    : ∃ taken,
        s = taken ++ '<' :: c :: left
        ∧ ∀ other, skipAsides? (taken ++ '<' :: c :: other) = some ('<' :: c :: other) := by
  fun_induction skipAsides? s with
  | case1 => cases read
  | case2 s begins token behind found _ ih =>
      obtain rfl := aside_of_beginsAside begins found
      obtain ⟨inner, rfl, further⟩ := ih read
      obtain ⟨spaces, split, skips⟩ := exists_spaces s
      have uncut : ¬ Token.aside.IsCut := id
      obtain ⟨aside, nonempty, whole, reads⟩ := bounded_of_token? uncut found
      rw [whole] at split skips
      refine ⟨spaces ++ (aside ++ inner), by simpa using split, fun other => ?_⟩
      have skipped := skips (aside ++ (inner ++ '<' :: c :: other)) (head?_append_congr nonempty _ _)
      rw [List.append_assoc, List.append_assoc, skipAsides?_of_aside, further]
      rw [skipped]
      exact reads _ (.inl trivial)
  | case3 s other =>
      obtain ⟨spaces, split, skips⟩ := exists_spaces s
      rw [Option.some.inj read] at split skips
      refine ⟨spaces, split, fun other => ?_⟩
      have skipped := skips ('<' :: c :: other) rfl
      rw [skipAsides?_of_not_beginsAside, skipped]
      rw [skipped]
      exact beginsAside_of_nameChar nameChar other

/-- What begins as a declaration has no root if it is not read as one. -/
theorem skipAsides?_declaration (rest : List Char)
    : skipAsides? ('<' :: '?' :: 'x' :: 'm' :: 'l' :: ' ' :: rest) = none := by
  fun_cases skipAsides? ('<' :: '?' :: 'x' :: 'm' :: 'l' :: ' ' :: rest) with
  | case1 => rfl
  | case2 begins _ _ found => cases found
  | case3 other => exact absurd rfl other

/-- What is left behind a declaration, if there is one, and all asides. -/
def opening? (s : List Char) : Option (List Char) :=
  ((after? ['<', '?', 'x', 'm', 'l', ' '] s).elim (some s) fun rest => declaration? (' ' :: rest)).bind
    skipAsides?

theorem prologue?_mark (s : List Char)
    : prologue? ('\uFEFF' :: s) = opening? s := by
  simp only [prologue?, opening?]
  cases after? ['<', '?', 'x', 'm', 'l', ' '] s <;> rfl

theorem prologue?_of_ne (ne : s.head? ≠ some '\uFEFF')
    : prologue? s = opening? s := by
  cases s with
  | nil => rfl
  | cons c rest =>
      have other : ∀ behind, c :: rest = '\uFEFF' :: behind → False := by
        rintro behind same
        cases same
        exact ne rfl
      simp only [prologue?, opening?]
      cases after? ['<', '?', 'x', 'm', 'l', ' '] (c :: rest) <;> rfl

theorem exists_of_opening? {c : Char} (nameChar : isNameChar c = true)
    (read : opening? s = some ('<' :: c :: left))
    : ∃ taken,
        s = taken ++ '<' :: c :: left
        ∧ ∀ other, opening? (taken ++ '<' :: c :: other) = some ('<' :: c :: other) := by
  cases found : after? ['<', '?', 'x', 'm', 'l', ' '] s with
  | some rest =>
      rw [opening?, found] at read
      obtain ⟨behind, declared, read⟩ := Option.bind_eq_some_iff.mp read
      obtain ⟨asides, rfl, skips⟩ := exists_of_skipAsides? nameChar read
      obtain ⟨inner, nonempty, split, reads⟩ := closed_of_declaration? declared
      obtain ⟨space, inner, rfl⟩ := List.exists_cons_of_ne_nil nonempty
      obtain ⟨rfl, rfl⟩ := List.cons.inj split
      refine ⟨'<' :: '?' :: 'x' :: 'm' :: 'l' :: ' ' :: (inner ++ asides), ?_, fun other => ?_⟩
      · rw [← append_of_after? found]
        simp
      · have declared' := reads (asides ++ '<' :: c :: other)
        rw [← List.append_assoc] at declared'
        exact Option.bind_eq_some_iff.mpr ⟨_, declared', skips other⟩
  | none =>
      rw [opening?, found] at read
      obtain ⟨taken, rfl, skips⟩ := exists_of_skipAsides? nameChar read
      refine ⟨taken, rfl, fun other => ?_⟩
      have undeclared
          : after? ['<', '?', 'x', 'm', 'l', ' '] (taken ++ '<' :: c :: other) = none := by
        rw [after?_eq_none_iff]
        rintro ⟨rest, begins⟩
        have skipped := skips other
        rw [← begins] at skipped
        exact nomatch (skipAsides?_declaration rest).symm.trans skipped
      rw [opening?, undeclared]
      exact skips other

/-- The root of a document begins where it does whatever stands behind the first character of its
name. -/
theorem exists_of_prologue? {c : Char} (nameChar : isNameChar c = true)
    (read : prologue? xml = some ('<' :: c :: left))
    : ∃ taken,
        xml = taken ++ '<' :: c :: left
        ∧ ∀ other, prologue? (taken ++ '<' :: c :: other) = some ('<' :: c :: other) := by
  by_cases marked : xml.head? = some '\uFEFF'
  · obtain ⟨rest, rfl⟩ := List.head?_eq_some_iff.mp marked
    rw [prologue?_mark] at read
    obtain ⟨taken, rfl, opens⟩ := exists_of_opening? nameChar read
    refine ⟨'\uFEFF' :: taken, rfl, fun other => ?_⟩
    rw [List.cons_append, prologue?_mark, opens]
  · rw [prologue?_of_ne marked] at read
    obtain ⟨taken, rfl, opens⟩ := exists_of_opening? nameChar read
    refine ⟨taken, rfl, fun other => ?_⟩
    rw [prologue?_of_ne, opens]
    rwa [head?_append_cons taken '<' (c :: other) (c :: left)]

-----------------------------------------------------------------------------------------
-- Places
-----------------------------------------------------------------------------------------

/-- The text `left` is what the reader of tokens comes to in a document, inside of the root or right
behind it, when it has read these tokens and this many elements are open. -/
inductive Inside (xml : List Char) : List Token → Nat → List Char → Prop where
  | start {body left : List Char} {name : Name} {attributes : List Attribute}
    (begins : prologue? xml = some ('<' :: body))
    (opens : startTag? body = some (.openTag name attributes, left))
    : Inside xml [.openTag name attributes] 1 left
  | next {tokens : List Token} {depth : Nat} {s left : List Char} {token : Token}
    (inside : Inside xml tokens depth s) (among : depth ≠ 0) (uncut : ¬ token.IsCut)
    (read : token? s = some (token, left))
    : Inside xml (tokens ++ [token]) (token.depth depth) left

/-- The last of some tokens is a tag, a comment or a processing instruction. -/
def EndsInMarkup (tokens : List Token) : Prop := ∃ token, tokens.getLast? = some token ∧ token.IsMarkup

variable {tokens : List Token} {depth : Nat}

/-- What is read in front of a place is read there whatever stands behind it if it ends in markup, and
always in front of markup and of all that begins alike. The induction is over the tokens. -/
theorem Inside.elsewhere (inside : Inside xml tokens depth left)
    : ∃ before,
        xml = before ++ left
        ∧ ∀ other,
            EndsInMarkup tokens ∨ other.head? = left.head? ∨ other.head? = some '<'
            → Inside (before ++ other) tokens depth other := by
  induction inside with
  | @start body left name attributes begins opens =>
      have uncut : ¬ (Token.openTag name attributes).IsCut := id
      obtain ⟨tag, nonempty, rfl, reads⟩ := closed_of_startTag? uncut opens
      obtain ⟨c, inner, rfl⟩ := List.exists_cons_of_ne_nil nonempty
      obtain ⟨_, _, same, nameChar⟩ := exists_nameChar_of_startTag? opens
      cases same
      obtain ⟨taken, rfl, finds⟩ := exists_of_prologue? nameChar begins
      refine ⟨taken ++ '<' :: c :: inner, by simp, fun other _ => ?_⟩
      rw [List.append_assoc]
      exact .start (finds _) (reads other)
  | @next tokens depth s left token inside among uncut read ih =>
      obtain ⟨before, rfl, places⟩ := ih
      obtain ⟨taken, nonempty, rfl, reads⟩ := bounded_of_token? uncut read
      refine ⟨before ++ taken, by simp, fun other alike => ?_⟩
      rw [List.append_assoc]
      refine .next (places _ (.inr (.inl ?_))) among uncut (reads other ?_)
      · exact head?_append_congr nonempty _ _
      · refine alike.imp_left fun ⟨last, ends, markup⟩ => ?_
        rw [List.getLast?_concat] at ends
        exact Option.some.inj ends ▸ markup

/-- A document with a root is not blank. -/
theorem Inside.not_blank (inside : Inside xml tokens depth left)
    : Text.isAllBlank xml = false := by
  induction inside with
  | start begins opens =>
      obtain ⟨c, rest, rfl, nameChar⟩ := exists_nameChar_of_startTag? opens
      obtain ⟨taken, rfl, _⟩ := exists_of_prologue? nameChar begins
      rw [Text.isAllBlank, List.all_eq_false]
      exact ⟨'<', by simp, by decide⟩
  | next _ _ _ _ ih => exact ih

/-- The tokens of a document are those in front of a place and those that are read from there. -/
theorem Inside.tokens?_eq (inside : Inside xml tokens depth left)
    : tokens? xml
      = (content? depth left).bind fun content =>
          (skipAsides? content.2).bind fun rest =>
            if rest.isEmpty then some (tokens ++ content.1) else none := by
  induction inside with
  | start begins opens =>
      simp only [tokens?, begins, opens, Option.bind_eq_bind, Option.bind_some, Token.depth]
      rfl
  | @next _ depth _ left token inside among uncut read ih =>
      rw [ih, content?_of_token? among read]
      cases content? (token.depth depth) left with
      | none => rfl
      | some content => simp

/-- Tokens that close as many elements as are open, the last of them with the last token. -/
inductive Closes : Nat → List Token → Prop where
  | nil : Closes 0 []
  | next {depth : Nat} {token : Token} {rest : List Token} (among : depth ≠ 0) (uncut : ¬ token.IsCut)
    (further : Closes (token.depth depth) rest)
    : Closes depth (token :: rest)

/-- The content of an element closes it. The induction is over the text. -/
theorem closes_of_content? (read : content? depth s = some (tokens, left))
    : Closes depth tokens := by
  fun_induction content? depth s generalizing tokens with
  | case1 =>
      cases read
      exact .nil
  | case2 => cases read
  | case3 depth s among token behind found _ ih =>
      obtain ⟨⟨rest, _⟩, further, same⟩ := Option.map_eq_some_iff.mp read
      cases same
      refine .next among (fun cut => ?_) (ih further)
      obtain rfl := left_of_isCut cut found
      cases token with
      | cutTag name attributes => simp [content?, token?, Token.depth] at further
      | openTag | emptyTag | closeTag | text | aside => exact cut.elim

-----------------------------------------------------------------------------------------
-- Runs of text
-----------------------------------------------------------------------------------------

/-- A text that can be read as a run of text in front of markup; it may be empty. -/
structure Plain (s : List Char) : Prop where
  untagged : '<' ∉ s
  allowed : s.all isAllowed = true
  unmarked : hasMark [']', ']', '>'] s = false
  readable : (text? s).isSome = true

/-- What a run of text stands for; nothing if it cannot be read. -/
def meaning (s : List Char) : List Char := (text? s).getD []

/-- The token of a run of text, if there is one. -/
def textTokens (s : List Char) : List Token := if s = [] then [] else [.text (meaning s)]

/-- In front of markup a run of text is read as its token. -/
theorem content?_of_plain {behind : List Char} (plain : Plain s) (stops : behind.head? = some '<')
    (among : depth ≠ 0)
    : content? depth (s ++ behind)
      = (content? depth behind).map (Prod.map (textTokens s ++ ·) id) := by
  by_cases empty : s = []
  · subst empty
    rw [textTokens, if_pos rfl, List.nil_append]
    exact Option.map_id'.symm
  · obtain ⟨content, meant⟩ := Option.isSome_iff_exists.mp plain.readable
    have markup : ∀ c ∈ behind.head?, c = '<' := by
      rintro c begins
      exact Option.some.inj (begins.symm.trans stops)
    have read : token? (s ++ behind) = some (.text content, behind) := by
      rw [token?_of_untagged empty plain.untagged markup, plain.allowed, plain.unmarked, meant]
      rfl
    rw [content?_of_token? among read, textTokens, if_neg empty, meaning, meant]
    rfl

end ReceiptFleet.Markup.Xml
