import ReceiptFleet.Markup.Parse
import ReceiptFleet.Proofs.Markup.PrintedText

/-!
The characters of a parsed document. Whatever is written in it, as text, as the value of an attribute or
by a reference, holds only characters that XML allows; in particular it holds no escape character, so
that no text can spell a command of the printer.
-/

namespace ReceiptFleet.Markup.Xml

/-- Characters that may all stand in a document. -/
def Allowed (s : List Char) : Prop := ∀ c ∈ s, isAllowed c = true

theorem allowed_of_all {s : List Char} (all : s.all isAllowed = true) : Allowed s :=
  List.all_eq_true.mp all

theorem allowed_nil : Allowed [] :=
  fun _ member => absurd member List.not_mem_nil

theorem Allowed.cons {c : Char} {s : List Char} (first : isAllowed c = true) (rest : Allowed s)
    : Allowed (c :: s) :=
  List.forall_mem_cons.mpr ⟨first, rest⟩

theorem Allowed.append {s t : List Char} (one : Allowed s) (two : Allowed t)
    : Allowed (s ++ t) :=
  List.forall_mem_append.mpr ⟨one, two⟩

-----------------------------------------------------------------------------------------
-- References
-----------------------------------------------------------------------------------------

theorem isAllowed_of_numberedChar? {number : Nat} {c : Char} (read : numberedChar? number = some c)
    : isAllowed c = true := by
  simp only [numberedChar?, Option.ite_none_right_eq_some] at read
  obtain ⟨_, allowed, same⟩ := read
  exact Option.some.inj same ▸ allowed

theorem isAllowed_of_referenced? {s : List Char} {c : Char} (read : referenced? s = some c)
    : isAllowed c = true := by
  unfold referenced? at read
  split at read
  case h_6 | h_7 =>
    obtain ⟨number, _, numbered⟩ := Option.bind_eq_some_iff.mp read
    exact isAllowed_of_numberedChar? numbered
  case h_8 => cases read
  all_goals
    rw [← Option.some.inj read]
    decide

/-- The character of a piece. -/
def Piece.character : Piece → Char
  | .literal c => c
  | .reference c => c

/-- Pieces hold the characters that are written, and those that references stand for. The induction is
over the written characters. -/
theorem allowed_of_piecesFrom? {name : Option (List Char)} {s : List Char} {pieces : List Piece}
    (written : Allowed s) (read : piecesFrom? name s = some pieces)
    : Allowed (pieces.map Piece.character) := by
  induction s generalizing name pieces with
  | nil =>
      simp only [piecesFrom?, Option.ite_none_right_eq_some] at read
      rw [← Option.some.inj read.2]
      exact allowed_nil
  | cons c rest ih =>
      obtain ⟨first, later⟩ := List.forall_mem_cons.mp written
      cases name with
      | none =>
          simp only [piecesFrom?] at read
          split at read
          · exact ih later read
          · obtain ⟨others, found, rfl⟩ := Option.map_eq_some_iff.mp read
            exact (ih later found).cons first
      | some name =>
          simp only [piecesFrom?] at read
          split at read
          · obtain ⟨character, referenced, read⟩ := Option.bind_eq_some_iff.mp read
            obtain ⟨others, found, same⟩ := Option.bind_eq_some_iff.mp read
            rw [← Option.some.inj same]
            exact (ih later found).cons (isAllowed_of_referenced? referenced)
          · exact ih later read

/-- Reading line ends adds no characters but newlines, by induction along the pieces. -/
theorem forall_mem_textFrom {P : Char → Prop} (newline : P '\n') {asIs : Bool} {done : List Char}
    {pieces : List Piece} (before : ∀ c ∈ done, P c) (given : ∀ c ∈ pieces.map Piece.character, P c)
    : ∀ c ∈ textFrom asIs done pieces, P c := by
  fun_induction textFrom asIs done pieces with
  | case1 asIs done => exact fun c member => before c (List.mem_reverse.mp member)
  | case2 asIs done c rest ih | case3 done c rest ih =>
      obtain ⟨first, later⟩ := List.forall_mem_cons.mp given
      exact ih (List.forall_mem_cons.mpr ⟨first, before⟩) later
  | case4 asIs c rest _ _ kept _ ih =>
      have later := (List.forall_mem_cons.mp given).2
      have keptGiven := (List.forall_mem_cons.mp before).2
      exact ih (List.forall_mem_cons.mpr ⟨newline, List.forall_mem_cons.mpr ⟨newline, keptGiven⟩⟩) later
  | case5 asIs rest _ kept _ _ ih =>
      have later := (List.forall_mem_cons.mp given).2
      have keptGiven := (List.forall_mem_cons.mp before).2
      exact ih (List.forall_mem_cons.mpr ⟨newline, keptGiven⟩) later
  | case6 asIs c rest _ _ kept _ _ ih =>
      obtain ⟨first, later⟩ := List.forall_mem_cons.mp given
      have keptGiven := (List.forall_mem_cons.mp before).2
      exact ih (List.forall_mem_cons.mpr ⟨first, List.forall_mem_cons.mpr ⟨newline, keptGiven⟩⟩) later
  | case7 asIs done c rest _ last _ ih =>
      obtain ⟨first, later⟩ := List.forall_mem_cons.mp given
      refine ih (List.forall_mem_cons.mpr ⟨?_, before⟩) later
      split
      · exact newline
      · exact first

theorem allowed_textFrom {asIs : Bool} {done : List Char} {pieces : List Piece}
    (before : Allowed done) (allowed : Allowed (pieces.map Piece.character))
    : Allowed (textFrom asIs done pieces) :=
  forall_mem_textFrom (by decide) before allowed

theorem allowed_of_text? {s content : List Char} (written : Allowed s) (read : text? s = some content)
    : Allowed content := by
  obtain ⟨pieces, found, rfl⟩ := Option.map_eq_some_iff.mp read
  exact allowed_textFrom allowed_nil (allowed_of_piecesFrom? written found)

theorem allowed_plainText {s : List Char} (written : Allowed s)
    : Allowed (plainText s) := by
  have characters : (s.map Piece.literal).map Piece.character = s := by
    rw [List.map_map]
    exact List.map_id s
  exact allowed_textFrom allowed_nil (characters.symm ▸ written)

theorem allowed_attributeFrom {pieces : List Piece} (allowed : Allowed (pieces.map Piece.character))
    : Allowed (attributeFrom pieces) := by
  have space : isAllowed ' ' = true := by decide
  fun_induction attributeFrom pieces with
  | case1 => exact allowed_nil
  | case2 rest ih =>
      have later := (List.forall_mem_cons.mp (List.forall_mem_cons.mp allowed).2).2
      exact (ih later).cons space
  | case3 c rest _ ih =>
      obtain ⟨first, later⟩ := List.forall_mem_cons.mp allowed
      refine (ih later).cons ?_
      split
      · exact space
      · exact first
  | case4 c rest ih =>
      obtain ⟨first, later⟩ := List.forall_mem_cons.mp allowed
      exact (ih later).cons first

theorem allowed_of_attributeValue? {s value : List Char} (written : Allowed s)
    (read : attributeValue? s = some value)
    : Allowed value := by
  obtain ⟨pieces, found, rfl⟩ := Option.map_eq_some_iff.mp read
  exact allowed_attributeFrom (allowed_of_piecesFrom? written found)

-----------------------------------------------------------------------------------------
-- Tokens
-----------------------------------------------------------------------------------------

/-- Attributes whose values hold allowed characters. -/
def AllowedValues (attributes : List Attribute) : Prop := ∀ a ∈ attributes, Allowed a.2.toList

theorem allowedValues_nil : AllowedValues [] :=
  fun _ member => absurd member List.not_mem_nil

/-- A token that holds allowed characters, as text and in the values of attributes. -/
def Token.Allowed : Token → Prop
  | .openTag _ attributes | .emptyTag _ attributes | .cutTag _ attributes => AllowedValues attributes
  | .text content => Xml.Allowed content
  | .closeTag _ | .aside => True

theorem allowed_of_quoted? {s written left : List Char} (read : quoted? s = some (written, left))
    : Allowed written := by
  unfold quoted? at read
  split at read
  · split at read
    · dsimp only at read
      split at read
      · simp only [Option.ite_none_right_eq_some, Option.some.injEq, Prod.mk.injEq] at read
        obtain ⟨⟨_, all⟩, rfl, _⟩ := read
        exact allowed_of_all all
      · cases read
    · cases read
  · cases read

theorem allowed_of_assignment? {s written left : List Char} {name : Name}
    (read : assignment? s = some (name, written, left))
    : Allowed written := by
  simp only [assignment?, Option.pure_def, Option.bind_eq_bind, Option.bind_eq_some_iff,
    Option.some.injEq, Prod.mk.injEq, Prod.exists] at read
  obtain ⟨_, _, _, _, _, _, _, quoted, _, rfl, _⟩ := read
  exact allowed_of_quoted? quoted

/-- The values of attributes are allowed, by induction over the text that they are read from. -/
theorem allowed_of_attributes? {s left : List Char} {attributes : List Attribute} {ending : TagEnd}
    (read : attributes? s = some (attributes, ending, left))
    : AllowedValues attributes := by
  fun_induction attributes? s generalizing attributes ending left with
  | case1 | case3 | case4 =>
      cases read
      exact allowedValues_nil
  | case2 | case5 | case6 => cases read
  | case7 s _ _ name written left' found shorter _ _ _ ih =>
      simp only [Option.pure_def, Option.bind_eq_bind, Option.bind_eq_some_iff, Option.some.injEq,
        Prod.mk.injEq, Prod.exists] at read
      obtain ⟨value, valued, others, _, _, tail, rfl, _⟩ := read
      refine List.forall_mem_cons.mpr ⟨?_, ih tail⟩
      rw [String.toList_ofList]
      exact allowed_of_attributeValue? (allowed_of_assignment? found) valued

theorem allowed_of_allowedUpTo? {mark s before left : List Char}
    (read : allowedUpTo? mark s = some (before, left))
    : Allowed before :=
  allowed_of_all (Option.filter_eq_some_iff.mp read).2

theorem allowed_of_startTag? {s left : List Char} {token : Token}
    (read : startTag? s = some (token, left))
    : token.Allowed := by
  simp only [startTag?, Option.pure_def, Option.bind_eq_bind, Option.bind_eq_some_iff,
    Option.some.injEq, Prod.mk.injEq, Prod.exists] at read
  obtain ⟨_, _, _, attributes, ending, _, found, rfl, _⟩ := read
  have values := allowed_of_attributes? found
  cases ending <;> exact values

/-- A token holds allowed characters. The cases are those of its beginning. -/
theorem allowed_of_token? {s left : List Char} {token : Token} (read : token? s = some (token, left))
    : token.Allowed := by
  unfold token? at read
  split at read
  case h_1 => cases read
  case h_2 =>
    split at read
    · simp only [comment?, Option.bind_eq_bind, Option.bind_eq_some_iff, Prod.exists] at read
      obtain ⟨_, _, _, read⟩ := read
      split at read
      · cases read
      · cases read
        trivial
    · simp only [Option.bind_eq_some_iff, section?, Option.pure_def, Option.bind_eq_bind,
        Option.some.injEq, Prod.mk.injEq, Prod.exists] at read
      obtain ⟨_, _, content, _, found, rfl, _⟩ := read
      exact allowed_plainText (allowed_of_allowedUpTo? found)
  case h_3 =>
    simp only [instruction?] at read
    split at read
    · cases read
    · split at read
      · simp only [Option.pure_def, Option.bind_eq_bind, Option.bind_eq_some_iff,
          Option.some.injEq, Prod.mk.injEq, Prod.exists] at read
        obtain ⟨_, _, _, rfl, _⟩ := read
        trivial
      · cases read
  case h_4 =>
    simp only [closeTag?, Option.pure_def, Option.bind_eq_bind, Option.bind_eq_some_iff,
      Option.some.injEq, Prod.mk.injEq, Prod.exists] at read
    obtain ⟨_, _, _, _, _, rfl, _⟩ := read
    trivial
  case h_5 => exact allowed_of_startTag? read
  case h_6 =>
    simp only [run?, Option.pure_def, Option.bind_eq_bind] at read
    split at read
    case isTrue sound =>
      simp only [Option.bind_eq_some_iff, Option.some.injEq, Prod.mk.injEq] at read
      obtain ⟨content, found, rfl, _⟩ := read
      simp only [Bool.and_eq_true] at sound
      exact allowed_of_text? (allowed_of_all sound.1) found
    case isFalse => cases read

/-- Content goes on behind its first token. -/
theorem content?_of_token? {depth : Nat} {s left : List Char} {token : Token} (inside : depth ≠ 0)
    (read : token? s = some (token, left))
    : content? depth s
      = (content? (token.depth depth) left).map (Prod.map (token :: ·) id) := by
  fun_cases content? depth s with
  | case1 outside => exact absurd outside inside
  | case2 _ stuck => exact absurd (stuck.symm.trans read) nofun
  | case3 _ other after found =>
      cases found.symm.trans read
      rfl

/-- The content of an element is made of such tokens, by induction over its text. -/
theorem allowed_of_content? {depth : Nat} {s left : List Char} {tokens : List Token}
    (read : content? depth s = some (tokens, left))
    : ∀ token ∈ tokens, token.Allowed := by
  fun_induction content? depth s generalizing tokens left with
  | case1 =>
      cases read
      exact fun _ member => absurd member List.not_mem_nil
  | case2 => cases read
  | case3 depth s _ token left' found _ ih =>
      obtain ⟨⟨others, left'⟩, later, same⟩ := Option.map_eq_some_iff.mp read
      cases same
      exact List.forall_mem_cons.mpr ⟨allowed_of_token? found, ih later⟩

theorem allowed_of_tokens? {s : List Char} {tokens : List Token} (read : tokens? s = some tokens)
    : ∀ token ∈ tokens, token.Allowed := by
  obtain ⟨body, _, read⟩ := Option.bind_eq_some_iff.mp read
  split at read
  case h_1 =>
    cases read
    exact fun _ member => absurd member List.not_mem_nil
  case h_2 rest =>
    obtain ⟨⟨tag, left⟩, started, read⟩ := Option.bind_eq_some_iff.mp read
    have tagAllowed := allowed_of_startTag? started
    dsimp only at read
    split at read
    · cases read
      exact List.forall_mem_singleton.mpr tagAllowed
    · simp only [Option.bind_eq_bind, Option.bind_eq_some_iff, Prod.exists,
        Option.ite_none_right_eq_some, Option.some.injEq] at read
      obtain ⟨inner, _, found, _, _, _, rfl⟩ := read
      exact List.forall_mem_cons.mpr ⟨tagAllowed, allowed_of_content? found⟩
  case h_3 => cases read

-----------------------------------------------------------------------------------------
-- Trees
-----------------------------------------------------------------------------------------

/-- Texts that hold allowed characters. -/
def AllTexts (texts : List String) : Prop := ∀ s ∈ texts, Allowed s.toList

theorem allTexts_nil : AllTexts [] :=
  fun _ member => absurd member List.not_mem_nil

theorem AllTexts.append {one two : List String} (first : AllTexts one) (second : AllTexts two)
    : AllTexts (one ++ two) :=
  List.forall_mem_append.mpr ⟨first, second⟩

/-- What every step keeps is kept by all of them, by induction over the items. -/
theorem keeps_foldlM {α β : Type} {P : β → Prop} {step : β → α → Option β} {items : List α}
    (keeps : ∀ {before item after}, item ∈ items → step before item = some after → P before → P after)
    {start done : β} (initial : P start) (run : items.foldlM step start = some done)
    : P done := by
  induction items generalizing start with
  | nil => exact Option.some.inj run ▸ initial
  | cons first rest ih =>
      rw [List.foldlM_cons] at run
      obtain ⟨next, stepped, later⟩ := Option.bind_eq_some_iff.mp run
      exact ih (fun among => keeps (List.mem_cons_of_mem _ among))
        (keeps List.mem_cons_self stepped initial) later

/-- Taking up an attribute adds it to the others or, if it is a declaration, not. -/
theorem attributes_of_add? {d next : Declared} {added : Attribute} (read : d.add? added = some next)
    : next.attributes = d.attributes ∨ next.attributes = d.attributes ++ [added] := by
  unfold Declared.add? at read
  grind

theorem allowed_of_declared? {attributes : List Attribute} {declared : Declared}
    (values : AllowedValues attributes) (read : declared? attributes = some declared)
    : AllowedValues declared.attributes := by
  have start : AllowedValues (Declared.attributes {}) := allowedValues_nil
  refine keeps_foldlM (P := fun d : Declared => AllowedValues d.attributes) ?_ start read
  intro before added after among stepped kept
  rcases attributes_of_add? stepped with same | more
  · exact same ▸ kept
  · rw [more]
    exact List.forall_mem_append.mpr ⟨kept, List.forall_mem_singleton.mpr (values added among)⟩

/-- Attributes keep their values when they are resolved, by induction over them. -/
theorem allowed_of_resolve? {scope : Scope} {seen : List (Option String × String)}
    {start resolved : Keyed String} {attributes : List Attribute}
    (before : AllTexts (start.entries.map Prod.snd)) (values : AllowedValues attributes)
    (read : resolve? scope seen start attributes = some resolved)
    : AllTexts (resolved.entries.map Prod.snd) := by
  induction attributes generalizing seen start with
  | nil => exact Option.some.inj read ▸ before
  | cons first rest ih =>
      obtain ⟨name, value⟩ := first
      obtain ⟨valueAllowed, later⟩ := List.forall_mem_cons.mp values
      simp only [resolve?, Option.bind_eq_bind, Option.bind_eq_some_iff,
        Option.ite_none_left_eq_some] at read
      obtain ⟨_, _, _, read⟩ := read
      refine ih ?_ later read
      intro s member
      obtain ⟨entry, among, rfl⟩ := List.mem_map.mp member
      rcases Keyed.mem_place among with rfl | old
      · exact valueAllowed
      · exact before entry.2 (List.mem_map_of_mem old)

namespace Builder

variable {b after : Builder} {P : Node → Prop}

/-- The open elements of a tree under construction and the finished element have a property. -/
structure Holds (P : Node → Prop) (b : Builder) : Prop where
  stack : ∀ e ∈ b.stack, P e.node
  root : ∀ node ∈ b.root, P node

/-- A property that an element keeps when it gets one more child. -/
def Grows (P : Node → Prop) : Prop :=
  ∀ (e : OpenElement) node,
    P e.node → P node → P (OpenElement.node { e with children := node :: e.children })

theorem Holds.add {node : Node} (grows : Grows P) (holds : b.Holds P) (added : P node)
    : (b.add node).Holds P := by
  rw [Builder.add]
  split
  case h_1 =>
    refine ⟨holds.stack, ?_⟩
    rintro _ ⟨⟩
    exact added
  case h_2 inner outer stack =>
    obtain ⟨first, later⟩ := List.forall_mem_cons.mp (stack ▸ holds.stack)
    exact ⟨List.forall_mem_cons.mpr ⟨grows inner node first added, later⟩, holds.root⟩

theorem Holds.flush (grows : Grows P) (holds : b.Holds P)
    (text : Text.isAllBlank b.text = false → P (.text (String.ofList b.text)))
    : b.flush.Holds P := by
  have ended : Holds P { b with text := [] } := ⟨holds.stack, holds.root⟩
  rw [Builder.flush]
  split
  case isTrue => exact ended
  case isFalse inked => exact ended.add grows (text (by simpa using inked))

/-- A token keeps such a property if the text that it ends and the element that it begins have it. The
cases are the kinds of token. -/
theorem Holds.step? {token : Token} (grows : Grows P) (holds : b.Holds P)
    (text : Text.isAllBlank b.text = false → P (.text (String.ofList b.text)))
    (opened
      : ∀ name attributes e,
          token = .openTag name attributes ∨ token = .emptyTag name attributes
          → b.flush.opened? name attributes = some e
          → P e.node)
    (read : b.step? token = some after)
    : after.Holds P := by
  have flushed := holds.flush grows text
  cases token with
  | text content =>
      cases read
      exact ⟨holds.stack, holds.root⟩
  | aside =>
      cases read
      exact flushed
  | openTag name attributes =>
      obtain ⟨e, opening, same⟩ := Option.bind_eq_some_iff.mp read
      cases same
      exact ⟨List.forall_mem_cons.mpr ⟨opened _ _ e (.inl rfl) opening, flushed.stack⟩, flushed.root⟩
  | emptyTag name attributes =>
      obtain ⟨e, opening, same⟩ := Option.bind_eq_some_iff.mp read
      cases same
      exact flushed.add grows (opened _ _ e (.inr rfl) opening)
  | cutTag name attributes =>
      obtain ⟨_, _, same⟩ := Option.bind_eq_some_iff.mp read
      cases same
      exact flushed
  | closeTag name =>
      simp only [Builder.step?] at read
      split at read
      case h_1 inner outer stack =>
        obtain ⟨_, same⟩ := Option.ite_none_right_eq_some.mp read
        cases same
        obtain ⟨first, later⟩ := List.forall_mem_cons.mp (stack ▸ flushed.stack)
        have closed : Holds P { b.flush with stack := outer } := ⟨later, flushed.root⟩
        exact closed.add grows first
      case h_2 => cases read

theorem text_add (b : Builder) (node : Node)
    : (b.add node).text = b.text := by
  rw [add]
  split <;> rfl

theorem text_flush (b : Builder)
    : b.flush.text = [] := by
  rw [flush]
  split
  · rfl
  · exact text_add _ _

/-- All that is not text leaves no text at hand. -/
theorem text_of_step? {token : Token} (markup : ∀ content, token ≠ .text content)
    (read : b.step? token = some after)
    : after.text = [] := by
  cases token with
  | text content => exact absurd rfl (markup content)
  | aside =>
      cases read
      exact text_flush b
  | openTag name attributes =>
      obtain ⟨_, _, same⟩ := Option.bind_eq_some_iff.mp read
      cases same
      exact text_flush b
  | emptyTag name attributes =>
      obtain ⟨_, _, same⟩ := Option.bind_eq_some_iff.mp read
      cases same
      exact (text_add _ _).trans (text_flush b)
  | cutTag name attributes =>
      obtain ⟨_, _, same⟩ := Option.bind_eq_some_iff.mp read
      cases same
      exact text_flush b
  | closeTag name =>
      simp only [Builder.step?] at read
      split at read
      case h_1 =>
        obtain ⟨_, same⟩ := Option.ite_none_right_eq_some.mp read
        cases same
        exact (text_add _ _).trans (text_flush b)
      case h_2 => cases read

/-- What a tree under construction holds so far is allowed: the text at hand, the open elements and
the finished element. -/
structure Allowed (b : Builder) : Prop where
  text : Xml.Allowed b.text
  nodes : b.Holds fun node => AllTexts (writtenOf node)

theorem allowed_of_opened? {name : Name} {attributes : List Attribute} {e : OpenElement}
    (values : AllowedValues attributes) (read : b.opened? name attributes = some e)
    : AllTexts (writtenOf e.node) := by
  simp only [opened?, opened?.declaredFor?, Option.bind_eq_bind, Option.bind_eq_some_iff,
    Option.ite_none_left_eq_some, Option.ite_none_right_eq_some, Option.some.injEq] at read
  obtain ⟨declared, ⟨_, found⟩, resolved, resolution, _, rfl⟩ := read
  have start : AllTexts ((Keyed.empty : Keyed String).entries.map Prod.snd) := allTexts_nil
  exact (allowed_of_resolve? start (allowed_of_declared? values found) resolution).append allTexts_nil

theorem writtenOf_child (e : OpenElement) (node : Node)
    : writtenOf (OpenElement.node { e with children := node :: e.children })
      = writtenOf e.node ++ writtenOf node := by
  simp only [OpenElement.node, writtenOf, List.reverse_cons, writtenIn_append, writtenIn,
    List.append_nil, List.append_assoc]

/-- A token keeps a tree allowed. -/
theorem Allowed.step? {token : Token} (allowed : b.Allowed) (tokenAllowed : token.Allowed)
    (read : b.step? token = some after)
    : after.Allowed := by
  refine ⟨?_, allowed.nodes.step? ?_ ?_ ?_ read⟩
  · by_cases text : ∃ content, token = .text content
    · obtain ⟨content, rfl⟩ := text
      cases read
      exact allowed.text.append tokenAllowed
    · rw [text_of_step? (fun content same => text ⟨content, same⟩) read]
      exact allowed_nil
  · intro e node first added
    rw [writtenOf_child]
    exact first.append added
  · intro _
    refine List.forall_mem_singleton.mpr ?_
    rw [String.toList_ofList]
    exact allowed.text
  · rintro name attributes e (rfl | rfl) opened <;> exact allowed_of_opened? tokenAllowed opened

end Builder

theorem allowed_of_tree? {tokens : List Token} {root : Node}
    (allowed : ∀ token ∈ tokens, token.Allowed) (read : tree? tokens = some (some root))
    : AllTexts (writtenOf root) := by
  obtain ⟨done, run, ended⟩ := Option.map_eq_some_iff.mp read
  have start : Builder.Allowed {} := ⟨allowed_nil, nofun, nofun⟩
  have built : done.Allowed :=
    keeps_foldlM (fun among stepped kept => kept.step? (allowed _ among) stepped) start run
  exact built.nodes.root root ended

/-- Whatever is written in a parsed document holds only characters that XML allows. -/
theorem allowed_of_parse {xml : String} {document : Document}
    (parsed : Document.parse xml = .ok document)
    : AllTexts (writtenIn document.nodes) := by
  rw [Document.parse] at parsed
  split at parsed
  · cases parsed
    exact allTexts_nil
  · split at parsed
    case h_1 => cases parsed
    case h_2 =>
      cases parsed
      exact allTexts_nil
    case h_3 root read =>
      cases parsed
      obtain ⟨tokens, found, built⟩ := Option.bind_eq_some_iff.mp read
      exact (allowed_of_tree? (allowed_of_tokens? found) built).append allTexts_nil

end ReceiptFleet.Markup.Xml
