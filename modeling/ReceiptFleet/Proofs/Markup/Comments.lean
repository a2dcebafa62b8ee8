import ReceiptFleet.Proofs.Markup.Indentation
import ReceiptFleet.Proofs.Markup.PrintedApart
import ReceiptFleet.Proofs.Markup.TextCuts

/-!
Comments. A comment is no part of the tree, but it ends the text in front of it: what stands behind it
is a text of its own. So a comment changes what is printed just where it divides a text that prints
into two that both have ink.
-/

namespace ReceiptFleet.Markup

namespace Xml

-----------------------------------------------------------------------------------------
-- Comments as tokens
-----------------------------------------------------------------------------------------

/-- What may stand in a comment: allowed characters, no two hyphens in a row and none at the end. -/
structure LegalComment (content : List Char) : Prop where
  allowed : content.all isAllowed = true
  apart : ¬ ['-', '-'] <:+: content
  ends : content.getLast? ≠ some '-'

/-- The text of a comment. -/
def comment (content : List Char) : List Char :=
  ['<', '!', '-', '-'] ++ (content ++ ['-', '-', '>'])

/-- No end of a comment begins inside of it. The induction is over what stands in it. -/
theorem upTo?_of_legal {content : List Char} (apart : ¬ ['-', '-'] <:+: content)
    (ends : content.getLast? ≠ some '-') (left : List Char)
    : upTo? ['-', '-', '>'] (content ++ '-' :: '-' :: '>' :: left) = some (content, left) := by
  induction content with
  | nil => rfl
  | cons c rest ih =>
      have none : after? ['-', '-', '>'] (c :: (rest ++ '-' :: '-' :: '>' :: left)) = none := by
        rw [after?_eq_none_iff, List.cons_prefix_cons]
        rintro ⟨rfl, front⟩
        cases rest with
        | nil => exact ends rfl
        | cons d rest =>
            obtain ⟨rfl, _⟩ := List.cons_prefix_cons.mp front
            exact apart ⟨[], rest, rfl⟩
      have ends' : rest.getLast? ≠ some '-' := by
        intro last
        rw [List.getLast?_cons, last] at ends
        exact ends rfl
      rw [List.cons_append, upTo?_cons_of_none none, ih (fun inner => apart ?_) ends']
      · rfl
      · exact inner.trans (List.suffix_cons c rest).isInfix

theorem token?_comment {content : List Char} (legal : LegalComment content) (left : List Char)
    : token? (comment content ++ left) = some (.aside, left) := by
  have unmarked : hasMark ['-', '-'] content = false := by
    rw [← Bool.not_eq_true, hasMark_iff (List.cons_ne_nil _ _)]
    exact legal.apart
  have found : allowedUpTo? ['-', '-', '>'] (content ++ '-' :: '-' :: '>' :: left)
      = some (content, left) := by
    rw [allowedUpTo?, upTo?_of_legal legal.apart legal.ends, Option.filter_some, if_pos legal.allowed]
  have ends : ¬ content.getLast? = some '-' := legal.ends
  simp [comment, token?, after?, comment?, found, unmarked, ends]

-----------------------------------------------------------------------------------------
-- Runs of text in two halves
-----------------------------------------------------------------------------------------

variable {depth : Nat} {s t left : List Char} {tokens : List Token}

/-- What a content begins with is a token. -/
theorem exists_token_of_content? {content : List Token × List Char} (among : depth ≠ 0)
    (read : content? depth s = some content)
    : ∃ token behind,
        token? s = some (token, behind) ∧ (content? (token.depth depth) behind).isSome = true := by
  cases found : token? s with
  | none =>
      rw [content?, if_neg among] at read
      split at read
      case h_1 => cases read
      case h_2 same => exact absurd (found.symm.trans same) nofun
  | some taken =>
      obtain ⟨token, behind⟩ := taken
      rw [content?_of_token? among found] at read
      obtain ⟨rest, further, _⟩ := Option.map_eq_some_iff.mp read
      exact ⟨token, behind, rfl, by rw [further]; rfl⟩

theorem plain_nil : Plain [] where
  untagged := List.not_mem_nil
  allowed := rfl
  unmarked := rfl
  readable := rfl

/-- A run of text in a content can be read, and it ends in front of markup. -/
theorem plain_of_content? {behind : List Char} {content : List Token × List Char} (among : depth ≠ 0)
    (untagged : '<' ∉ s) (stops : ∀ c ∈ behind.head?, c = '<')
    (read : content? depth (s ++ behind) = some content)
    : Plain s ∧ behind.head? = some '<' := by
  have begins {content : List Token × List Char} (read : content? depth behind = some content)
      : behind.head? = some '<' := by
    obtain ⟨token, _, found, _⟩ := exists_token_of_content? among read
    cases behind with
    | nil => cases found
    | cons c rest => rw [stops c rfl, List.head?_cons]
  by_cases empty : s = []
  · subst empty
    exact ⟨plain_nil, begins read⟩
  · obtain ⟨token, after, found, further⟩ := exists_token_of_content? among read
    rw [token?_of_untagged empty untagged stops, Option.ite_none_right_eq_some, Bool.and_eq_true,
      Bool.not_eq_true'] at found
    obtain ⟨⟨allowed, unmarked⟩, found⟩ := found
    obtain ⟨content, meant, same⟩ := Option.map_eq_some_iff.mp found
    cases same
    obtain ⟨rest, behindText⟩ := Option.isSome_iff_exists.mp further
    exact ⟨⟨untagged, allowed, unmarked, by rw [meant]; rfl⟩, begins behindText⟩

/-- The halves of a run of text can be read if the first one ends behind its last reference. -/
theorem Plain.halves (plain : Plain (s ++ t)) (readable : (text? s).isSome = true)
    : Plain s ∧ Plain t ∧ Joined (meaning s) (meaning t) (meaning (s ++ t)) := by
  obtain ⟨readable', joined⟩ := joined_meaning plain.readable readable
  obtain ⟨allowed, allowed'⟩ := List.all_append.symm.trans plain.allowed |> Bool.and_eq_true_iff.mp
  have unmarked {part : List Char} (among : part <:+: s ++ t)
      : hasMark [']', ']', '>'] part = false := by
    have whole := plain.unmarked
    rw [← Bool.not_eq_true, hasMark_iff (List.cons_ne_nil _ _)] at whole ⊢
    exact fun marked => whole (marked.trans among)
  refine ⟨⟨?_, allowed, unmarked (List.prefix_append s t).isInfix, readable⟩,
    ⟨?_, allowed', unmarked (List.suffix_append s t).isInfix, readable'⟩, joined⟩
  · exact fun member => plain.untagged (List.mem_append_left _ member)
  · exact fun member => plain.untagged (List.mem_append_right _ member)

-----------------------------------------------------------------------------------------
-- Texts in front of the next markup
-----------------------------------------------------------------------------------------

/-- What the texts stand for that come before the next markup. -/
def leadingText : List Token → List Char
  | .text content :: rest => content ++ leadingText rest
  | _ => []

/-- The tokens from the next markup on. -/
def fromMarkup : List Token → List Token
  | .text _ :: rest => fromMarkup rest
  | tokens => tokens

theorem leadingText_textTokens (s : List Char) (rest : List Token)
    : leadingText (textTokens s ++ rest) = meaning s ++ leadingText rest := by
  rw [textTokens]
  split
  case isTrue empty =>
    rw [empty]
    rfl
  case isFalse => rfl

theorem fromMarkup_textTokens (s : List Char) (rest : List Token)
    : fromMarkup (textTokens s ++ rest) = fromMarkup rest := by
  rw [textTokens]
  split <;> rfl

/-- Texts come to the text at hand, by induction over the tokens. -/
theorem foldlM_fromMarkup (b : Builder) (tokens : List Token)
    : tokens.foldlM Builder.step? b
      = (fromMarkup tokens).foldlM Builder.step? { b with text := b.text ++ leadingText tokens } := by
  induction tokens generalizing b with
  | nil => simp [fromMarkup, leadingText]
  | cons token rest ih =>
      cases token with
      | text content =>
          rw [List.foldlM_cons]
          exact (ih { b with text := b.text ++ content }).trans
            (by rw [leadingText, ← List.append_assoc]; rfl)
      | aside | openTag | emptyTag | cutTag | closeTag => simp [fromMarkup, leadingText]

/-- A run of text comes to the text at hand with the texts behind it. -/
theorem foldlM_textTokens (b : Builder) (s : List Char) (tokens : List Token)
    : (textTokens s ++ tokens).foldlM Builder.step? b
      = (fromMarkup tokens).foldlM Builder.step?
          { b with text := b.text ++ meaning s ++ leadingText tokens } := by
  rw [foldlM_fromMarkup, leadingText_textTokens, fromMarkup_textTokens, List.append_assoc]

/-- A comment ends the text at hand, so that the run of text behind it begins another one. -/
theorem foldlM_aside (b : Builder) (s t : List Char) (tokens : List Token)
    : (textTokens s ++ .aside :: (textTokens t ++ tokens)).foldlM Builder.step? b
      = (fromMarkup tokens).foldlM Builder.step?
          { Builder.flush { b with text := b.text ++ meaning s } with
            text := meaning t ++ leadingText tokens } := by
  have stays : fromMarkup (.aside :: (textTokens t ++ tokens)) = .aside :: (textTokens t ++ tokens) :=
    rfl
  have nothing : leadingText (.aside :: (textTokens t ++ tokens)) = [] := rfl
  have ends (b : Builder) : b.step? .aside = some b.flush := rfl
  rw [foldlM_textTokens, stays, nothing, List.append_nil, List.foldlM_cons, ends]
  change List.foldlM Builder.step? (Builder.flush { b with text := b.text ++ meaning s }) _ = _
  rw [foldlM_textTokens, Builder.text_flush, List.nil_append]

/-- As long as an element is open there is more markup to come. -/
theorem Closes.fromMarkup (closes : Closes depth tokens) (among : depth ≠ 0)
    : Closes depth (fromMarkup tokens)
      ∧ ∃ token more, Xml.fromMarkup tokens = token :: more ∧ token.IsMarkup := by
  induction closes with
  | nil => exact absurd rfl among
  | @next depth token rest among' uncut further ih =>
      cases token with
      | text content => exact ih among
      | aside | openTag | emptyTag | cutTag | closeTag =>
          exact ⟨.next among' uncut further, _, _, rfl, trivial⟩

-----------------------------------------------------------------------------------------
-- Texts in two halves
-----------------------------------------------------------------------------------------

/-- The node of a text that ends; there is none if it is blank. -/
def textNodes (s : List Char) : List Node :=
  if Text.isAllBlank s then [] else [.text (String.ofList s)]

theorem reverse_textNodes (s : List Char)
    : (textNodes s).reverse = textNodes s := by
  rw [textNodes]
  split <;> rfl

namespace Builder

variable {b : Builder}

/-- The children of the innermost open element so far, first first. -/
def children (b : Builder) : List Node :=
  match b.stack with
  | [] => []
  | e :: _ => e.children.reverse

theorem flush_cons (e : OpenElement) (outer : List OpenElement) (text : List Char)
    (root : Option Node)
    : flush ⟨e :: outer, text, root⟩
      = ⟨{ e with children := textNodes text ++ e.children } :: outer, [], root⟩ := by
  rw [flush, textNodes]
  split
  case isTrue => rfl
  case isFalse => rfl

theorem flush_flush (b : Builder)
    : b.flush.flush = b.flush := by
  have blank : Text.isAllBlank b.flush.text = true := by
    rw [text_flush]
    rfl
  rw [flush, if_pos blank, ← text_flush b]

/-- Markup ends the text at hand before it is taken up. -/
theorem foldlM_flush {token : Token} (markup : token.IsMarkup) (more : List Token)
    : (token :: more).foldlM step? b = (token :: more).foldlM step? b.flush := by
  rw [List.foldlM_cons, List.foldlM_cons, step?_congr markup (flush_flush b).symm]

end Builder

/-- What is read behind the two halves of a text comes out as it does behind the whole text, up to
what is related to the halves. -/
theorem Carried.run_halves {R : Role → List Node → List Node → Prop} (carried : Carried R)
    {b : Builder} {whole first second : List Char} {token : Token} {more : List Token} {done : Builder}
    (related
      : R (roleOf b.stack) (b.children ++ textNodes whole)
          (b.children ++ (textNodes first ++ textNodes second)))
    (closes : Closes b.stack.length (token :: more)) (markup : token.IsMarkup)
    (run : (token :: more).foldlM Builder.step? { b with text := whole } = some done)
    : ∃ done' name attributes xs ys,
        (token :: more).foldlM Builder.step?
            { Builder.flush { b with text := first } with text := second }
          = some done'
        ∧ done.root = some (.element name attributes xs)
        ∧ done'.root = some (.element name attributes ys)
        ∧ R (Role.top.inside name) xs ys := by
  obtain ⟨stack, text, root⟩ := b
  cases stack with
  | nil => cases closes with | next among _ _ => exact absurd rfl among
  | cons e outer =>
      rw [Builder.foldlM_flush markup] at run ⊢
      simp only [Builder.flush_cons] at run ⊢
      have halves
          : RelatedStacks R
              ({ e with children := textNodes whole ++ e.children } :: outer)
              ({ e with
                  children := textNodes second ++ (textNodes first ++ e.children) } :: outer) := by
        refine .here (e := e) ?_
        simpa only [Builder.children, List.reverse_append, reverse_textNodes, List.append_assoc]
          using related
      exact Related.run carried closes (.during halves) rfl run

end Xml

-----------------------------------------------------------------------------------------
-- Printing in two halves
-----------------------------------------------------------------------------------------

open Xml

variable {width : Nat} {role : Role} {before : List Node} {first second whole : List Char}

theorem textNodes_of_blank {s : List Char} (blank : Text.isAllBlank s = true)
    : textNodes s = [] :=
  if_pos blank

theorem textNodes_of_inked {s : List Char} (inked : Text.isAllBlank s = false)
    : textNodes s = [.text (String.ofList s)] :=
  if_neg (Bool.eq_false_iff.mp inked)

/-- Unless both halves of a text have ink and are where texts print, they print like the whole text. -/
theorem printedAlike_halves (joined : Joined first second whole)
    (idle
      : ¬ (role.Prints before ∧ Text.isAllBlank first = false ∧ Text.isAllBlank second = false))
    : PrintedAlike width role (before ++ textNodes whole)
        (before ++ (textNodes first ++ textNodes second)) := by
  have blanks : Text.isAllBlank whole = (Text.isAllBlank first && Text.isAllBlank second) := by
    rw [Bool.eq_iff_iff, Bool.and_eq_true, ← Text.ink_eq_nil_iff, joined.ink_eq,
      List.append_eq_nil_iff, Text.ink_eq_nil_iff, Text.ink_eq_nil_iff]
  cases one : Text.isAllBlank first with
  | true =>
      rw [textNodes_of_blank one, List.nil_append]
      cases two : Text.isAllBlank second with
      | true =>
          rw [textNodes_of_blank two, textNodes_of_blank (by rw [blanks, one, two]; rfl)]
          exact printedAlike_refl ..
      | false =>
          rw [textNodes_of_inked two, textNodes_of_inked (by rw [blanks, one, two]; rfl)]
          refine printedAlike_text ?_ role before
          simpa only [String.toList_ofList] using joined.strip_second one
  | false =>
      have inked : Text.isAllBlank whole = false := by
        rw [blanks, one]
        rfl
      rw [textNodes_of_inked one, textNodes_of_inked inked]
      cases two : Text.isAllBlank second with
      | true =>
          rw [textNodes_of_blank two, List.append_nil]
          refine printedAlike_text ?_ role before
          simpa only [String.toList_ofList] using joined.strip_first two
      | false =>
          rw [textNodes_of_inked two]
          exact printedAlike_of_not_prints (fun prints => idle ⟨prints, one, two⟩)
            [String.ofList whole] [String.ofList first, String.ofList second]

/-- Otherwise they print other ink. -/
theorem printedApart_joined (joined : Joined first second whole) (prints : role.Prints before)
    (one : Text.isAllBlank first = false) (two : Text.isAllBlank second = false)
    : PrintedApart width role (before ++ textNodes whole)
        (before ++ (textNodes first ++ textNodes second)) := by
  have dark {s : List Char} (inked : Text.isAllBlank s = false) : Text.ink s ≠ [] :=
    fun none => Bool.eq_false_iff.mp inked (Text.ink_eq_nil_iff.mp none)
  have inked : Text.isAllBlank whole = false := by
    rw [Bool.eq_false_iff, ne_eq, ← Text.ink_eq_nil_iff, joined.ink_eq, List.append_eq_nil_iff]
    exact fun none => dark one none.1
  rw [textNodes_of_inked one, textNodes_of_inked two, textNodes_of_inked inked]
  refine printedApart_halves prints ?_ ?_ ?_
  · simpa only [String.toList_ofList] using joined.ink_eq
  · simpa only [String.toList_ofList] using dark one
  · simpa only [String.toList_ofList] using dark two

-----------------------------------------------------------------------------------------
-- Comments in documents
-----------------------------------------------------------------------------------------

/-- A place inside of the root of a document where markup may stand: behind some tokens and behind the
front of a run of text, which may be empty and does not end inside of a reference. -/
structure Spot (xml before front behind : List Char) (tokens : List Token) (depth : Nat) : Prop where
  whole : xml = before ++ (front ++ behind)
  place : Inside xml tokens depth (front ++ behind)
  among : depth ≠ 0
  untagged : '<' ∉ front
  readable : (text? front).isSome = true

/-- A comment in a place divides a text that prints: texts print there, and there is ink on both sides
of the comment, up to the next tag, comment or processing instruction. -/
def Divides (front behind : List Char) (tokens : List Token) (depth : Nat) : Prop :=
  ∃ b content,
    tokens.foldlM Builder.step? {} = some b
    ∧ content? depth behind = some content
    ∧ (roleOf b.stack).Prints b.children
    ∧ Text.isAllBlank (b.text ++ meaning front) = false
    ∧ Text.isAllBlank (leadingText content.1) = false

variable {xml before front behind : List Char} {tokens : List Token} {depth : Nat}

/-- The reader comes to the same place when a comment is put in there. -/
theorem Spot.elsewhere (spot : Spot xml before front behind tokens depth) (content : List Char)
    : Inside (before ++ (front ++ (comment content ++ behind))) tokens depth
        (front ++ (comment content ++ behind)) := by
  obtain ⟨before', split, places⟩ := spot.place.elsewhere
  rw [spot.whole] at split
  obtain rfl := List.append_cancel_right split
  refine places _ (.inr ?_)
  cases front with
  | nil => exact .inr rfl
  | cons c rest => exact .inl rfl

/-- The tokens from a place on, without and with a comment in it: the text in front of the place and the
one behind it are one text or two. -/
theorem Spot.exists_content (spot : Spot xml before front behind tokens depth) {content : List Char}
    (legal : LegalComment content) {more : List Token} {left : List Char}
    (read : content? depth (front ++ behind) = some (more, left))
    : ∃ text later,
        content? depth behind = some (textTokens text ++ later, left)
        ∧ content? depth (front ++ (comment content ++ behind))
          = some (textTokens front ++ .aside :: (textTokens text ++ later), left)
        ∧ more = textTokens (front ++ text) ++ later
        ∧ Closes depth later
        ∧ Joined (meaning front) (meaning text) (meaning (front ++ text)) := by
  let text := behind.takeWhile (· ≠ '<')
  let rest := behind.dropWhile (· ≠ '<')
  have split : behind = text ++ rest := List.takeWhile_append_dropWhile.symm
  have untagged : '<' ∉ front ++ text := by
    intro member
    rcases List.mem_append.mp member with inFront | inText
    · exact spot.untagged inFront
    · simpa using List.mem_takeWhile_imp inText
  have stops : ∀ c ∈ rest.head?, c = '<' := by
    intro c begins
    have ends := List.head?_dropWhile_not (· ≠ '<') behind
    rw [begins] at ends
    simpa using ends
  rw [split, ← List.append_assoc] at read
  obtain ⟨plain, markup⟩ := plain_of_content? spot.among untagged stops read
  obtain ⟨plainFront, plainText, joined⟩ := plain.halves spot.readable
  rw [content?_of_plain plain markup spot.among] at read
  obtain ⟨⟨later, end'⟩, found, same⟩ := Option.map_eq_some_iff.mp read
  cases same
  have second : content? depth behind = some (textTokens text ++ later, end') := by
    rw [split, content?_of_plain plainText markup spot.among, found]
    rfl
  refine ⟨text, later, second, ?_, rfl, closes_of_content? found, joined⟩
  have unmoved : Token.aside.depth depth = depth := rfl
  rw [content?_of_plain plainFront rfl spot.among,
    content?_of_token? spot.among (token?_comment legal behind), unmoved, second]
  rfl

/-- A document with a comment in it has the tree that it has without, up to what is related to the
halves of the text around the comment. -/
theorem Spot.exists_tree (spot : Spot xml before front behind tokens depth) {content : List Char}
    (legal : LegalComment content) {all : List Token} {root : Node} (read : tokens? xml = some all)
    (built : tree? all = some (some root)) {R : Role → List Node → List Node → Prop}
    (carried : Carried R)
    (halves
      : ∀ b rest whole,
          tokens.foldlM Builder.step? {} = some b
          → content? depth behind = some rest
          → Joined (b.text ++ meaning front) (leadingText rest.1) whole
          → R (roleOf b.stack) (b.children ++ textNodes whole)
              (b.children
                ++ (textNodes (b.text ++ meaning front) ++ textNodes (leadingText rest.1))))
    : ∃ name attributes xs ys,
        root = .element name attributes xs
        ∧ (tokens? (before ++ (front ++ (comment content ++ behind)))).bind tree?
          = some (some (.element name attributes ys))
        ∧ R (Role.top.inside name) xs ys := by
  rw [spot.place.tokens?_eq] at read
  obtain ⟨⟨more, left⟩, taken, read⟩ := Option.bind_eq_some_iff.mp read
  obtain ⟨rest, outside, read⟩ := Option.bind_eq_some_iff.mp read
  obtain ⟨ended, same⟩ := Option.ite_none_right_eq_some.mp read
  cases same
  obtain ⟨text, later, second, both, rfl, closes, joined⟩ := spot.exists_content legal taken
  obtain ⟨done, run, finished⟩ := Option.map_eq_some_iff.mp built
  rw [List.foldlM_append] at run
  obtain ⟨b, earlier, run⟩ := Option.bind_eq_some_iff.mp run
  rw [foldlM_textTokens] at run
  -- Both runs stand in front of the same markup now, with the whole text at hand or its second half.
  obtain ⟨closes, token, more, markup, isMarkup⟩ := closes.fromMarkup spot.among
  have opened := spot.place.length_eq earlier
  have related := halves b _ _ earlier second (by
    rw [leadingText_textTokens]
    exact joined.extend b.text (leadingText later))
  rw [leadingText_textTokens] at related
  rw [markup] at closes run
  obtain ⟨done', name, attributes, xs, ys, run', root', root'', final⟩ :=
    carried.run_halves related (opened.symm ▸ closes) isMarkup run
  refine ⟨name, attributes, xs, ys, Option.some.inj (finished.symm.trans root'), ?_, final⟩
  rw [(spot.elsewhere content).tokens?_eq, both, Option.bind_some, outside, Option.bind_some,
    if_pos ended, Option.bind_some, tree?, List.foldlM_append, earlier]
  change Option.map Builder.root (List.foldlM Builder.step? b _) = _
  rw [foldlM_aside, markup, run', Option.map_some, root'']

/-- What compiles is a document with the right root, and the instructions of its children are added. -/
theorem exists_of_compile {xml : List Char} {job printed : Job} (text : Text.isAllBlank xml = false)
    (accepted : compile (String.ofList xml) job = .ok printed)
    : ∃ all attributes children,
        tokens? xml = some all
        ∧ tree? all = some (some (.element rootName attributes children))
        ∧ printed = ⟨job.width, job.instructions ++ emission none job.width children⟩ := by
  rw [compile, Document.parse, String.toList_ofList, text] at accepted
  cases read : (tokens? xml).bind tree? with
  | none =>
      rw [read] at accepted
      cases accepted
  | some tree =>
      rw [read] at accepted
      obtain ⟨all, found, built⟩ := Option.bind_eq_some_iff.mp read
      cases tree with
      | none => cases accepted
      | some root =>
          cases root with
          | text content => cases accepted
          | element name attributes children =>
              change Document.compile ⟨[.element name attributes children]⟩ job = _ at accepted
              obtain ⟨_, same, named, rfl⟩ := compile_eq_ok_iff.mp accepted
              cases same
              subst named
              exact ⟨all, attributes, children, found, built, rfl⟩

/-- And so it is with every such document. -/
theorem compile_of_tree {xml : List Char} (job : Job) (text : Text.isAllBlank xml = false)
    {attributes : Keyed String} {children : List Node}
    (built : (tokens? xml).bind tree? = some (some (.element rootName attributes children)))
    : compile (String.ofList xml) job
      = .ok ⟨job.width, job.instructions ++ emission none job.width children⟩ := by
  have parsed
      : Document.parse (String.ofList xml) = .ok ⟨[.element rootName attributes children]⟩ := by
    rw [Document.parse, String.toList_ofList, text, built]
    rfl
  rw [compile, parsed]
  change Document.compile ⟨[.element rootName attributes children]⟩ job = _
  exact compile_eq_ok_iff.mpr ⟨_, rfl, rfl, rfl⟩

/-- A document with one paragraph, read up to its text. -/
theorem inside_paragraph
    : Inside "<printing><p>ab</p></printing>".toList
        [.openTag ⟨"", "printing"⟩ [], .openTag ⟨"", "p"⟩ []] 2 "ab</p></printing>".toList := by
  have root
      : prologue? "<printing><p>ab</p></printing>".toList
        = some ('<' :: "printing><p>ab</p></printing>".toList) := by
    decide +kernel
  have opens
      : startTag? "printing><p>ab</p></printing>".toList
        = some (.openTag ⟨"", "printing"⟩ [], "<p>ab</p></printing>".toList) := by
    decide +kernel
  have paragraph
      : token? "<p>ab</p></printing>".toList
        = some (.openTag ⟨"", "p"⟩ [], "ab</p></printing>".toList) := by
    decide +kernel
  exact (Inside.start root opens).next Nat.one_ne_zero id paragraph

/-- It prints one line. -/
theorem compile_paragraph
    : compile "<printing><p>ab</p></printing>" (Job.start 42) = .ok ⟨42, [.init, .text "ab\n"]⟩ := by
  have tokens
      : tokens? "<printing><p>ab</p></printing>".toList
        = some [.openTag ⟨"", "printing"⟩ [], .openTag ⟨"", "p"⟩ [], .text ['a', 'b'],
            .closeTag ⟨"", "p"⟩, .closeTag ⟨"", "printing"⟩] := by
    decide +kernel
  have tree
      : (tokens? "<printing><p>ab</p></printing>".toList).bind tree?
        = some (some (.element rootName .empty [.element "p" .empty [.text "ab"]])) := by
    rw [tokens]
    decide
  have compiled := compile_of_tree (Job.start 42) inside_paragraph.not_blank tree
  rw [String.ofList_toList] at compiled
  rw [compiled]
  decide

/-- A comment is printed as if it were not there, unless it divides a text that prints. A document that
compiles does so with a comment put in at any place inside of its root where markup may stand, and it
adds the same instructions to the job, but for one case: texts print in that place, as lines or as the
first text of a cell, and the comment has ink on both sides, up to the next tag, comment or processing
instruction. In that case it adds others. -/
theorem comment_prints_nothing_iff {xml : String} {before front behind content : List Char}
    {tokens : List Token} {depth : Nat} {job printed : Job}
    (spot : Spot xml.toList before front behind tokens depth) (legal : LegalComment content)
    (accepted : compile xml job = .ok printed)
    : ∃ reprinted,
        compile (String.ofList (before ++ (front ++ (comment content ++ behind)))) job = .ok reprinted
        ∧ (reprinted = printed ↔ ¬ Divides front behind tokens depth) := by
  have text : Text.isAllBlank xml.toList = false := spot.place.not_blank
  rw [← String.ofList_toList (s := xml)] at accepted
  obtain ⟨all, attributes, children, read, built, rfl⟩ := exists_of_compile text accepted
  have text' : Text.isAllBlank (before ++ (front ++ (comment content ++ behind))) = false := by
    rw [Text.isAllBlank_eq_false_iff]
    exact ⟨'<', by simp [comment], by decide⟩
  have lines : Role.top.inside rootName = .lines false := by rw [Role.inside, if_pos rfl]
  by_cases divides : Divides front behind tokens depth
  · obtain ⟨b, rest, earlier, later, prints, one, two⟩ := divides
    obtain ⟨_, _, xs, ys, same, rebuilt, apart⟩ :=
      spot.exists_tree legal read built (carried_printedApart job.width) (by
        intro b' rest' whole run taken joined
        cases earlier.symm.trans run
        cases later.symm.trans taken
        exact printedApart_joined joined prints one two)
    cases same
    rw [lines] at apart
    refine ⟨_, compile_of_tree job text' rebuilt, iff_of_false (fun same => ?_) (fun none => ?_)⟩
    · have instructions := List.append_cancel_left (Job.mk.inj same).2
      refine apart none none rfl rfl (wide_none children) (wide_none ys) ?_
      exact congrArg inksOf instructions.symm
    · exact none ⟨b, rest, earlier, later, prints, one, two⟩
  · obtain ⟨_, _, xs, ys, same, rebuilt, alike⟩ :=
      spot.exists_tree legal read built (carried_printedAlike job.width) (by
        intro b rest whole run taken joined
        refine printedAlike_halves joined fun idle => divides ?_
        exact ⟨b, rest, run, taken, idle⟩)
    cases same
    rw [lines] at alike
    refine ⟨_, compile_of_tree job text' rebuilt, iff_of_true ?_ divides⟩
    rw [alike.1 none rfl]

/-- Witness: a comment at the beginning of a paragraph. -/
theorem comment_before_text_prints_nothing
    : let tokens : List Token := [.openTag ⟨"", "printing"⟩ [], .openTag ⟨"", "p"⟩ []]
      let printed : Job := ⟨42, [.init, .text "ab\n"]⟩
      Spot "<printing><p>ab</p></printing>".toList "<printing><p>".toList [] "ab</p></printing>".toList
          tokens 2
      ∧ LegalComment ['x']
      ∧ compile "<printing><p>ab</p></printing>" (Job.start 42) = .ok printed
      ∧ compile "<printing><p><!--x-->ab</p></printing>" (Job.start 42) = .ok printed := by
  intro tokens printed
  have spot
      : Spot "<printing><p>ab</p></printing>".toList "<printing><p>".toList []
          "ab</p></printing>".toList tokens 2 :=
    ⟨by decide, inside_paragraph, Nat.succ_ne_zero 1, List.not_mem_nil, rfl⟩
  have legal : LegalComment ['x'] := ⟨rfl, by decide, by decide⟩
  obtain ⟨reprinted, compiled, same⟩ := comment_prints_nothing_iff spot legal compile_paragraph
  have whole : ¬ Divides [] "ab</p></printing>".toList tokens 2 := by
    rintro ⟨b, _, run, _, _, front, _⟩
    cases run
    cases front
  rw [same.mpr whole] at compiled
  exact ⟨spot, legal, compile_paragraph, compiled⟩

/-- A comment between the two letters of a paragraph makes two lines of them. -/
theorem comment_in_text_prints_two_lines
    : compile "<printing><p>ab</p></printing>" (Job.start 42) = .ok ⟨42, [.init, .text "ab\n"]⟩
      ∧ compile "<printing><p>a<!--x-->b</p></printing>" (Job.start 42)
        = .ok ⟨42, [.init, .text "a\n", .text "b\n"]⟩
      ∧ compile "<printing><p>a<!--x-->b</p></printing>" (Job.start 42)
        ≠ compile "<printing><p>ab</p></printing>" (Job.start 42) := by
  have tokens
      : tokens? "<printing><p>a<!--x-->b</p></printing>".toList
        = some [.openTag ⟨"", "printing"⟩ [], .openTag ⟨"", "p"⟩ [], .text ['a'], .aside, .text ['b'],
            .closeTag ⟨"", "p"⟩, .closeTag ⟨"", "printing"⟩] := by
    decide +kernel
  have tree
      : (tokens? "<printing><p>a<!--x-->b</p></printing>".toList).bind tree?
        = some (some (.element rootName .empty [.element "p" .empty [.text "a", .text "b"]])) := by
    rw [tokens]
    decide
  have inked : Text.isAllBlank "<printing><p>a<!--x-->b</p></printing>".toList = false := by
    decide
  have compiled := compile_of_tree (Job.start 42) inked tree
  rw [String.ofList_toList] at compiled
  refine ⟨compile_paragraph, ?_, ?_⟩
  · rw [compiled]
    decide
  · rw [compiled, compile_paragraph]
    decide

end ReceiptFleet.Markup
