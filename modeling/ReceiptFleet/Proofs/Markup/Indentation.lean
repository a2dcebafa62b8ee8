import ReceiptFleet.Proofs.Markup.Places
import ReceiptFleet.Proofs.Markup.TextRoles

/-!
Indentation. No text node of a parsed document is blank, so that none prints a blank text; and white
space between two tags, comments or processing instructions inside of the root can be put in, changed
and left out without any effect on the document.
-/

namespace ReceiptFleet.Markup

open Xml

-----------------------------------------------------------------------------------------
-- Texts of parsed documents
-----------------------------------------------------------------------------------------

namespace Xml

theorem textsOf_child (e : OpenElement) (node : Node)
    : textsOf (OpenElement.node { e with children := node :: e.children })
      = textsOf e.node ++ textsOf node := by
  simp only [OpenElement.node, textsOf, List.reverse_cons, textsIn_append, textsIn, List.append_nil]

theorem textsOf_of_opened? {b : Builder} {name : Name} {attributes : List Attribute} {e : OpenElement}
    (read : b.opened? name attributes = some e)
    : textsOf e.node = [] := by
  simp only [Builder.opened?, Option.bind_eq_bind, Option.bind_eq_some_iff,
    Option.ite_none_right_eq_some, Option.some.injEq] at read
  obtain ⟨_, _, _, _, _, rfl⟩ := read
  rfl

theorem solid_of_tree? {tokens : List Token} {root : Node} (read : tree? tokens = some (some root))
    : Solid (textsOf root) := by
  obtain ⟨done, run, ended⟩ := Option.map_eq_some_iff.mp read
  have start : Builder.Holds (fun node => Solid (textsOf node)) {} := ⟨nofun, nofun⟩
  have built : done.Holds fun node => Solid (textsOf node) := by
    refine keeps_foldlM (fun {b _ _} _ stepped holds => ?_) start run
    refine holds.step? ?_ ?_ ?_ stepped
    · intro e node first added
      rw [textsOf_child]
      exact solid_append_iff.mpr ⟨first, added⟩
    · intro inked
      refine List.forall_mem_singleton.mpr ?_
      rw [String.toList_ofList]
      obtain ⟨c, member, inked⟩ := List.all_eq_false.mp inked
      exact ⟨c, member, by simpa using inked⟩
    · intro name attributes e _ opened
      rw [textsOf_of_opened? opened]
      exact fun _ member => absurd member List.not_mem_nil
  exact built.root root ended

end Xml

/-- No text of a parsed document is blank. -/
theorem solid_of_parse {xml : String} {document : Document}
    (parsed : Document.parse xml = .ok document)
    : Solid (textsIn document.nodes) := by
  rw [Document.parse] at parsed
  split at parsed
  · cases parsed
    exact fun _ member => absurd member List.not_mem_nil
  · split at parsed
    case h_1 => cases parsed
    case h_2 =>
      cases parsed
      exact fun _ member => absurd member List.not_mem_nil
    case h_3 root read =>
      cases parsed
      obtain ⟨tokens, _, built⟩ := Option.bind_eq_some_iff.mp read
      exact solid_append_iff.mpr
        ⟨solid_of_tree? built, fun _ member => absurd member List.not_mem_nil⟩

theorem textsIn_children_subset {nodes : List Node} {e : Element} (among : e ∈ elementsOf nodes)
    : textsIn e.children ⊆ textsIn nodes := by
  induction nodes with
  | nil => cases among
  | cons node rest ih =>
      cases node with
      | text content => exact fun s member => List.mem_append_right _ (ih among member)
      | element name attributes children =>
          rcases List.mem_cons.mp among with rfl | later
          · exact fun s member => List.mem_append_left _ member
          · exact fun s member => List.mem_append_right _ (ih later member)

/-- What the text nodes in the root of a document contribute stands among the instructions that the
document adds to a job. -/
theorem contributed_of_compile {document : Document} {job compiled : Job}
    (solid : Solid (textsIn document.nodes)) (compiles : document.compile job = .ok compiled)
    : ∃ root added,
        document.root? = some root
        ∧ compiled.instructions = job.instructions ++ added
        ∧ ((contributed (.lines false) root.children).map Instruction.text).Sublist added
        ∧ Solid (contributed (.lines false) root.children) := by
  obtain ⟨root, found, _, rfl⟩ := compile_eq_ok_iff.mp compiles
  obtain ⟨node, member, same⟩ := List.exists_of_findSome?_eq_some found
  have among : root ∈ elementsOf document.nodes := List.mem_filterMap.mpr ⟨node, member, same⟩
  have inner : Solid (textsIn root.children) :=
    fun s member => solid s (textsIn_children_subset among member)
  exact ⟨root, _, found, rfl, contributed_sublist job.width inner (wide_none root.children),
    solid_contributed inner⟩

-----------------------------------------------------------------------------------------
-- White space between markup
-----------------------------------------------------------------------------------------

namespace Xml

variable {s : List Char} {tokens : List Token} {depth : Nat}

theorem isAllowed_of_isSpace {c : Char} (space : isSpace c = true)
    : isAllowed c = true := by
  simp only [isSpace, Bool.or_eq_true, beq_iff_eq] at space
  rcases space with ((rfl | rfl) | rfl) | rfl <;> rfl

theorem isBlank_of_isSpace {c : Char} (space : isSpace c = true)
    : Text.isBlank c = true := by
  simp only [isSpace, Bool.or_eq_true, beq_iff_eq] at space
  rcases space with ((rfl | rfl) | rfl) | rfl <;> rfl

/-- Text without references is read as it is written, by induction over it. -/
theorem pieces?_of_not_mem (plain : '&' ∉ s)
    : pieces? s = some (s.map .literal) := by
  induction s with
  | nil => rfl
  | cons c rest ih =>
      obtain ⟨first, later⟩ := List.ne_and_not_mem_of_not_mem_cons plain
      rw [pieces?, piecesFrom?, if_neg (Ne.symm first)]
      exact congrArg (Option.map (.literal c :: ·)) (ih later)

theorem plain_of_spaces (spaces : ∀ c ∈ s, isSpace c = true)
    : Plain s where
  untagged member := absurd (spaces _ member) (by decide)
  allowed := List.all_eq_true.mpr fun c member => isAllowed_of_isSpace (spaces c member)
  unmarked := by
    rw [← Bool.not_eq_true, hasMark_iff (List.cons_ne_nil _ _)]
    exact fun marked => absurd (spaces _ (marked.subset List.mem_cons_self)) (by decide)
  readable := by
    rw [text?, Option.isSome_map, pieces?_of_not_mem fun member => absurd (spaces _ member) (by decide)]
    rfl

theorem meaning_of_spaces (spaces : ∀ c ∈ s, isSpace c = true)
    : Text.isAllBlank (meaning s) = true := by
  rw [meaning, text?, pieces?_of_not_mem fun member => absurd (spaces _ member) (by decide)]
  have none : ∀ c ∈ ([] : List Char), Text.isBlank c = true := List.forall_mem_nil _
  refine List.all_eq_true.mpr (forall_mem_textFrom (by decide) none fun c member => ?_)
  obtain ⟨piece, among, rfl⟩ := List.mem_map.mp member
  obtain ⟨c, written, rfl⟩ := List.mem_map.mp among
  exact isBlank_of_isSpace (spaces c written)

/-- What is markup begins with its mark. -/
theorem head?_of_isMarkup {token : Token} {left : List Char} (markup : token.IsMarkup)
    (read : token? s = some (token, left))
    : s.head? = some '<' := by
  cases s with
  | nil => cases read
  | cons c rest =>
      by_contra other
      have ne : c ≠ '<' := fun same => other (congrArg some same)
      rw [token?_of_ne ne] at read
      exact not_isMarkup_of_run? read markup

namespace Builder

variable {b : Builder}

/-- Blank text at hand comes to nothing. -/
theorem flush_of_blank {content : List Char} (none : b.text = [])
    (blank : Text.isAllBlank content = true)
    : flush { b with text := b.text ++ content } = b.flush := by
  have empty : Text.isAllBlank ([] : List Char) = true := rfl
  simp [flush, none, blank, empty]

/-- Markup takes up what is left of a tree when the text at hand has ended. -/
theorem step?_congr {b' : Builder} {token : Token} (markup : token.IsMarkup)
    (same : b.flush = b'.flush)
    : b.step? token = b'.step? token := by
  cases token with
  | text content => exact markup.elim
  | aside | openTag | emptyTag | cutTag | closeTag => simp only [step?, same]

end Builder

/-- Blank text between markup has no effect on the tree. -/
theorem tree?_of_blank {more : List Token} {token : Token} (ends : EndsInMarkup tokens)
    (blank : Text.isAllBlank (meaning s) = true) (markup : token.IsMarkup)
    : tree? (tokens ++ (textTokens s ++ token :: more)) = tree? (tokens ++ token :: more) := by
  obtain ⟨last, isLast, lastMarkup⟩ := ends
  obtain ⟨earlier, split⟩ := List.getLast?_eq_some_iff.mp isLast
  rw [tree?, tree?]
  congr 1
  rw [List.foldlM_append, List.foldlM_append]
  refine Option.bind_congr fun b built => ?_
  rw [textTokens]
  split
  case isTrue => rfl
  case isFalse =>
    have none : b.text = [] := by
      rw [split, List.foldlM_append] at built
      obtain ⟨b', _, last⟩ := Option.bind_eq_some_iff.mp built
      rw [List.foldlM_cons] at last
      obtain ⟨_, stepped, same⟩ := Option.bind_eq_some_iff.mp last
      cases same
      refine Builder.text_of_step? ?_ stepped
      rintro content rfl
      exact lastMarkup
    have flushed := Builder.flush_of_blank none blank
    have texted
        : b.step? (.text (meaning s)) = some { b with text := b.text ++ meaning s } :=
      rfl
    rw [List.singleton_append, List.foldlM_cons, texted]
    change List.foldlM Builder.step? { b with text := b.text ++ meaning s } (token :: more) = _
    rw [List.foldlM_cons, List.foldlM_cons, Builder.step?_congr markup flushed]

end Xml

/-- A place inside of the root of a document between two neighbours, each of them a tag, a comment or a
processing instruction; there may be white space between them. -/
structure Gap (xml before spaces after : List Char) : Prop where
  whole : xml = before ++ (spaces ++ after)
  blank : ∀ c ∈ spaces, isSpace c = true
  place : ∃ tokens depth, Inside xml tokens depth (spaces ++ after) ∧ depth ≠ 0 ∧ EndsInMarkup tokens
  markup : ∃ token left, token? after = some (token, left) ∧ token.IsMarkup

variable {xml before spaces after : List Char}

/-- What stands in front of a gap is read as the same tokens whatever stands in the gap. -/
theorem Gap.inside (gap : Gap xml before spaces after)
    : ∃ tokens depth,
        depth ≠ 0
        ∧ EndsInMarkup tokens
        ∧ ∀ others, Inside (before ++ (others ++ after)) tokens depth (others ++ after) := by
  obtain ⟨tokens, depth, inside, among, ends⟩ := gap.place
  obtain ⟨before', split, places⟩ := inside.elsewhere
  rw [gap.whole] at split
  obtain rfl := List.append_cancel_right split
  exact ⟨tokens, depth, among, ends, fun others => places _ (.inl ends)⟩

/-- The tree of a document does not depend on the white space in a gap. -/
theorem Gap.tree_eq (gap : Gap xml before spaces after)
    : ∃ tree, ∀ others,
        (∀ c ∈ others, isSpace c = true)
        → (tokens? (before ++ (others ++ after))).bind tree? = tree := by
  obtain ⟨tokens, depth, among, ends, inside⟩ := gap.inside
  obtain ⟨token, left, read, markup⟩ := gap.markup
  refine ⟨(content? depth after).bind fun content =>
      (skipAsides? content.2).bind fun rest =>
        if rest.isEmpty then tree? (tokens ++ content.1) else none, fun others blank => ?_⟩
  have content := content?_of_plain (plain_of_spaces blank) (head?_of_isMarkup markup read) among
  rw [(inside others).tokens?_eq, content, content?_of_token? among read]
  cases content? (token.depth depth) left with
  | none => rfl
  | some content =>
      simp only [Option.map_some, Option.bind_some, Prod.map_fst, Prod.map_snd, id_eq]
      cases skipAsides? content.2 with
      | none => rfl
      | some rest =>
          simp only [Option.bind_some]
          split
          case isTrue => exact tree?_of_blank ends (meaning_of_spaces blank) markup
          case isFalse => rfl

theorem Gap.parse_eq (gap : Gap xml before spaces after) {others : List Char}
    (blank : ∀ c ∈ others, isSpace c = true)
    : Document.parse (String.ofList (before ++ (others ++ after)))
      = Document.parse (String.ofList xml) := by
  obtain ⟨tokens, depth, _, _, inside⟩ := gap.inside
  obtain ⟨tree, reads⟩ := gap.tree_eq
  have text : Text.isAllBlank (before ++ (others ++ after)) = false := (inside others).not_blank
  have text' : Text.isAllBlank (before ++ (spaces ++ after)) = false := (inside spaces).not_blank
  simp only [Document.parse, String.toList_ofList, gap.whole, text, text', reads others blank,
    reads spaces gap.blank]

/-- Indentation has no effect. No text in the tree of a parsed document is only white space, at any
depth; so the texts that text nodes contribute to a job, which stand among the instructions that the
document adds in the order of the document, all have a character that is not white space. And white
space between two neighbours inside of the root, each of them a tag, a comment or a processing
instruction, may be put in, left out or replaced by any other without any change of the document, and
so of what it compiles to. -/
theorem indentation_is_inert {xml : String} {document : Document}
    (parsed : Document.parse xml = .ok document)
    : (∀ s ∈ textsIn document.nodes, ∃ c ∈ s.toList, Text.isBlank c = false)
      ∧ (∀ job compiled,
          document.compile job = .ok compiled
          → ∃ root added,
              document.root? = some root
              ∧ compiled.instructions = job.instructions ++ added
              ∧ ((contributed (.lines false) root.children).map Instruction.text).Sublist added
              ∧ ∀ s ∈ contributed (.lines false) root.children,
                  ∃ c ∈ s.toList, Text.isBlank c = false)
      ∧ ∀ before spaces after others,
          Gap xml.toList before spaces after
          → (∀ c ∈ others, isSpace c = true)
          → Document.parse (String.ofList (before ++ (others ++ after))) = .ok document
            ∧ ∀ job, compile (String.ofList (before ++ (others ++ after))) job = compile xml job := by
  have solid := solid_of_parse parsed
  refine ⟨solid, fun job compiled compiles => contributed_of_compile solid compiles, ?_⟩
  intro before spaces after others gap blank
  have same := gap.parse_eq blank
  rw [String.ofList_toList] at same
  refine ⟨same.trans parsed, fun job => ?_⟩
  rw [compile, compile, same]

/-- Witness: other white space in front of a paragraph. -/
theorem indentation_is_inert_before_paragraph
    : let document : Document :=
        ⟨[.element "printing" .empty [.element "p" .empty [.text "a"]]]⟩
      Document.parse "<printing>\n<p>a</p></printing>" = .ok document
      ∧ Gap "<printing>\n<p>a</p></printing>".toList "<printing>".toList ['\n']
          "<p>a</p></printing>".toList
      ∧ (∀ c ∈ [' ', '\t'], isSpace c = true)
      ∧ Document.parse
          (String.ofList ("<printing>".toList ++ ([' ', '\t'] ++ "<p>a</p></printing>".toList)))
        = .ok document := by
  intro document
  have root : prologue? "<printing>\n<p>a</p></printing>".toList
      = some ('<' :: "printing>\n<p>a</p></printing>".toList) := by
    decide +kernel
  have opens : startTag? "printing>\n<p>a</p></printing>".toList
      = some (.openTag ⟨"", "printing"⟩ [], ['\n'] ++ "<p>a</p></printing>".toList) := by
    decide +kernel
  have place
      : Inside "<printing>\n<p>a</p></printing>".toList [.openTag ⟨"", "printing"⟩ []] 1
          (['\n'] ++ "<p>a</p></printing>".toList) :=
    .start root opens
  have paragraph
      : token? "<p>a</p></printing>".toList
        = some (.openTag ⟨"", "p"⟩ [], "a</p></printing>".toList) := by
    decide +kernel
  have tokens
      : tokens? "<printing>\n<p>a</p></printing>".toList
        = some [.openTag ⟨"", "printing"⟩ [], .text ['\n'], .openTag ⟨"", "p"⟩ [], .text ['a'],
            .closeTag ⟨"", "p"⟩, .closeTag ⟨"", "printing"⟩] := by
    decide +kernel
  have tree
      : tree? [.openTag ⟨"", "printing"⟩ [], .text ['\n'], .openTag ⟨"", "p"⟩ [], .text ['a'],
          .closeTag ⟨"", "p"⟩, .closeTag ⟨"", "printing"⟩]
        = some (some (.element "printing" .empty [.element "p" .empty [.text "a"]])) := by
    decide
  have parsed : Document.parse "<printing>\n<p>a</p></printing>" = .ok document := by
    rw [Document.parse, tokens, Option.bind_some, tree]
    rfl
  have gap
      : Gap "<printing>\n<p>a</p></printing>".toList "<printing>".toList ['\n']
          "<p>a</p></printing>".toList :=
    ⟨by decide, List.forall_mem_singleton.mpr rfl, ⟨_, _, place, by decide, _, rfl, trivial⟩, _, _,
      paragraph, trivial⟩
  have blank : ∀ c ∈ [' ', '\t'], isSpace c = true := by simp [isSpace]
  exact ⟨parsed, gap, blank, ((indentation_is_inert parsed).2.2 _ _ _ _ gap blank).1⟩

end ReceiptFleet.Markup
