import Mathlib.Data.List.Infix
import Mathlib.Data.List.TakeWhile
import ReceiptFleet.Markup.Xml.Token
import ReceiptFleet.Proofs.Text.Trimming

/-!
How far readers look. A reader takes the front of a text and gives the same for it in front of any other
text. Some need the first character behind what they take, to see that a name, white space or a run of
text ends there; tags, comments, processing instructions and sections end by themselves.
-/

namespace ReceiptFleet.Markup.Xml

variable {s left mark : List Char}

/-- A reading of the front of a text that comes out the same in front of all that begins alike. -/
def Bounded (reads : List Char → List Char → Prop) (s left : List Char) : Prop :=
  ∃ taken, s = taken ++ left ∧ ∀ other, other.head? = left.head? → reads (taken ++ other) other

/-- A reading of the front of a text, not empty, that comes out the same in front of anything. -/
def Closed (reads : List Char → List Char → Prop) (s left : List Char) : Prop :=
  ∃ taken, taken ≠ [] ∧ s = taken ++ left ∧ ∀ other, reads (taken ++ other) other

/-- Two texts begin alike if they begin with the same part that is not empty. -/
theorem head?_append_congr {taken : List Char} (nonempty : taken ≠ []) (s t : List Char)
    : (taken ++ s).head? = (taken ++ t).head? := by
  rw [List.head?_append_of_ne_nil _ nonempty, List.head?_append_of_ne_nil _ nonempty]

theorem head?_append_cons (s : List Char) (c : Char) (t u : List Char)
    : (s ++ c :: t).head? = (s ++ c :: u).head? := by
  cases s <;> rfl

-----------------------------------------------------------------------------------------
-- Marks
-----------------------------------------------------------------------------------------

theorem after?_append (mark other : List Char)
    : after? mark (mark ++ other) = some other := by
  induction mark with
  | nil => rfl
  | cons m mark ih => rw [List.cons_append, after?, if_pos rfl, ih]

theorem isSome_after?_iff
    : (after? mark s).isSome = true ↔ mark <+: s := by
  constructor
  · intro found
    obtain ⟨left, after⟩ := Option.isSome_iff_exists.mp found
    exact ⟨left, append_of_after? after⟩
  · rintro ⟨left, rfl⟩
    rw [after?_append]
    rfl

theorem after?_eq_none_iff
    : after? mark s = none ↔ ¬ mark <+: s := by
  rw [← isSome_after?_iff, Bool.not_eq_true, Option.isSome_eq_false_iff, Option.isNone_iff_eq_none]

/-- A text that is at least as long as a mark shows whether it begins with it. -/
theorem prefix_append_iff_of_length {t : List Char} (long : mark.length ≤ t.length) (r : List Char)
    : mark <+: t ++ r ↔ mark <+: t :=
  ⟨fun front => List.prefix_of_prefix_length_le front (List.prefix_append t r) long,
    fun front => front.trans (List.prefix_append t r)⟩

/-- So does a text with a character that the mark does not have. -/
theorem prefix_append_iff_of_mem {t : List Char} {c : Char} (inside : c ∈ t) (absent : c ∉ mark)
    (r : List Char)
    : mark <+: t ++ r ↔ mark <+: t := by
  refine ⟨fun front => ?_, fun front => front.trans (List.prefix_append t r)⟩
  rcases List.prefix_or_prefix_of_prefix front (List.prefix_append t r) with here | shorter
  · exact here
  · exact absurd (shorter.subset inside) absent

theorem upTo?_cons_of_none {c : Char} {rest : List Char} (none : after? mark (c :: rest) = none)
    : upTo? mark (c :: rest) = (upTo? mark rest).map fun (before, left) => (c :: before, left) := by
  rw [upTo?, none]

/-- What stands up to a mark is found again whatever stands behind the mark. The induction is over the
text. -/
theorem closed_of_upTo? {before : List Char} (nonempty : mark ≠ [])
    (read : upTo? mark s = some (before, left))
    : s = before ++ (mark ++ left)
      ∧ ∀ other, upTo? mark (before ++ (mark ++ other)) = some (before, other) := by
  induction s generalizing before with
  | nil => cases read
  | cons c rest ih =>
      cases found : after? mark (c :: rest) with
      | some behind =>
          rw [upTo?, found] at read
          cases read
          refine ⟨(append_of_after? found).symm, fun other => ?_⟩
          obtain ⟨m, mark', rfl⟩ := List.exists_cons_of_ne_nil nonempty
          rw [List.nil_append, List.cons_append, upTo?, ← List.cons_append, after?_append]
      | none =>
          rw [upTo?_cons_of_none found] at read
          obtain ⟨⟨before', _⟩, further, same⟩ := Option.map_eq_some_iff.mp read
          cases same
          obtain ⟨split, reads⟩ := ih further
          refine ⟨congrArg (c :: ·) split, fun other => ?_⟩
          have unmarked : ¬ mark <+: c :: before' ++ mark := by
            intro front
            refine after?_eq_none_iff.mp found ?_
            rw [split, ← List.append_assoc, ← List.cons_append]
            exact front.trans (List.prefix_append _ _)
          have none : after? mark (c :: (before' ++ (mark ++ other))) = none := by
            rw [after?_eq_none_iff, ← List.append_assoc, ← List.cons_append, ← List.cons_append,
              prefix_append_iff_of_length (by simp; omega)]
            exact unmarked
          rw [List.cons_append, upTo?_cons_of_none none, reads]
          rfl

/-- A text has a mark if the mark stands anywhere in it. -/
theorem hasMark_iff (nonempty : mark ≠ [])
    : hasMark mark s = true ↔ mark <:+: s := by
  constructor
  · intro marked
    obtain ⟨⟨before, left⟩, found⟩ := Option.isSome_iff_exists.mp marked
    exact ⟨before, left, by rw [(closed_of_upTo? nonempty found).1, List.append_assoc]⟩
  · rintro ⟨before, left, rfl⟩
    induction before with
    | nil =>
        cases found : after? mark (mark ++ left) with
        | none => exact absurd (found.symm.trans (after?_append mark left)) nofun
        | some behind =>
            obtain ⟨m, mark', rfl⟩ := List.exists_cons_of_ne_nil nonempty
            rw [List.cons_append] at found
            simp only [hasMark, List.nil_append, List.cons_append, upTo?, found, Option.isSome_some]
    | cons c before ih =>
        simp only [List.cons_append]
        cases found : after? mark (c :: (before ++ mark ++ left)) with
        | none =>
            rw [hasMark, upTo?_cons_of_none found, Option.isSome_map]
            exact ih
        | some behind => simp only [hasMark, upTo?, found, Option.isSome_some]

theorem closed_of_allowedUpTo? {before : List Char} (nonempty : mark ≠ [])
    (read : allowedUpTo? mark s = some (before, left))
    : s = before ++ (mark ++ left)
      ∧ ∀ other, allowedUpTo? mark (before ++ (mark ++ other)) = some (before, other) := by
  obtain ⟨found, allowed⟩ := Option.filter_eq_some_iff.mp read
  obtain ⟨split, reads⟩ := closed_of_upTo? nonempty found
  refine ⟨split, fun other => ?_⟩
  rw [allowedUpTo?, reads, Option.filter_some, if_pos allowed]

-----------------------------------------------------------------------------------------
-- White space and names
-----------------------------------------------------------------------------------------

/-- The members of a class at the front of a text are found again in front of all that does not begin
with another member. -/
theorem span_append (s : List Char) {p : Char → Bool} {other : List Char}
    (stops : ∀ c ∈ other.head?, p c = false)
    : (s.takeWhile p ++ other).takeWhile p = s.takeWhile p
      ∧ (s.takeWhile p ++ other).dropWhile p = other :=
  Text.span_run (fun _ => List.mem_takeWhile_imp) stops

/-- What stands behind them does not begin with another member, nor does what begins alike. -/
theorem stops_of_alike {p : Char → Bool} {other : List Char}
    (alike : other.head? = (s.dropWhile p).head?)
    : ∀ c ∈ other.head?, p c = false :=
  alike ▸ Text.stops_dropWhile p s

/-- White space and what is left behind it. -/
theorem exists_spaces (s : List Char)
    : ∃ spaces,
        s = spaces ++ skipSpace s
        ∧ ∀ other, other.head? = (skipSpace s).head? → skipSpace (spaces ++ other) = other :=
  ⟨s.takeWhile isSpace, List.takeWhile_append_dropWhile.symm,
    fun _ alike => (span_append s (stops_of_alike alike)).2⟩

theorem bounded_of_name? {name : Name} (read : name? s = some (name, left))
    : Bounded (fun s left => name? s = some (name, left)) s left := by
  have behind : left = s.dropWhile isNameChar := by
    simp only [name?] at read
    split at read <;> split at read <;> cases read <;> rfl
  refine ⟨s.takeWhile isNameChar, ?_, fun other alike => ?_⟩
  · rw [behind, List.takeWhile_append_dropWhile]
  · rw [behind] at alike
    obtain ⟨taken, rest⟩ := span_append s (stops_of_alike alike)
    simp only [name?] at read ⊢
    rw [taken, rest]
    split at read <;> split at read <;> cases read <;> simp_all

/-- A name begins with a character of names. -/
theorem exists_nameChar {name : Name} (read : name? s = some (name, left))
    : ∃ c rest, s = c :: rest ∧ isNameChar c = true := by
  cases s with
  | nil => cases read
  | cons c rest =>
      refine ⟨c, rest, rfl, ?_⟩
      by_contra other
      simp only [name?, List.takeWhile_cons_of_neg other] at read
      cases read

-----------------------------------------------------------------------------------------
-- Attributes
-----------------------------------------------------------------------------------------

theorem closed_of_quoted? {written : List Char} (read : quoted? s = some (written, left))
    : Closed (fun s left => quoted? s = some (written, left)) s left := by
  cases s with
  | nil => cases read
  | cons quote rest =>
      simp only [quoted?] at read
      split at read
      case isFalse => cases read
      case isTrue quotes =>
        split at read
        case h_2 => cases read
        case h_1 close behind dropped =>
          simp only [Option.ite_none_right_eq_some, Option.some.injEq, Prod.mk.injEq] at read
          obtain ⟨⟨rfl, allowed⟩, rfl, rfl⟩ := read
          refine ⟨close :: (rest.takeWhile (fun c => c ≠ close && c ≠ '<') ++ [close]), nofun, ?_, ?_⟩
          · rw [List.cons_append, List.append_assoc, List.singleton_append, ← dropped,
              List.takeWhile_append_dropWhile]
          · intro other
            have alike
                : (close :: other).head?
                  = (rest.dropWhile (fun c => c ≠ close && c ≠ '<')).head? := by
              rw [dropped]
              rfl
            obtain ⟨taken, after⟩ := span_append rest (stops_of_alike alike)
            rw [List.cons_append, List.append_assoc, List.singleton_append]
            simp only [quoted?, if_pos quotes, taken, after]
            rw [if_pos ⟨trivial, allowed⟩]

theorem closed_of_assignment? {written : List Char} {name : Name}
    (read : assignment? s = some (name, written, left))
    : Closed (fun s left => assignment? s = some (name, written, left)) s left := by
  simp only [assignment?, Option.pure_def, Option.bind_eq_bind, Option.bind_eq_some_iff,
    Option.some.injEq, Prod.mk.injEq, Prod.exists] at read
  obtain ⟨name', s₁, named, s₂, equals, written', s₃, quoted, rfl, rfl, rfl⟩ := read
  obtain ⟨taken, rfl, names⟩ := bounded_of_name? named
  obtain ⟨spaces, split, skips⟩ := exists_spaces s₁
  obtain ⟨spaces', split', skips'⟩ := exists_spaces s₂
  obtain ⟨value, nonempty, split'', quotes⟩ := closed_of_quoted? quoted
  have sign := append_of_after? equals
  rw [split''] at split' skips'
  rw [← sign] at split skips
  rw [split'] at split skips
  refine ⟨taken ++ (spaces ++ ('=' :: (spaces' ++ value))), ?_, ?_, fun other => ?_⟩
  · simp
  · rw [split]
    simp
  · have alike : (spaces ++ '=' :: (spaces' ++ (value ++ other))).head? = s₁.head? := by
      rw [split]
      exact head?_append_cons ..
    have first := names _ alike
    have second := skips ('=' :: (spaces' ++ (value ++ other))) rfl
    have third := skips' (value ++ other) (head?_append_congr nonempty _ _)
    simp [assignment?, first, second, third, after?, quotes]

theorem attributes?_of_content (spaced : skipSpace s = '>' :: left)
    : attributes? s = some ([], .content, left) := by
  fun_cases attributes? s <;> simp_all [skipSpace]

theorem attributes?_of_slash (spaced : skipSpace s = '/' :: '>' :: left)
    : attributes? s = some ([], .slash, left) := by
  fun_cases attributes? s <;> simp_all [skipSpace]

/-- Attributes go on behind the first one. -/
theorem attributes?_of_assignment? {name : Name} {written value behind : List Char}
    {others : List Attribute} {ending : TagEnd} (spaced : (skipSpace s).length ≠ s.length)
    (read : assignment? (skipSpace s) = some (name, written, behind))
    (valued : attributeValue? written = some value)
    (further : attributes? behind = some (others, ending, left))
    : attributes? s = some ((name, String.ofList value) :: others, ending, left) := by
  obtain ⟨c, rest, begins, nameChar⟩ : ∃ c rest, skipSpace s = c :: rest ∧ isNameChar c = true := by
    obtain ⟨⟨_, _⟩, named, _⟩ := Option.bind_eq_some_iff.mp read
    exact exists_nameChar named
  fun_cases attributes? s with
  | case1 empty =>
      rw [List.isEmpty_iff] at empty
      simp [empty, skipSpace] at spaced
  | case2 _ none => cases begins.symm.trans none
  | case3 _ _ found =>
      cases begins.symm.trans found
      exact absurd nameChar (by decide)
  | case4 _ _ found =>
      cases begins.symm.trans found
      exact absurd nameChar (by decide)
  | case5 _ same => exact absurd same spaced
  | case6 _ _ stuck => cases stuck.symm.trans read
  | case7 _ _ name' written' behind' found =>
      cases found.symm.trans read
      simp [valued, further]

/-- Attributes that are not cut off end by themselves, by induction over their text. -/
theorem closed_of_attributes? {attributes : List Attribute} {ending : TagEnd} (uncut : ending ≠ .cut)
    (read : attributes? s = some (attributes, ending, left))
    : Closed (fun s left => attributes? s = some (attributes, ending, left)) s left := by
  fun_induction attributes? s generalizing attributes ending left with
  | case1 =>
      cases read
      exact absurd rfl uncut
  | case2 | case5 | case6 => cases read
  | case3 s _ behind found =>
      cases read
      obtain ⟨spaces, split, skips⟩ := exists_spaces s
      rw [found] at split skips
      refine ⟨spaces ++ ['>'], by simp, by simpa using split, fun other => ?_⟩
      rw [List.append_assoc]
      exact attributes?_of_content (skips ('>' :: other) rfl)
  | case4 s _ behind found =>
      cases read
      obtain ⟨spaces, split, skips⟩ := exists_spaces s
      rw [found] at split skips
      refine ⟨spaces ++ ['/', '>'], by simp, by simpa using split, fun other => ?_⟩
      rw [List.append_assoc]
      exact attributes?_of_slash (skips ('/' :: '>' :: other) rfl)
  | case7 s _ spaced name written behind found _ _ _ _ ih =>
      simp only [Option.pure_def, Option.bind_eq_bind, Option.bind_eq_some_iff, Option.some.injEq,
        Prod.mk.injEq, Prod.exists] at read
      obtain ⟨value, valued, others, _, _, further, rfl, rfl, rfl⟩ := read
      obtain ⟨taken, _, rfl, reads⟩ := ih uncut further
      obtain ⟨spaces, split, skips⟩ := exists_spaces s
      have nonempty : spaces ≠ [] := by
        rintro rfl
        exact spaced (congrArg List.length split.symm)
      obtain ⟨assigned, begins, split', assigns⟩ := closed_of_assignment? found
      rw [split'] at split skips
      refine ⟨spaces ++ (assigned ++ taken), by simp [nonempty], by simpa using split, ?_⟩
      intro other
      have skipped := skips (assigned ++ (taken ++ other)) (head?_append_congr begins _ _)
      rw [List.append_assoc, List.append_assoc]
      refine attributes?_of_assignment? ?_ ?_ valued (reads other)
      · rw [skipped, @List.length_append _ spaces]
        have := List.length_pos_of_ne_nil nonempty
        omega
      · rw [skipped]
        exact assigns _

-----------------------------------------------------------------------------------------
-- Tokens
-----------------------------------------------------------------------------------------

/-- A start tag that the end of the text cuts off. -/
def Token.IsCut : Token → Prop
  | .cutTag .. => True
  | _ => False

/-- Tags, comments and processing instructions: all but text. -/
def Token.IsMarkup : Token → Prop
  | .text _ => False
  | _ => True

variable {token : Token}

theorem closed_of_startTag? (uncut : ¬ token.IsCut) (read : startTag? s = some (token, left))
    : Closed (fun s left => startTag? s = some (token, left)) s left := by
  simp only [startTag?, Option.pure_def, Option.bind_eq_bind, Option.bind_eq_some_iff,
    Option.some.injEq, Prod.mk.injEq, Prod.exists] at read
  obtain ⟨name, s₁, named, attributes, ending, _, given, rfl, rfl⟩ := read
  have whole : ending ≠ .cut := by
    rintro rfl
    exact uncut trivial
  obtain ⟨inner, nonempty, rfl, reads⟩ := closed_of_attributes? whole given
  obtain ⟨taken, rfl, names⟩ := bounded_of_name? named
  refine ⟨taken ++ inner, by simp [nonempty], by simp, fun other => ?_⟩
  have first := names (inner ++ other) (head?_append_congr nonempty _ _)
  simp [startTag?, first, reads]

/-- Attributes are cut off only by the end of the text. -/
theorem left_of_attributes? {attributes : List Attribute}
    (read : attributes? s = some (attributes, .cut, left))
    : left = [] := by
  fun_induction attributes? s generalizing attributes left with
  | case1 =>
      cases read
      rfl
  | case2 | case3 | case4 | case5 | case6 => cases read
  | case7 s _ spaced name written behind found _ _ _ _ ih =>
      simp only [Option.pure_def, Option.bind_eq_bind, Option.bind_eq_some_iff, Option.some.injEq,
        Prod.mk.injEq, Prod.exists] at read
      obtain ⟨_, _, _, _, _, further, _, rfl, rfl⟩ := read
      exact ih further

theorem exists_nameChar_of_startTag? (read : startTag? s = some (token, left))
    : ∃ c rest, s = c :: rest ∧ isNameChar c = true := by
  obtain ⟨⟨name, _⟩, named, _⟩ := Option.bind_eq_some_iff.mp read
  exact exists_nameChar named

theorem closed_of_closeTag? (read : closeTag? s = some (token, left))
    : Closed (fun s left => closeTag? s = some (token, left)) s left := by
  simp only [closeTag?, Option.pure_def, Option.bind_eq_bind, Option.bind_eq_some_iff,
    Option.some.injEq, Prod.mk.injEq, Prod.exists] at read
  obtain ⟨name, s₁, named, _, ends, rfl, rfl⟩ := read
  obtain ⟨spaces, split, skips⟩ := exists_spaces s₁
  rw [← append_of_after? ends] at split skips
  obtain ⟨taken, rfl, names⟩ := bounded_of_name? named
  refine ⟨taken ++ (spaces ++ ['>']), by simp, by simp [split], fun other => ?_⟩
  have alike : (spaces ++ '>' :: other).head? = s₁.head? := by
    rw [split]
    exact head?_append_cons ..
  have first := names _ alike
  have second := skips ('>' :: other) rfl
  simp [closeTag?, first, second, after?]

theorem closed_of_comment? (read : comment? s = some (token, left))
    : Closed (fun s left => comment? s = some (token, left)) s left := by
  simp only [comment?, Option.bind_eq_bind, Option.bind_eq_some_iff, Prod.exists] at read
  obtain ⟨content, _, found, sound⟩ := read
  split at sound
  case isTrue => cases sound
  case isFalse fair =>
    cases sound
    obtain ⟨rfl, reads⟩ := closed_of_allowedUpTo? (List.cons_ne_nil _ _) found
    refine ⟨content ++ ['-', '-', '>'], by simp, by simp, fun other => ?_⟩
    rw [List.append_assoc]
    simp only [comment?, reads, Option.bind_eq_bind, Option.bind_some, if_neg fair]

theorem isNamePart_congr {s t : List Char} (alike : s.head? = t.head?)
    : isNamePart s = isNamePart t := by
  cases s <;> cases t <;> simp_all [isNamePart]

/-- A processing instruction is told from a declaration by what stands up to its question mark. -/
theorem closed_of_instruction? (read : instruction? s = some (token, left))
    : Closed (fun s left => instruction? s = some (token, left)) s left := by
  simp only [instruction?] at read
  split at read
  case isTrue => cases read
  case isFalse undeclared =>
    split at read
    case isFalse => cases read
    case isTrue named =>
      simp only [Option.pure_def, Option.bind_eq_bind, Option.bind_eq_some_iff, Option.some.injEq,
        Prod.mk.injEq, Prod.exists] at read
      obtain ⟨content, behind, found, rfl, rfl⟩ := read
      obtain ⟨spaces, split, skips⟩ := exists_spaces (s.dropWhile isNameChar)
      obtain ⟨split', reads⟩ := closed_of_allowedUpTo? (List.cons_ne_nil _ _) found
      rw [split'] at split skips
      let name := s.takeWhile isNameChar
      let taken := name ++ (spaces ++ (content ++ ['?', '>']))
      have nonempty : taken ≠ [] := by simp [taken]
      have whole : s = taken ++ behind := by
        rw [← List.takeWhile_append_dropWhile (p := isNameChar) (l := s), split]
        simp [taken, name]
      refine ⟨taken, nonempty, whole, fun other => ?_⟩
      have undeclared' : ¬ (after? ['x', 'm', 'l', ' '] (taken ++ other)).isSome = true := by
        have mark : '?' ∈ taken := by simp [taken]
        rw [whole, isSome_after?_iff, prefix_append_iff_of_mem mark (by decide)] at undeclared
        rwa [isSome_after?_iff, prefix_append_iff_of_mem mark (by decide)]
      have named' : isNamePart (taken ++ other) = true := by
        rw [isNamePart_congr (head?_append_congr nonempty other behind), ← whole]
        exact named
      have alike
          : (spaces ++ (content ++ (['?', '>'] ++ other))).head? = (s.dropWhile isNameChar).head? := by
        rw [split, ← List.append_assoc, ← List.append_assoc spaces]
        exact head?_append_cons ..
      have rest
          : (taken ++ other).dropWhile isNameChar = spaces ++ (content ++ (['?', '>'] ++ other)) := by
        simpa [taken, name] using (span_append s (stops_of_alike alike)).2
      have skipped := skips (content ++ (['?', '>'] ++ other)) (head?_append_cons ..)
      show instruction? (taken ++ other) = _
      rw [instruction?, if_neg undeclared', if_pos named', rest, skipped, reads]
      rfl

theorem closed_of_section? (read : section? s = some (token, left))
    : Closed (fun s left => section? s = some (token, left)) s left := by
  simp only [section?, Option.pure_def, Option.bind_eq_bind, Option.bind_eq_some_iff,
    Option.some.injEq, Prod.mk.injEq, Prod.exists] at read
  obtain ⟨content, _, found, rfl, rfl⟩ := read
  obtain ⟨rfl, reads⟩ := closed_of_allowedUpTo? (List.cons_ne_nil _ _) found
  refine ⟨content ++ [']', ']', '>'], by simp, by simp, fun other => ?_⟩
  rw [List.append_assoc]
  simp only [section?, reads, Option.bind_eq_bind, Option.bind_some, Option.pure_def]

theorem not_isMarkup_of_run? (read : run? s = some (token, left))
    : ¬ token.IsMarkup := by
  simp only [run?, Option.pure_def, Option.bind_eq_bind] at read
  split at read
  case isFalse => cases read
  case isTrue =>
    obtain ⟨_, _, same⟩ := Option.bind_eq_some_iff.mp read
    cases same
    exact id

/-- A run of text ends at the next `<` or at the end. -/
theorem bounded_of_run? (read : run? s = some (token, left))
    : ∃ taken,
        s = taken ++ left
        ∧ ∀ other,
            other.head? = left.head? ∨ other.head? = some '<'
            → run? (taken ++ other) = some (token, other) := by
  simp only [run?, Option.pure_def, Option.bind_eq_bind] at read
  split at read
  case isFalse => cases read
  case isTrue sound =>
    simp only [Option.bind_eq_some_iff, Option.some.injEq, Prod.mk.injEq] at read
    obtain ⟨content, meant, rfl, rfl⟩ := read
    refine ⟨s.takeWhile (· ≠ '<'), List.takeWhile_append_dropWhile.symm, fun other alike => ?_⟩
    have stops : ∀ c ∈ other.head?, decide (c ≠ '<') = false := by
      rcases alike with alike | begins
      · exact stops_of_alike alike
      · rintro c same
        cases same.symm.trans begins
        decide
    obtain ⟨taken, rest⟩ := span_append s stops
    simp only [run?, taken, rest, if_pos sound, meant, Option.bind_eq_bind, Option.bind_some,
      Option.pure_def]

/-- What begins with a name behind its `<` is read as a start tag. -/
theorem token?_of_nameChar {c : Char} (nameChar : isNameChar c = true) (rest : List Char)
    : token? ('<' :: c :: rest) = startTag? (c :: rest) := by
  have other : c ≠ '!' ∧ c ≠ '?' ∧ c ≠ '/' := by
    refine ⟨?_, ?_, ?_⟩ <;> rintro rfl <;> exact absurd nameChar (by decide)
  unfold token?
  split <;> simp_all

theorem token?_of_ne {c : Char} (ne : c ≠ '<') (rest : List Char)
    : token? (c :: rest) = run? (c :: rest) := by
  unfold token?
  split <;> simp_all

/-- A token is cut off only by the end of the text. -/
theorem left_of_isCut (cut : token.IsCut) (read : token? s = some (token, left))
    : left = [] := by
  cases token with
  | cutTag name attributes =>
      unfold token? at read
      split at read
      case h_1 => cases read
      case h_2 =>
        split at read
        case h_1 =>
          simp [comment?, Option.bind_eq_some_iff] at read
        case h_2 =>
          simp [section?, Option.bind_eq_some_iff] at read
      case h_3 => simp [instruction?, Option.bind_eq_some_iff] at read
      case h_4 => simp [closeTag?, Option.bind_eq_some_iff] at read
      case h_5 =>
        simp only [startTag?, Option.pure_def, Option.bind_eq_bind, Option.bind_eq_some_iff,
          Option.some.injEq, Prod.mk.injEq, Prod.exists] at read
        obtain ⟨_, _, _, _, ending, _, given, same, rfl⟩ := read
        cases ending with
        | cut => exact left_of_attributes? given
        | content | slash => cases same
      case h_6 => exact (not_isMarkup_of_run? read trivial).elim
  | openTag | emptyTag | closeTag | text | aside => exact cut.elim

/-- A text without a `<` in it is read as a run of text up to the next one. -/
theorem token?_of_untagged {behind : List Char} (nonempty : s ≠ []) (untagged : '<' ∉ s)
    (stops : ∀ c ∈ behind.head?, c = '<')
    : token? (s ++ behind)
      = if s.all isAllowed && !hasMark [']', ']', '>'] s
        then (text? s).map fun content => (.text content, behind)
        else none := by
  obtain ⟨c, rest, rfl⟩ := List.exists_cons_of_ne_nil nonempty
  obtain ⟨first, _⟩ := List.ne_and_not_mem_of_not_mem_cons untagged
  have text : ∀ d ∈ c :: rest, decide (d ≠ '<') = true := by
    intro d member
    refine decide_eq_true fun same => ?_
    exact untagged (same ▸ member)
  have ends : ∀ d ∈ behind.head?, decide (d ≠ '<') = false := by
    intro d member
    simp [stops d member]
  obtain ⟨taken, left⟩ := span_append (c :: rest) ends
  rw [List.takeWhile_eq_self_iff.mpr text] at taken left
  rw [List.cons_append, token?_of_ne (Ne.symm first), ← List.cons_append, run?]
  simp only [taken, left]
  rw [Option.map_eq_bind]
  rfl

/-- A token that is not cut off ends by itself, or it is a run of text. The cases are those of its
beginning. -/
theorem closed_or_run_of_token? (uncut : ¬ token.IsCut) (read : token? s = some (token, left))
    : Closed (fun s left => token? s = some (token, left)) s left
      ∨ run? s = some (token, left) ∧ ∃ c rest, s = c :: rest ∧ c ≠ '<' := by
  unfold token? at read
  split at read
  case h_1 => cases read
  case h_2 s =>
    split at read
    case h_1 behind found =>
      obtain ⟨taken, _, rfl, reads⟩ := closed_of_comment? read
      rw [← append_of_after? found]
      exact .inl ⟨'<' :: '!' :: '-' :: '-' :: taken, nofun, rfl, reads⟩
    case h_2 =>
      obtain ⟨behind, found, read⟩ := Option.bind_eq_some_iff.mp read
      obtain ⟨taken, _, rfl, reads⟩ := closed_of_section? read
      rw [← append_of_after? found]
      exact .inl ⟨'<' :: '!' :: '[' :: 'C' :: 'D' :: 'A' :: 'T' :: 'A' :: '[' :: taken, nofun, rfl,
        reads⟩
  case h_3 s =>
    obtain ⟨taken, _, rfl, reads⟩ := closed_of_instruction? read
    exact .inl ⟨'<' :: '?' :: taken, nofun, rfl, reads⟩
  case h_4 s =>
    obtain ⟨taken, _, rfl, reads⟩ := closed_of_closeTag? read
    exact .inl ⟨'<' :: '/' :: taken, nofun, rfl, reads⟩
  case h_5 s _ _ _ =>
    obtain ⟨taken, nonempty, rfl, reads⟩ := closed_of_startTag? uncut read
    refine .inl ⟨'<' :: taken, nofun, rfl, fun other => ?_⟩
    obtain ⟨c, rest, rfl⟩ := List.exists_cons_of_ne_nil nonempty
    obtain ⟨_, _, same, nameChar⟩ := exists_nameChar_of_startTag? read
    cases same
    exact (token?_of_nameChar nameChar _).trans (reads other)
  case h_6 nonempty _ _ _ noTag =>
    obtain ⟨c, rest, rfl⟩ := List.exists_cons_of_ne_nil nonempty
    exact .inr ⟨read, c, rest, rfl, fun same => noTag rest (by rw [same])⟩

/-- A token that is not cut off reads the same in front of anything if it is markup, and always in
front of markup and of all that begins alike. -/
theorem bounded_of_token? (uncut : ¬ token.IsCut) (read : token? s = some (token, left))
    : ∃ taken,
        taken ≠ []
        ∧ s = taken ++ left
        ∧ ∀ other,
            token.IsMarkup ∨ other.head? = left.head? ∨ other.head? = some '<'
            → token? (taken ++ other) = some (token, other) := by
  rcases closed_or_run_of_token? uncut read with ⟨taken, nonempty, split, reads⟩ | ⟨run, c, _, rfl, ne⟩
  · exact ⟨taken, nonempty, split, fun other _ => reads other⟩
  · obtain ⟨taken, split, reads⟩ := bounded_of_run? run
    have nonempty : taken ≠ [] := by
      rintro rfl
      have shorter := length_lt_of_token? read
      rw [split] at shorter
      exact absurd shorter (Nat.lt_irrefl _)
    refine ⟨taken, nonempty, split, fun other alike => ?_⟩
    have text : ¬ token.IsMarkup := not_isMarkup_of_run? run
    obtain ⟨d, behind, rfl⟩ := List.exists_cons_of_ne_nil nonempty
    cases split
    exact (token?_of_ne ne _).trans (reads other (alike.resolve_left text))

end ReceiptFleet.Markup.Xml
