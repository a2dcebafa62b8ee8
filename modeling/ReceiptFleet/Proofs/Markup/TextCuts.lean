import ReceiptFleet.Proofs.Markup.Places
import ReceiptFleet.Proofs.Text.Trimming

/-!
Cutting a run of text in two. Each half stands for a part of what the whole run stands for, up to white
space at the cut: there a carriage return may become a line end of its own, and what follows a reference
is no longer kept as it is.
-/

namespace ReceiptFleet.Markup.Xml

-----------------------------------------------------------------------------------------
-- Seams
-----------------------------------------------------------------------------------------

/-- Two texts, one behind the other, are a third one, up to white space where they meet. -/
def Joined (first second whole : List Char) : Prop :=
  ∃ front back seam seam₁ seam₂,
    Text.isAllBlank seam = true
    ∧ Text.isAllBlank seam₁ = true
    ∧ Text.isAllBlank seam₂ = true
    ∧ first = front ++ seam₁
    ∧ second = seam₂ ++ back
    ∧ whole = front ++ seam ++ back

variable {first second whole : List Char}

theorem joined_nil (first : List Char)
    : Joined first [] first :=
  ⟨first, [], [], [], [], rfl, rfl, rfl, by simp, rfl, by simp⟩

/-- More may stand in front of the first text and behind the second one. -/
theorem Joined.extend (joined : Joined first second whole) (before after : List Char)
    : Joined (before ++ first) (second ++ after) (before ++ whole ++ after) := by
  obtain ⟨front, back, seam, seam₁, seam₂, blank, blank₁, blank₂, rfl, rfl, rfl⟩ := joined
  exact ⟨before ++ front, back ++ after, seam, seam₁, seam₂, blank, blank₁, blank₂, by simp⟩

/-- No ink is lost at the seam. -/
theorem Joined.ink_eq (joined : Joined first second whole)
    : Text.ink whole = Text.ink first ++ Text.ink second := by
  obtain ⟨front, back, seam, seam₁, seam₂, blank, blank₁, blank₂, rfl, rfl, rfl⟩ := joined
  simp only [Text.ink_append, Text.ink_eq_nil_iff.mpr blank, Text.ink_eq_nil_iff.mpr blank₁,
    Text.ink_eq_nil_iff.mpr blank₂, List.append_nil, List.nil_append]

/-- If the first text is blank, the second one is the whole, up to white space around it. -/
theorem Joined.strip_second (joined : Joined first second whole)
    (blank : Text.isAllBlank first = true)
    : Text.stripChars Text.isBlank whole = Text.stripChars Text.isBlank second := by
  obtain ⟨front, back, seam, seam₁, seam₂, blankSeam, _, blank₂, rfl, rfl, rfl⟩ := joined
  rw [Text.isAllBlank_append, Bool.and_eq_true] at blank
  have lead : Text.isAllBlank (front ++ seam) = true := by
    rw [Text.isAllBlank_append, blank.1, blankSeam]
    rfl
  rw [Text.stripChars_append_left (List.all_eq_true.mp lead),
    Text.stripChars_append_left (List.all_eq_true.mp blank₂)]

/-- If the second text is blank, the first one is. -/
theorem Joined.strip_first (joined : Joined first second whole)
    (blank : Text.isAllBlank second = true)
    : Text.stripChars Text.isBlank whole = Text.stripChars Text.isBlank first := by
  obtain ⟨front, back, seam, seam₁, seam₂, blankSeam, blank₁, _, rfl, rfl, rfl⟩ := joined
  rw [Text.isAllBlank_append, Bool.and_eq_true] at blank
  rw [Text.stripChars_append_right (List.all_eq_true.mp blank.2),
    Text.stripChars_append_right (List.all_eq_true.mp blankSeam),
    Text.stripChars_append_right (List.all_eq_true.mp blank₁)]

-----------------------------------------------------------------------------------------
-- References
-----------------------------------------------------------------------------------------

/-- No reference goes on from a text that can be read into the text behind it. -/
theorem piecesFrom?_append {name : Option (List Char)} {s : List Char} {pieces : List Piece}
    (read : piecesFrom? name s = some pieces) (t : List Char)
    : piecesFrom? name (s ++ t) = (pieces? t).map (pieces ++ ·) := by
  induction s generalizing name pieces with
  | nil =>
      simp only [piecesFrom?, Option.ite_none_right_eq_some] at read
      obtain ⟨outside, same⟩ := read
      cases same
      rw [Option.isNone_iff_eq_none.mp outside]
      exact Option.map_id'.symm
  | cons c rest ih =>
      cases name with
      | none =>
          simp only [piecesFrom?, List.cons_append] at read ⊢
          split at read
          case isTrue begins =>
            rw [if_pos begins]
            exact ih read
          case isFalse other =>
            obtain ⟨later, found, rfl⟩ := Option.map_eq_some_iff.mp read
            rw [if_neg other, ih found, Option.map_map]
            rfl
      | some name =>
          simp only [piecesFrom?, List.cons_append] at read ⊢
          split at read
          case isTrue ends =>
            obtain ⟨character, referenced, read⟩ := Option.bind_eq_some_iff.mp read
            obtain ⟨later, found, same⟩ := Option.bind_eq_some_iff.mp read
            cases same
            rw [if_pos ends, referenced, ih found]
            cases pieces? t <;> rfl
          case isFalse other =>
            rw [if_neg other]
            exact ih read

-----------------------------------------------------------------------------------------
-- Line ends
-----------------------------------------------------------------------------------------

/-- The text with one more written character, last first; `last` tells of a carriage return at the end
of the run. -/
def takeUp (last : Bool) (c : Char) (done : List Char) : List Char :=
  if done.head? = some '\r' then
    if last then '\n' :: '\n' :: done.tail
    else if c = '\n' then '\n' :: done.tail
    else c :: '\n' :: done.tail
  else (if last then '\n' else c) :: done

/-- The text without a carriage return that the next character may change. -/
def settled (done : List Char) : List Char :=
  if done.head? = some '\r' then done.tail else done

theorem textFrom_literal (done : List Char) (c : Char) (rest : List Piece)
    : textFrom false done (.literal c :: rest)
      = textFrom false (takeUp (rest.isEmpty && c == '\r') c done) rest := by
  by_cases pending : done.head? = some '\r'
  · obtain ⟨before, rfl⟩ := List.head?_eq_some_iff.mp pending
    simp only [textFrom, takeUp, List.head?_cons, List.tail_cons, if_true, Bool.false_eq_true,
      if_false]
    split
    · rfl
    · split <;> rfl
  · have other : ∀ before, done = '\r' :: before → False := by
      rintro before rfl
      exact pending rfl
    simp only [textFrom, takeUp, if_neg pending, Bool.false_eq_true, if_false]

theorem settled_spec (done : List Char)
    : ∃ seam, Text.isAllBlank seam = true ∧ done.reverse = (settled done).reverse ++ seam := by
  rw [settled]
  split
  case isTrue pending =>
    obtain ⟨before, rfl⟩ := List.head?_eq_some_iff.mp pending
    exact ⟨['\r'], rfl, by simp⟩
  case isFalse => exact ⟨[], rfl, by simp⟩

theorem takeUp_ne_nil (last : Bool) (c : Char) (done : List Char)
    : takeUp last c done ≠ [] := by
  rw [takeUp]
  split
  · split
    · nofun
    · split <;> nofun
  · nofun

/-- Only the last character of what was taken up before has a say in what comes next. -/
theorem takeUp_append {recent : List Char} (nonempty : recent ≠ []) (last : Bool) (c : Char)
    (done : List Char)
    : takeUp last c (recent ++ done) = takeUp last c recent ++ done := by
  obtain ⟨d, recent, rfl⟩ := List.exists_cons_of_ne_nil nonempty
  by_cases pending : d = '\r'
  · cases last with
    | true => simp [takeUp, pending]
    | false => by_cases newline : c = '\n' <;> simp [takeUp, pending, newline]
  · simp [takeUp, pending]

theorem textFrom_append {recent : List Char} (nonempty : recent ≠ []) (asIs : Bool)
    (done : List Char) (pieces : List Piece)
    : textFrom asIs (recent ++ done) pieces = done.reverse ++ textFrom asIs recent pieces := by
  induction pieces generalizing asIs recent with
  | nil => simp [textFrom]
  | cons piece rest ih =>
      cases piece with
      | reference c => exact @ih (c :: recent) (List.cons_ne_nil _ _) true
      | literal c =>
          cases asIs with
          | true => exact @ih (c :: recent) (List.cons_ne_nil _ _) false
          | false =>
              rw [textFrom_literal, textFrom_literal, takeUp_append nonempty,
                ih (takeUp_ne_nil _ _ _)]

/-- A carriage return ends a run only as the last of its characters. -/
theorem not_last {c : Char} {rest : List Piece} (further : ¬ (rest = [] ∧ c = '\r'))
    : (rest.isEmpty && c == '\r') = false := by
  cases rest with
  | nil => simpa using further
  | cons piece rest => rfl

/-- What is read in front of a cut stays, up to a carriage return that is last there. The induction is
over the pieces in front of the cut. -/
theorem textFrom_front (pieces : List Piece) (asIs : Bool) (done : List Char)
    : ∃ asIs' done' seam,
        Text.isAllBlank seam = true
        ∧ textFrom asIs done pieces = (settled done').reverse ++ seam
        ∧ ∀ more, more ≠ [] → textFrom asIs done (pieces ++ more) = textFrom asIs' done' more := by
  induction pieces generalizing asIs done with
  | nil =>
      obtain ⟨seam, blank, split⟩ := settled_spec done
      exact ⟨asIs, done, seam, blank, split, fun _ _ => rfl⟩
  | cons piece rest ih =>
      cases piece with
      | reference c => exact ih true (c :: done)
      | literal c =>
          cases asIs with
          | true => exact ih false (c :: done)
          | false =>
              by_cases last : rest = [] ∧ c = '\r'
              · obtain ⟨rfl, rfl⟩ := last
                refine ⟨false, takeUp false '\r' done, ['\n'], rfl, ?_, fun more nonempty => ?_⟩
                · rw [textFrom_literal, textFrom]
                  by_cases pending : done.head? = some '\r' <;> simp [takeUp, settled, pending]
                · have others : more.isEmpty = false := by simpa using nonempty
                  rw [List.cons_append, List.nil_append, textFrom_literal, others, Bool.false_and]
              · have plain (more : List Piece) : ((rest ++ more).isEmpty && c == '\r') = false := by
                  refine not_last fun ⟨empty, same⟩ => last ⟨?_, same⟩
                  exact (List.append_eq_nil_iff.mp empty).1
                obtain ⟨asIs', done', seam, blank, split, further⟩ := ih false (takeUp false c done)
                have here := plain []
                rw [List.append_nil] at here
                refine ⟨asIs', done', seam, blank, ?_, fun more nonempty => ?_⟩
                · rw [textFrom_literal, here, split]
                · rw [List.cons_append, textFrom_literal, plain, further more nonempty]

/-- What is read behind a cut is read as if nothing stood in front of it, up to line ends that the cut
goes through. -/
theorem textFrom_back {pieces : List Piece} (nonempty : pieces ≠ []) (asIs : Bool)
    (done : List Char)
    : ∃ seam seam₂ back,
        Text.isAllBlank seam = true
        ∧ Text.isAllBlank seam₂ = true
        ∧ textFrom asIs done pieces = (settled done).reverse ++ seam ++ back
        ∧ textFrom false [] pieces = seam₂ ++ back := by
  obtain ⟨piece, rest, rfl⟩ := List.exists_cons_of_ne_nil nonempty
  obtain ⟨pad, padding, split⟩ := settled_spec done
  have one (c : Char) : [c] ≠ [] := List.cons_ne_nil _ _
  have kept (asIs : Bool) (c : Char)
      : textFrom asIs (c :: done) rest = (settled done).reverse ++ pad ++ textFrom asIs [c] rest := by
    rw [← split, ← textFrom_append (one c)]
    rfl
  cases piece with
  | reference c => exact ⟨pad, [], textFrom true [c] rest, padding, rfl, kept true c, rfl⟩
  | literal c =>
      have alone
          : textFrom false [] (.literal c :: rest)
            = textFrom false [if rest.isEmpty && c == '\r' then '\n' else c] rest := by
        rw [textFrom_literal]
        rfl
      rw [alone]
      cases asIs with
      | true =>
          by_cases last : rest = [] ∧ c = '\r'
          · obtain ⟨rfl, rfl⟩ := last
            have blank : Text.isAllBlank (pad ++ ['\r']) = true := by
              rw [Text.isAllBlank_append, padding]
              rfl
            exact ⟨pad ++ ['\r'], ['\n'], [], blank, rfl, by simp [textFrom, split], rfl⟩
          · rw [not_last last]
            exact ⟨pad, [], textFrom false [c] rest, padding, rfl, kept false c, rfl⟩
      | false =>
          rw [textFrom_literal]
          by_cases pending : done.head? = some '\r'
          · obtain ⟨before, rfl⟩ := List.head?_eq_some_iff.mp pending
            by_cases last : rest = [] ∧ c = '\r'
            · obtain ⟨rfl, rfl⟩ := last
              exact ⟨['\n', '\n'], ['\n'], [], rfl, rfl, by simp [takeUp, settled, textFrom], rfl⟩
            · rw [not_last last]
              by_cases newline : c = '\n'
              · subst newline
                refine ⟨[], [], textFrom false ['\n'] rest, rfl, rfl, ?_, rfl⟩
                rw [List.append_nil]
                exact textFrom_append (one '\n') false before rest
              · refine ⟨['\n'], [], textFrom false [c] rest, rfl, rfl, ?_, rfl⟩
                have taken : takeUp false c ('\r' :: before) = [c] ++ ('\n' :: before) := by
                  simp [takeUp, newline]
                rw [taken, textFrom_append (one c), List.reverse_cons]
                rfl
          · have taken (last : Bool) : takeUp last c done = (if last then '\n' else c) :: done := by
              rw [takeUp, if_neg pending]
            rw [taken]
            exact ⟨pad, [], _, padding, rfl, kept false _, rfl⟩

/-- Both halves of a run of text can be read if the whole and the first half can, and what they stand
for is, joined, what the whole stands for. -/
theorem joined_meaning {s t : List Char} (whole : (text? (s ++ t)).isSome = true)
    (half : (text? s).isSome = true)
    : (text? t).isSome = true ∧ Joined (meaning s) (meaning t) (meaning (s ++ t)) := by
  simp only [text?, Option.isSome_map, meaning] at whole half ⊢
  obtain ⟨front, read⟩ := Option.isSome_iff_exists.mp half
  have split := piecesFrom?_append read t
  rw [← pieces?] at split
  rw [split, Option.isSome_map] at whole
  obtain ⟨back, read'⟩ := Option.isSome_iff_exists.mp whole
  rw [split, read, read']
  refine ⟨rfl, ?_⟩
  simp only [Option.map_some, Option.getD_some]
  by_cases none : back = []
  · subst none
    rw [List.append_nil]
    exact joined_nil _
  · obtain ⟨asIs, done, seam₁, blank₁, front', further⟩ := textFrom_front front false []
    obtain ⟨seam, seam₂, rest, blank, blank₂, back', alone⟩ := textFrom_back none asIs done
    exact ⟨(settled done).reverse, rest, seam, seam₁, seam₂, blank, blank₁, blank₂, front', alone,
      (further back none).trans back'⟩

end ReceiptFleet.Markup.Xml
