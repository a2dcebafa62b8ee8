import ReceiptFleet.Markup.Compile
import ReceiptFleet.Proofs.Text.Pieces
import ReceiptFleet.Proofs.Text.Trimming

/-!
The normal form in which a text is printed. Two trimmings lead to it: white space of any kind goes from
around the text, and padding from around each of its lines. The second one does not undo the first, so the
form is final; it has all the ink of the text, and a line for every line.
-/

namespace ReceiptFleet.Text

-----------------------------------------------------------------------------------------
-- The ends of texts that are put together
-----------------------------------------------------------------------------------------

variable {separator c : Char}

/-- What is no separator ends the last piece. -/
theorem pieces_concat (other : c ≠ separator) (s : List Char)
    : ∃ front last, pieces separator (s ++ [c]) = front ++ [last ++ [c]] := by
  induction s with
  | nil => exact ⟨[], [], by simp [pieces, piecesAt, other]⟩
  | cons first rest ih =>
      obtain ⟨front, last, split⟩ := ih
      simp only [List.cons_append, pieces, piecesAt] at split ⊢
      by_cases cuts : first = separator
      · exact ⟨[] :: front, last, by rw [if_pos cuts, split, List.cons_append]⟩
      · rw [if_neg cuts]
        cases front with
        | nil =>
            obtain ⟨whole, none⟩ := List.cons.inj split
            exact ⟨[], first :: last, by rw [whole, none]; rfl⟩
        | cons piece others =>
            obtain ⟨same, behind⟩ := List.cons.inj split
            exact ⟨(first :: piece) :: others, last, by rw [same, behind]; rfl⟩

theorem head?_joinPieces (separator c : Char) (rest : List Char) (others : List (List Char))
    : (joinPieces separator ((c :: rest) :: others)).head? = some c := by
  cases others <;> rfl

theorem getLast?_joinPieces (separator c : Char) (front : List (List Char)) (last : List Char)
    : (joinPieces separator (front ++ [last ++ [c]])).getLast? = some c := by
  induction front with
  | nil => exact List.getLast?_concat
  | cons piece others ih =>
      have more : others ++ [last ++ [c]] ≠ [] := by simp
      rw [List.cons_append, joinPieces.eq_3 _ _ _ more, List.getLast?_append, List.getLast?_cons, ih]
      rfl

/-- Trimming its lines leaves a text that begins and ends with ink as it is at its ends. -/
theorem Bare.joinPieces_stripped {p q : Char → Bool} {s : List Char} (bare : Bare p s)
    (weaker : ∀ c, q c = true → p c = true) (white : p separator = true)
    : Bare p (joinPieces separator ((pieces separator s).map (stripChars q))) := by
  have kept (c : Char) (inked : p c = false) : q c = false ∧ c ≠ separator := by
    constructor
    · by_contra padding
      rw [weaker c (by simpa using padding)] at inked
      cases inked
    · rintro rfl
      rw [white] at inked
      cases inked
  rintro c (first | last)
  · cases s with
    | nil => cases first
    | cons d rest =>
        obtain ⟨unpadded, other⟩ := kept d (bare d (.inl rfl))
        have front := stripChars_append_cons unpadded [] (piecesAt separator rest).1
        simp only [List.nil_append, List.dropWhile_nil] at front
        simp only [pieces, piecesAt, if_neg other, List.map_cons, front, head?_joinPieces] at first
        exact Option.some.inj first ▸ bare d (.inl rfl)
  · rcases List.eq_nil_or_concat s with rfl | ⟨init, d, rfl⟩
    · cases last
    · rw [List.concat_eq_append] at bare last
      have ends : p d = false := bare d (.inr List.getLast?_concat)
      obtain ⟨unpadded, other⟩ := kept d ends
      obtain ⟨front, line, split⟩ := pieces_concat other init
      rw [split, List.map_append, List.map_singleton,
        stripChars_append_cons unpadded] at last
      rw [show dropEnd q [] = [] from rfl, getLast?_joinPieces] at last
      exact Option.some.inj last ▸ ends

end ReceiptFleet.Text

namespace ReceiptFleet.Markup

-----------------------------------------------------------------------------------------
-- The normal form
-----------------------------------------------------------------------------------------

/-- The lines of a text, without their line ends. -/
def linesOf (s : String) : List (List Char) := s.toList.splitOn '\n'

theorem linesOf_eq_pieces (s : String)
    : linesOf s = Text.pieces '\n' s.toList :=
  (Text.pieces_eq_splitOn '\n' s.toList).symm

/-- The lines of a text in normal form are those of the trimmed text without their padding. -/
theorem linesOf_normalText (content : String)
    : linesOf (normalText content)
      = (linesOf (Text.trim content)).map (Text.stripChars Text.isLinePadding) := by
  simp only [linesOf_eq_pieces]
  rw [normalText, String.toList_ofList, Text.trim, String.toList_ofList]
  refine Text.pieces_joinPieces ?_ ?_
  · exact fun none => Text.pieces_ne_nil _ _ (List.map_eq_nil_iff.mp none)
  · intro line among lineEnd
    obtain ⟨piece, present, rfl⟩ := List.mem_map.mp among
    exact Text.not_mem_of_mem_pieces present (Text.mem_of_mem_stripChars lineEnd)

theorem bare_normalText (content : String)
    : Text.Bare Text.isBlank (normalText content).toList := by
  rw [normalText, String.toList_ofList]
  exact (Text.bare_stripChars Text.isBlank content.toList).joinPieces_stripped
    Text.isBlank_of_isLinePadding rfl

theorem bare_of_mem_linesOf {content : String} {line : List Char}
    (among : line ∈ linesOf (normalText content))
    : Text.Bare Text.isLinePadding line := by
  rw [linesOf_normalText] at among
  obtain ⟨piece, _, rfl⟩ := List.mem_map.mp among
  exact Text.bare_stripChars _ piece

/-- Line ends and padding are no ink. -/
theorem ink_normalText (content : String)
    : Text.ink (normalText content).toList = Text.ink content.toList := by
  have joined (parts : List (List Char))
      : Text.ink (Text.joinPieces '\n' parts) = parts.flatMap Text.ink := by
    fun_induction Text.joinPieces '\n' parts with
    | case1 => rfl
    | case2 piece => rw [List.flatMap_singleton]
    | case3 piece others _ ih =>
        rw [Text.ink_append, List.flatMap_cons, ← ih]
        rfl
  rw [normalText, String.toList_ofList, joined, List.flatMap_map]
  simp only [Text.ink_stripChars Text.isBlank_of_isLinePadding]
  rw [← joined, Text.joinPieces_pieces, Text.ink_stripChars fun _ blank => blank]

/-- A text in normal form has nothing to trim, neither as a whole nor in any of its lines. -/
theorem normalText_normalText (content : String)
    : normalText (normalText content) = normalText content := by
  have whole := (bare_normalText content).stripChars_eq
  have lines
      : (linesOf (normalText content)).map (Text.stripChars Text.isLinePadding)
        = linesOf (normalText content) :=
    (List.map_congr_left fun line among => (bare_of_mem_linesOf among).stripChars_eq).trans
      (List.map_id _)
  rw [linesOf_eq_pieces] at lines
  rw [normalText, whole, lines, Text.joinPieces_pieces, String.ofList_toList]

/-- What a text node adds to a job, before the line end: a form that stays the same when it is printed
again, with all the ink of the text. It has the lines of the trimmed text, blank ones included, each
without its padding, so that no line has a space, a tab or a carriage return at its ends, and the form
itself has no white space at all there. -/
theorem text_prints_normal_form (content : String)
    : (∀ table (c : Compiler),
        (c.node table (.text content)).job = c.job.push (.text (normalText content ++ "\n")))
      ∧ normalText (normalText content) = normalText content
      ∧ Text.ink (normalText content).toList = Text.ink content.toList
      ∧ (linesOf (normalText content)).length = (linesOf (Text.trim content)).length
      ∧ linesOf (normalText content)
          = (linesOf (Text.trim content)).map (Text.stripChars Text.isLinePadding)
      ∧ (∀ line ∈ linesOf (normalText content), ∀ c ∈ [' ', '\t', '\r'],
          line.head? ≠ some c ∧ line.getLast? ≠ some c)
      ∧ ∀ c, Text.isBlank c = true →
          (normalText content).toList.head? ≠ some c
          ∧ (normalText content).toList.getLast? ≠ some c := by
  refine ⟨?_, normalText_normalText content, ink_normalText content, ?_, linesOf_normalText content,
    ?_, ?_⟩
  · intro table c
    have ended : normalText content ++ "\n" ≠ "" := by simp
    simp only [Compiler.node, Compiler.text, Job.line, Job.print, if_neg ended]
  · rw [linesOf_normalText, List.length_map]
  · intro line among c padding
    refine (bare_of_mem_linesOf among).ne_of_member ?_
    simp only [List.mem_cons, List.not_mem_nil, or_false] at padding
    rcases padding with rfl | rfl | rfl <;> rfl
  · exact fun c blank => (bare_normalText content).ne_of_member blank

end ReceiptFleet.Markup
