import ReceiptFleet.Text.Pieces

/-!
Cutting a text at a separator and putting the pieces together again. Each of the two undoes the other, and
no characters come up but those of the text and the separator.
-/

namespace ReceiptFleet.Text

theorem pieces_eq_splitOn (separator : Char) (s : List Char)
    : pieces separator s = s.splitOn separator := by
  induction s with
  | nil => rw [List.splitOn_nil]; rfl
  | cons c rest ih =>
      rw [List.splitOn_cons_eq_if_modifyHead, ← ih]
      simp only [pieces, piecesAt, beq_iff_eq]
      split <;> rfl

theorem joinPieces_eq_intercalate (separator : Char) (parts : List (List Char))
    : joinPieces separator parts = [separator].intercalate parts := by
  fun_induction joinPieces separator parts with
  | case1 => rfl
  | case2 piece => rw [List.intercalate_singleton]
  | case3 piece others more ih =>
      rw [List.intercalate_cons_of_ne_nil more, ih, List.append_assoc]
      rfl

theorem joinPieces_pieces (separator : Char) (s : List Char)
    : joinPieces separator (pieces separator s) = s := by
  rw [pieces_eq_splitOn, joinPieces_eq_intercalate, List.intercalate_splitOn]

theorem pieces_joinPieces {separator : Char} {parts : List (List Char)} (some : parts ≠ [])
    (whole : ∀ part ∈ parts, separator ∉ part)
    : pieces separator (joinPieces separator parts) = parts := by
  rw [pieces_eq_splitOn, joinPieces_eq_intercalate, List.splitOn_intercalate separator whole some]

theorem pieces_ne_nil (separator : Char) (s : List Char)
    : pieces separator s ≠ [] :=
  List.cons_ne_nil _ _

/-- There is no separator in a piece. -/
theorem not_mem_of_mem_pieces {separator : Char} {s piece : List Char}
    (among : piece ∈ pieces separator s)
    : separator ∉ piece := by
  induction s generalizing piece with
  | nil =>
      rw [List.mem_singleton.mp among]
      exact List.not_mem_nil
  | cons c rest ih =>
      have later : ∀ other ∈ (piecesAt separator rest).2, separator ∉ other :=
        fun other member => ih (List.mem_cons_of_mem _ member)
      simp only [pieces, piecesAt] at among
      split at among
      · rcases List.mem_cons.mp among with rfl | behind
        · exact List.not_mem_nil
        · exact ih behind
      · rename_i other
        rcases List.mem_cons.mp among with rfl | behind
        · exact List.not_mem_cons_of_ne_of_not_mem (Ne.symm other) (ih List.mem_cons_self)
        · exact later piece behind

/-- A separator between two texts keeps their pieces apart. -/
theorem pieces_append_cons (separator : Char) (s t : List Char)
    : pieces separator (s ++ separator :: t) = pieces separator s ++ pieces separator t := by
  simp only [pieces_eq_splitOn, List.splitOn_append_cons_self]

/-- A text is cut at its first separator. -/
theorem cut?_append_cons {separator : Char} {before : List Char} (first : separator ∉ before)
    (after : List Char)
    : cut? separator (before ++ separator :: after) = some (before, after) := by
  induction before with
  | nil => rw [List.nil_append, cut?, if_pos rfl]
  | cons c rest ih =>
      obtain ⟨other, later⟩ := List.ne_and_not_mem_of_not_mem_cons first
      rw [List.cons_append, cut?, if_neg (Ne.symm other), ih later]
      rfl

theorem cut?_of_not_mem {separator : Char} {s : List Char} (none : separator ∉ s)
    : cut? separator s = .none := by
  induction s with
  | nil => rfl
  | cons c rest ih =>
      obtain ⟨other, later⟩ := List.ne_and_not_mem_of_not_mem_cons none
      rw [cut?, if_neg (Ne.symm other), ih later]
      rfl

theorem mem_of_mem_pieces {separator c : Char} {s piece : List Char}
    (among : piece ∈ pieces separator s) (member : c ∈ piece)
    : c ∈ s := by
  induction s generalizing piece with
  | nil =>
      rw [pieces, piecesAt, List.mem_singleton] at among
      exact absurd (among ▸ member) List.not_mem_nil
  | cons first rest ih =>
      simp only [pieces, piecesAt] at among
      split at among
      · rcases List.mem_cons.mp among with rfl | later
        · exact absurd member List.not_mem_nil
        · exact List.mem_cons_of_mem _ (ih later member)
      · rcases List.mem_cons.mp among with rfl | later
        · rcases List.mem_cons.mp member with rfl | inside
          · exact List.mem_cons_self
          · exact List.mem_cons_of_mem _ (ih List.mem_cons_self inside)
        · exact List.mem_cons_of_mem _ (ih (List.mem_cons_of_mem _ later) member)

theorem mem_joinPieces {separator c : Char} {parts : List (List Char)}
    (member : c ∈ joinPieces separator parts)
    : c = separator ∨ ∃ piece ∈ parts, c ∈ piece := by
  fun_induction joinPieces separator parts with
  | case1 => exact absurd member List.not_mem_nil
  | case2 piece => exact .inr ⟨piece, List.mem_cons_self, member⟩
  | case3 piece others _ ih =>
      rcases List.mem_append.mp member with here | behind
      · exact .inr ⟨piece, List.mem_cons_self, here⟩
      · rcases List.mem_cons.mp behind with rfl | later
        · exact .inl rfl
        · exact (ih later).imp_right fun ⟨part, among, inside⟩ =>
            ⟨part, List.mem_cons_of_mem _ among, inside⟩

end ReceiptFleet.Text
