import Mathlib.Data.List.DropRight
import ReceiptFleet.Text.Blank

/-!
Trimming. What is left of a text has no member of the class at either end, so that trimming it
again changes nothing; and it is a part of the text. What is left out is no ink, which is what a text
has of characters other than white space.
-/

namespace ReceiptFleet.Text

variable {p : Char → Bool} {s : List Char}

theorem dropEnd_eq_rdropWhile (p : Char → Bool) (s : List Char)
    : dropEnd p s = s.rdropWhile p :=
  rfl

/-- The members of a class at the front of a text end where something else begins. -/
theorem span_run {run rest : List Char} (members : ∀ c ∈ run, p c = true)
    (stops : ∀ c ∈ rest.head?, p c = false)
    : (run ++ rest).takeWhile p = run ∧ (run ++ rest).dropWhile p = rest := by
  rw [List.takeWhile_append_of_pos members, List.dropWhile_append_of_pos members]
  cases rest with
  | nil => exact ⟨List.append_nil _, rfl⟩
  | cons c others =>
      have outside : ¬ p c = true := by simp [stops c rfl]
      rw [List.takeWhile_cons_of_neg outside, List.dropWhile_cons_of_neg outside]
      exact ⟨List.append_nil _, rfl⟩

/-- What is left behind them does not begin with another one. -/
theorem stops_dropWhile (p : Char → Bool) (s : List Char)
    : ∀ c ∈ (s.dropWhile p).head?, p c = false := by
  intro c begins
  have stops := List.head?_dropWhile_not p s
  rw [begins] at stops
  exact stops

/-- Leaving out the end of a list does not uncover a member of the class at its front. -/
theorem dropWhile_dropEnd_of_stopped (stopped : s.dropWhile p = s)
    : (dropEnd p s).dropWhile p = dropEnd p s := by
  rw [List.dropWhile_eq_self_iff] at stopped ⊢
  intro positive
  have front : dropEnd p s <+: s := List.rdropWhile_prefix p s
  rw [front.getElem positive]
  exact stopped (Nat.lt_of_lt_of_le positive front.length_le)

theorem mem_of_mem_stripChars {c : Char} (member : c ∈ stripChars p s)
    : c ∈ s := by
  have front : stripChars p s <+: s.dropWhile p := List.rdropWhile_prefix p _
  exact (List.dropWhile_suffix p).subset (front.subset member)

/-- What is no member of the class is not trimmed. -/
theorem mem_stripChars {c : Char} (member : c ∈ s) (other : p c = false)
    : c ∈ stripChars p s := by
  have kept (t : List Char) (inside : c ∈ t) : c ∈ t.dropWhile p := by
    rw [← List.takeWhile_append_dropWhile (p := p) (l := t)] at inside
    refine (List.mem_append.mp inside).resolve_left fun dropped => ?_
    rw [List.mem_takeWhile_imp dropped] at other
    cases other
  have back := kept _ (List.mem_reverse.mpr (kept s member))
  exact List.mem_reverse.mpr back

theorem mem_of_mem_trim {c : Char} {s : String} (member : c ∈ (trim s).toList)
    : c ∈ s.toList := by
  rw [trim, String.toList_ofList] at member
  exact mem_of_mem_stripChars member

/-- Members of the class at the front are trimmed. -/
theorem stripChars_append_left {padding : List Char} (members : ∀ c ∈ padding, p c = true)
    (s : List Char)
    : stripChars p (padding ++ s) = stripChars p s := by
  rw [stripChars, List.dropWhile_append_of_pos members, stripChars]

/-- So are members at the end. -/
theorem stripChars_append_right {padding : List Char} (members : ∀ c ∈ padding, p c = true)
    (s : List Char)
    : stripChars p (s ++ padding) = stripChars p s := by
  have back (t : List Char) : dropEnd p (t ++ padding) = dropEnd p t := by
    have reversed : ∀ c ∈ padding.reverse, p c = true :=
      fun c member => members c (List.mem_reverse.mp member)
    rw [dropEnd, List.reverse_append, List.dropWhile_append_of_pos reversed, dropEnd]
  rw [stripChars, List.dropWhile_append, stripChars]
  split
  case isTrue none =>
    rw [List.dropWhile_eq_nil_iff.mpr members, List.isEmpty_iff.mp none]
  case isFalse => exact back _

/-- Trimming one end first makes no difference. -/
theorem stripChars_dropWhile (p : Char → Bool) (s : List Char)
    : stripChars p (s.dropWhile p) = stripChars p s := by
  rw [stripChars, List.dropWhile_idempotent p s, stripChars]

theorem stripChars_dropEnd (p : Char → Bool) (s : List Char)
    : stripChars p (dropEnd p s) = stripChars p s := by
  have members : ∀ c ∈ s.rtakeWhile p, p c = true := fun c => List.mem_rtakeWhile_imp
  rw [← stripChars_append_right members, dropEnd_eq_rdropWhile, List.rdropWhile_append_rtakeWhile]

theorem dropWhile_append_cons {c : Char} (other : p c = false) (front back : List Char)
    : (front ++ c :: back).dropWhile p = front.dropWhile p ++ c :: back := by
  rw [List.dropWhile_append, List.dropWhile_cons_of_neg (by simp [other])]
  split
  case isTrue none => rw [List.isEmpty_iff.mp none, List.nil_append]
  case isFalse => rfl

theorem dropEnd_append_cons {c : Char} (other : p c = false) (front back : List Char)
    : dropEnd p (front ++ c :: back) = front ++ c :: dropEnd p back := by
  have reversed : (front ++ c :: back).reverse = back.reverse ++ c :: front.reverse := by simp
  rw [dropEnd, reversed, dropWhile_append_cons other, dropEnd]
  simp

/-- What is no member of the class stops the trimming from both sides. -/
theorem stripChars_append_cons {c : Char} (other : p c = false) (front back : List Char)
    : stripChars p (front ++ c :: back) = front.dropWhile p ++ c :: dropEnd p back := by
  rw [stripChars, dropWhile_append_cons other, dropEnd_append_cons other]

/-- A text has no member of the class at either of its ends. -/
def Bare (p : Char → Bool) (s : List Char) : Prop :=
  ∀ c, s.head? = some c ∨ s.getLast? = some c → p c = false

theorem bare_stripChars (p : Char → Bool) (s : List Char)
    : Bare p (stripChars p s) := by
  have stopped (t : List Char) (same : t.dropWhile p = t) (c : Char) (first : t.head? = some c)
      : p c = false := by
    have head := List.head?_dropWhile_not p t
    rwa [same, first] at head
  rintro c (first | last)
  · refine stopped _ (dropWhile_dropEnd_of_stopped ?_) c first
    exact List.dropWhile_idempotent p s
  · rw [← List.head?_reverse, stripChars, dropEnd, List.reverse_reverse] at last
    exact stopped _ (List.dropWhile_idempotent p _) c last

theorem Bare.ne_of_member (bare : Bare p s) {c : Char} (member : p c = true)
    : s.head? ≠ some c ∧ s.getLast? ≠ some c :=
  ⟨fun first => Bool.false_ne_true ((bare c (.inl first)).symm.trans member),
    fun last => Bool.false_ne_true ((bare c (.inr last)).symm.trans member)⟩

/-- A text with nothing to trim stays as it is. -/
theorem Bare.stripChars_eq (bare : Bare p s)
    : stripChars p s = s := by
  have stops (t : List Char) (other : ∀ c, t.head? = some c → p c = false) : t.dropWhile p = t := by
    cases t with
    | nil => rfl
    | cons c rest => exact List.dropWhile_cons_of_neg (by simp [other c rfl])
  rw [stripChars, stops s fun c first => bare c (.inl first), dropEnd,
    stops s.reverse fun c last => bare c (.inr (List.head?_reverse ▸ last)), List.reverse_reverse]

theorem stripChars_stripChars (p : Char → Bool) (s : List Char)
    : stripChars p (stripChars p s) = stripChars p s :=
  (bare_stripChars p s).stripChars_eq

@[simp] theorem trim_trim (s : String)
    : trim (trim s) = trim s := by
  rw [trim, trim, String.toList_ofList, stripChars_stripChars]

@[simp] theorem trim_empty
    : trim "" = "" :=
  rfl

-----------------------------------------------------------------------------------------
-- Ink
-----------------------------------------------------------------------------------------

/-- The ink of a text: its characters that are not white space. -/
def ink (s : List Char) : List Char := s.filter (!isBlank ·)

@[simp] theorem ink_append (s t : List Char)
    : ink (s ++ t) = ink s ++ ink t :=
  List.filter_append ..

theorem ink_eq_nil_iff
    : ink s = [] ↔ isAllBlank s = true := by
  simp [ink, isAllBlank, List.filter_eq_nil_iff]

theorem ink_ne_nil_iff
    : ink s ≠ [] ↔ ∃ c ∈ s, isBlank c = false := by
  simp [ink]

theorem isAllBlank_append (s t : List Char)
    : isAllBlank (s ++ t) = (isAllBlank s && isAllBlank t) :=
  List.all_append

theorem isAllBlank_eq_false_iff
    : isAllBlank s = false ↔ ∃ c ∈ s, isBlank c = false := by
  simp [isAllBlank]

/-- Trimming white space leaves all the ink, whatever class of white space is trimmed. -/
theorem ink_stripChars (white : ∀ c, p c = true → isBlank c = true) (s : List Char)
    : ink (stripChars p s) = ink s := by
  have front (t : List Char) : ink (t.dropWhile p) = ink t := by
    have dropped : ink (t.takeWhile p) = [] :=
      ink_eq_nil_iff.mpr
        (List.all_eq_true.mpr fun c member => white c (List.mem_takeWhile_imp member))
    rw [← List.takeWhile_append_dropWhile (p := p) (l := t), ink_append, dropped,
      List.nil_append, List.takeWhile_append_dropWhile]
  have reversed (t : List Char) : ink t.reverse = (ink t).reverse := List.filter_reverse
  rw [stripChars, dropEnd, reversed, front, reversed, List.reverse_reverse, front]

@[simp] theorem ink_trim (s : String)
    : ink (trim s).toList = ink s.toList := by
  rw [trim, String.toList_ofList, ink_stripChars fun _ blank => blank]

end ReceiptFleet.Text
