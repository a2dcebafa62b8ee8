import Mathlib.Data.Stream.Init
import Mathlib.Order.Monotone.Basic
import ReceiptFleet.Proofs.Markup.PrintedText
import ReceiptFleet.Proofs.Text.GbkBytes

/-!
The lines of separators. A pattern is repeated without end, and a line takes its characters one after the
other until the next one does not fit. Every character takes a column, so the line is full after so many
characters as it has columns at most; it is the longest beginning of the repetition that fits.
-/

namespace ReceiptFleet.Markup

-----------------------------------------------------------------------------------------
-- Beginnings of an endless text
-----------------------------------------------------------------------------------------

/-- The columns of so many characters of an endless text. -/
def widthOfFirst (text : Stream' Char) (count : Nat) : Nat := Text.Gbk.charsWidth (text.take count)

theorem widthOfFirst_succ (text : Stream' Char) (count : Nat)
    : widthOfFirst text (count + 1)
      = widthOfFirst text count + Text.Gbk.charWidth (text.get count) := by
  rw [widthOfFirst, Stream'.take_succ', Text.Gbk.charsWidth_append, widthOfFirst]
  rfl

theorem widthOfFirst_cons (c : Char) (text : Stream' Char) (count : Nat)
    : widthOfFirst (Stream'.cons c text) (count + 1)
      = Text.Gbk.charWidth c + widthOfFirst text count := by
  rw [widthOfFirst, Stream'.take_succ_cons, Text.Gbk.charsWidth, widthOfFirst]

/-- Every character more takes more columns. -/
theorem strictMono_widthOfFirst (text : Stream' Char)
    : StrictMono (widthOfFirst text) := by
  refine strictMono_nat_of_lt_succ fun count => ?_
  rw [widthOfFirst_succ]
  exact Nat.lt_add_of_pos_right (Text.Gbk.charWidth_pos _)

/-- As many characters fit as there are before the first one that does not fit. -/
theorem widthOfFirst_le_iff {text : Stream' Char} {room count : Nat}
    (fits : widthOfFirst text count ≤ room) (full : room < widthOfFirst text (count + 1)) (n : Nat)
    : widthOfFirst text n ≤ room ↔ n ≤ count := by
  constructor
  · intro within
    have fewer := (strictMono_widthOfFirst text).lt_iff_lt.mp (Nat.lt_of_le_of_lt within full)
    exact Nat.le_of_lt_succ fewer
  · exact fun fewer => Nat.le_trans ((strictMono_widthOfFirst text).monotone fewer) fits

-----------------------------------------------------------------------------------------
-- Filling a line, pass by pass
-----------------------------------------------------------------------------------------

/-- Why a line is filled no further: the next character takes no column, or there is no room for it. -/
inductive FillEnd where
  | noColumn
  | noRoom
deriving DecidableEq

/-- A line that is being filled from an endless text: what it has, the columns that are used, and what is
to come. -/
structure Filling where
  line : List Char
  used : Nat
  ahead : Stream' Char

namespace Filling

/-- An empty line. -/
def start (text : Stream' Char) : Filling := ⟨[], 0, text⟩

/-- One pass: the line takes the next character, or it is filled no further. -/
def pass (width : Nat) (f : Filling) : Except FillEnd Filling :=
  let columns := Text.Gbk.charWidth f.ahead.head
  if columns = 0 then .error .noColumn
  else if width < f.used + columns then .error .noRoom
  else .ok ⟨f.line ++ [f.ahead.head], f.used + columns, f.ahead.tail⟩

/-- So many passes, one after the other. -/
def passes (width : Nat) (f : Filling) : Nat → Except FillEnd Filling
  | 0 => .ok f
  | count + 1 => (f.passes width count).bind (pass width)

/-- The line that has taken so many characters of a text. -/
def reached (text : Stream' Char) (count : Nat) : Filling :=
  ⟨text.take count, widthOfFirst text count, text.drop count⟩

/-- A pass takes the next character if there is room, and no character is without columns. -/
theorem pass_reached (text : Stream' Char) (width count : Nat)
    : (reached text count).pass width
      = if widthOfFirst text (count + 1) ≤ width then .ok (reached text (count + 1))
        else .error .noRoom := by
  have next : (text.drop count).head = text.get count := text.head_drop count
  have columns : Text.Gbk.charWidth (text.get count) ≠ 0 := (Text.Gbk.charWidth_pos _).ne'
  simp only [pass, reached, next, if_neg columns]
  rw [← widthOfFirst_succ, ← Stream'.take_succ', Stream'.tail_drop']
  by_cases fits : widthOfFirst text (count + 1) ≤ width
  · rw [if_pos fits, if_neg (Nat.not_lt_of_le fits)]
  · rw [if_neg fits, if_pos (Nat.lt_of_not_le fits)]

/-- So many passes take as many characters if these fit, and else there comes one for which there is no
room: by induction over the passes, where what fits has fitted before. -/
theorem passes_start (text : Stream' Char) (width count : Nat)
    : (start text).passes width count
      = if widthOfFirst text count ≤ width then .ok (reached text count) else .error .noRoom := by
  induction count with
  | zero => rfl
  | succ count ih =>
      have more := strictMono_widthOfFirst text (Nat.lt_succ_self count)
      rw [passes, ih]
      by_cases fits : widthOfFirst text count ≤ width
      · rw [if_pos fits]
        exact pass_reached text width count
      · rw [if_neg fits, if_neg fun later => fits (Nat.le_trans more.le later)]
        rfl

end Filling

-----------------------------------------------------------------------------------------
-- The line of a separator
-----------------------------------------------------------------------------------------

/-- What a separator repeats, without end. -/
def endless (pattern : Option String) : Stream' Char :=
  Stream'.cycle (patternText pattern).toList (patternText_ne_nil pattern)

variable {pattern rest : List Char}

/-- What is left of a repetition, and then the pattern without end, goes on with what is up next. -/
theorem append_cycle (nonempty : pattern ≠ [])
    : rest ++ₛ Stream'.cycle pattern nonempty
      = upNext pattern rest ++ₛ Stream'.cycle pattern nonempty := by
  rw [upNext]
  split
  case isTrue used => rw [List.isEmpty_iff.mp used, ← Stream'.cycle_eq]; rfl
  case isFalse => rfl

/-- A line is filled with the beginning of the repetition that fits, if it may have a character for every
column that is left. The induction is over how many characters it may have. -/
theorem fill_fits (nonempty : pattern ≠ []) {room count : Nat} (enough : room ≤ count)
    : let text := rest ++ₛ Stream'.cycle pattern nonempty
      let line := fill pattern room rest count
      line = text.take line.length
      ∧ widthOfFirst text line.length ≤ room ∧ room < widthOfFirst text (line.length + 1) := by
  induction count generalizing room rest with
  | zero =>
      obtain rfl : room = 0 := Nat.le_zero.mp enough
      refine ⟨rfl, Nat.le_refl 0, ?_⟩
      exact strictMono_widthOfFirst _ (Nat.lt_succ_self 0)
  | succ count ih =>
      obtain ⟨c, later, next⟩ := List.exists_cons_of_ne_nil (upNext_ne_nil nonempty rest)
      have columns := Text.Gbk.charWidth_pos c
      have text
          : rest ++ₛ Stream'.cycle pattern nonempty
            = Stream'.cons c (later ++ₛ Stream'.cycle pattern nonempty) := by
        rw [append_cycle, next, Stream'.cons_append_stream]
      simp only [text, fill_succ next]
      by_cases full : room < Text.Gbk.charWidth c
      · rw [if_pos (.inr full)]
        refine ⟨rfl, Nat.zero_le room, ?_⟩
        rw [List.length_nil, widthOfFirst_cons]
        exact Nat.lt_add_right _ full
      · obtain ⟨line, fits, beyond⟩ :=
          ih (show room - Text.Gbk.charWidth c ≤ count by omega)
        rw [if_neg (by omega), List.length_cons, widthOfFirst_cons, widthOfFirst_cons,
          Stream'.take_succ_cons, ← line]
        exact ⟨rfl, by omega, by omega⟩

/-- The line of a separator is the beginning of its repetition that fits into the width. -/
theorem separatorLine_fits (pattern : Option String) (width : Nat)
    : let line := (separatorLine pattern width).toList
      line = (endless pattern).take line.length
      ∧ widthOfFirst (endless pattern) line.length ≤ width
      ∧ width < widthOfFirst (endless pattern) (line.length + 1) := by
  rw [separatorLine_eq, String.toList_ofList]
  exact fill_fits (patternText_ne_nil pattern) (Nat.le_refl width)

/-- The characters of a pattern with a single width take that many columns each, by induction over how
many of them there are. -/
theorem widthOfFirst_uniform (nonempty : pattern ≠ []) {columns : Nat}
    (uniform : ∀ c ∈ pattern, Text.Gbk.charWidth c = columns)
    (restUniform : ∀ c ∈ rest, Text.Gbk.charWidth c = columns) (count : Nat)
    : widthOfFirst (rest ++ₛ Stream'.cycle pattern nonempty) count = count * columns := by
  induction count generalizing rest with
  | zero => rw [Nat.zero_mul]; rfl
  | succ count ih =>
      obtain ⟨c, later, next⟩ := List.exists_cons_of_ne_nil (upNext_ne_nil nonempty rest)
      have allUniform (d : Char) (member : d ∈ c :: later) : Text.Gbk.charWidth d = columns :=
        (mem_upNext (next ▸ member)).elim (uniform d) (restUniform d)
      rw [append_cycle, next, Stream'.cons_append_stream, widthOfFirst_cons,
        ih fun d member => allUniform d (List.mem_cons_of_mem _ member),
        allUniform c List.mem_cons_self, Nat.succ_mul, Nat.add_comm]

/-- A pattern with characters of a single width fills a line whose width is a multiple of that one. -/
theorem width_separatorLine_of_uniform {pattern : Option String} {columns width : Nat}
    (uniform : ∀ c ∈ (patternText pattern).toList, Text.Gbk.charWidth c = columns)
    (whole : columns ∣ width)
    : Text.Gbk.width (separatorLine pattern width) = width := by
  obtain ⟨line, fits, full⟩ := separatorLine_fits pattern width
  obtain ⟨times, rfl⟩ := whole
  have taken (count : Nat) : widthOfFirst (endless pattern) count = count * columns :=
    widthOfFirst_uniform (patternText_ne_nil pattern) uniform
      (fun _ nowhere => absurd nowhere List.not_mem_nil) count
  have most : times ≤ (separatorLine pattern (columns * times)).toList.length := by
    rw [← widthOfFirst_le_iff fits full, taken, Nat.mul_comm]
  rw [Text.Gbk.width, line]
  apply Nat.le_antisymm fits
  calc columns * times
      ≤ columns * (separatorLine pattern (columns * times)).toList.length :=
        Nat.mul_le_mul_left _ most
    _ = widthOfFirst (endless pattern) (separatorLine pattern (columns * times)).toList.length := by
        rw [taken, Nat.mul_comm]

/-- What a separator adds to a job, unless it is empty: a line that is filled, pass by pass, from the
repetition of its pattern, or of a hyphen. The filling ends after a pass for each character of the line,
because the next one has no room, and never because a character takes no column. So the line is the
longest beginning of the repetition that fits, and it is full if the characters of the pattern have a
single width that divides the one of the line. -/
theorem separator_prints_longest_repetition (table : Option Table) (c : Compiler)
    (attributes : Keyed String) (children : List Node)
    : let pattern := (Element.mk "separator" attributes children).attribute? "char"
      let text := endless pattern
      let width := c.job.width
      ∃ line : List Char,
        (c.node table (.element "separator" attributes children)).job
            = c.job.print (String.ofList line)
        ∧ (Filling.start text).passes width line.length
            = .ok ⟨line, Text.Gbk.charsWidth line, text.drop line.length⟩
        ∧ (Filling.start text).passes width (line.length + 1) = .error .noRoom
        ∧ (∀ count, (Filling.start text).passes width count ≠ .error .noColumn)
        ∧ line = text.take line.length
        ∧ (∀ count, Text.Gbk.charsWidth (text.take count) ≤ width ↔ count ≤ line.length)
        ∧ ∀ columns,
            (∀ d ∈ (patternText pattern).toList, Text.Gbk.charWidth d = columns) →
            columns ∣ width →
            Text.Gbk.charsWidth line = width := by
  intro pattern text width
  obtain ⟨line, fits, full⟩ := separatorLine_fits pattern width
  refine ⟨(separatorLine pattern width).toList, ?_, ?_, ?_, ?_, line, widthOfFirst_le_iff fits full, ?_⟩
  · rw [String.ofList_toList]
    rfl
  · rw [Filling.passes_start, if_pos fits, Filling.reached, widthOfFirst, ← line]
  · rw [Filling.passes_start, if_neg (Nat.not_le_of_lt full)]
  · intro count
    rw [Filling.passes_start]
    split <;> simp
  · exact fun columns => width_separatorLine_of_uniform

end ReceiptFleet.Markup
