import Mathlib.Algebra.GroupWithZero.Nat
import ReceiptFleet.Text.Utf8

/-!
Reading UTF-8 back. A whole character is read as itself whatever comes after it, and so is a whole
text; a byte that begins no sequence is read as one replacement character; and a run of bytes from 80 up
is read as characters from 80 up.
-/

namespace ReceiptFleet.Text

-----------------------------------------------------------------------------------------
-- Bytes as numbers
-----------------------------------------------------------------------------------------

theorem toNat_byte {n : Nat} (small : n < 256)
    : (UInt8.ofNat n).toNat = n := by
  simpa using Nat.mod_eq_of_lt small

/-- The number of a character is below the surrogates, or above them and in the range of
Unicode. -/
theorem toNat_scalar (c : Char)
    : c.toNat < 0xD800 ∨ (0xDFFF < c.toNat ∧ c.toNat < 0x110000) := by
  exact c.valid

-----------------------------------------------------------------------------------------
-- One character
-----------------------------------------------------------------------------------------

/-- A following byte within its bounds adds six bits to the value. -/
theorem utf8Follow_byte {more low high value n : Nat} (rest : List UInt8)
    (above : low ≤ n) (below : n ≤ high) (small : high < 256)
    : utf8Follow (more + 1) low high value (UInt8.ofNat n :: rest)
      = utf8Follow more 0x80 0xBF (value * 0x40 + (n - 0x80)) rest := by
  have byte : (UInt8.ofNat n).toNat = n := toNat_byte (by omega)
  rw [utf8Follow, byte, if_pos ⟨above, below⟩]

/-- A leading byte from 80 up is read by its class. -/
theorem utf8First_lead {n more low high bits : Nat} (rest : List UInt8)
    (leading : 0x80 ≤ n) (small : n < 256)
    (found : utf8Lead? (UInt8.ofNat n) = some ⟨more, low, high, bits⟩)
    : utf8First (UInt8.ofNat n) rest = utf8Follow more low high bits rest := by
  have byte : (UInt8.ofNat n).toNat = n := toNat_byte small
  rw [utf8First, byte, if_neg (by omega), found]

/-- The class of the leading byte of a character of two bytes. -/
theorem utf8Lead?_two {n : Nat} (low : 0x80 ≤ n) (high : n < 0x800)
    : utf8Lead? (UInt8.ofNat (0xC0 + n / 0x40)) = some ⟨1, 0x80, 0xBF, n / 0x40⟩ := by
  have byte : (UInt8.ofNat (0xC0 + n / 0x40)).toNat = 0xC0 + n / 0x40 := toNat_byte (by omega)
  rw [utf8Lead?, byte, if_pos (by omega)]
  simp

/-- The class of the leading byte of a character of three bytes: its bits, and bounds that the
second byte of the character keeps. -/
theorem utf8Lead?_three {n : Nat} (low : 0x800 ≤ n) (high : n < 0x10000)
    (scalar : n < 0xD800 ∨ 0xDFFF < n)
    : ∃ lower upper,
        utf8Lead? (UInt8.ofNat (0xE0 + n / 0x1000)) = some ⟨2, lower, upper, n / 0x1000⟩
        ∧ lower ≤ 0x80 + n / 0x40 % 0x40
        ∧ 0x80 + n / 0x40 % 0x40 ≤ upper
        ∧ upper < 256 := by
  have byte : (UInt8.ofNat (0xE0 + n / 0x1000)).toNat = 0xE0 + n / 0x1000 := toNat_byte (by omega)
  simp only [utf8Lead?, byte]
  rw [if_neg (by omega)]
  by_cases first : n < 0x1000
  · refine ⟨0xA0, 0xBF, ?_, by omega, by omega, by omega⟩
    rw [if_pos (by omega), show n / 0x1000 = 0 by omega]
  · rw [if_neg (by omega)]
    by_cases thirteenth : n / 0x1000 = 13
    · refine ⟨0x80, 0x9F, ?_, by omega, by omega, by omega⟩
      rw [if_pos (by omega), thirteenth]
    · refine ⟨0x80, 0xBF, ?_, by omega, by omega, by omega⟩
      rw [if_neg (by omega), if_pos (by omega)]
      simp

/-- The class of the leading byte of a character of four bytes: its bits, and bounds that the
second byte of the character keeps. -/
theorem utf8Lead?_four {n : Nat} (low : 0x10000 ≤ n) (high : n < 0x110000)
    : ∃ lower upper,
        utf8Lead? (UInt8.ofNat (0xF0 + n / 0x40000)) = some ⟨3, lower, upper, n / 0x40000⟩
        ∧ lower ≤ 0x80 + n / 0x1000 % 0x40
        ∧ 0x80 + n / 0x1000 % 0x40 ≤ upper
        ∧ upper < 256 := by
  have byte : (UInt8.ofNat (0xF0 + n / 0x40000)).toNat = 0xF0 + n / 0x40000 :=
    toNat_byte (by omega)
  simp only [utf8Lead?, byte]
  rw [if_neg (by omega), if_neg (by omega), if_neg (by omega), if_neg (by omega)]
  by_cases first : n / 0x40000 = 0
  · refine ⟨0x90, 0xBF, ?_, by omega, by omega, by omega⟩
    rw [if_pos (by omega), first]
  · rw [if_neg (by omega)]
    by_cases last : n / 0x40000 = 4
    · refine ⟨0x80, 0x8F, ?_, by omega, by omega, by omega⟩
      rw [if_pos (by omega), last]
    · refine ⟨0x80, 0xBF, ?_, by omega, by omega, by omega⟩
      rw [if_neg (by omega), if_pos (by omega)]
      simp

/-- The bytes of a character are read as that character, and nothing after them is touched. The
cases are those of the length of its bytes. -/
theorem utf8Lossy_utf8Char_append (c : Char) (rest : List UInt8)
    : utf8Lossy (utf8Char c ++ rest) = c :: utf8Lossy rest := by
  have scalar := toNat_scalar c
  have whole : Char.ofNat c.toNat = c := Char.ofNat_toNat c
  simp only [utf8Char]
  split
  case isTrue one =>
    have byte : (UInt8.ofNat c.toNat).toNat = c.toNat := toNat_byte (by omega)
    rw [List.singleton_append, utf8Lossy, utf8First, byte, if_pos one, whole]
  case isFalse high =>
    split
    case isTrue two =>
      rw [List.cons_append, List.singleton_append, utf8Lossy,
        utf8First_lead _ (by omega) (by omega) (utf8Lead?_two (by omega) two),
        utf8Follow_byte _ (by omega) (by omega) (by omega), utf8Follow]
      rw [show c.toNat / 0x40 * 0x40 + (0x80 + c.toNat % 0x40 - 0x80) = c.toNat by omega, whole]
    case isFalse higher =>
      split
      case isTrue three =>
        obtain ⟨lower, upper, found, above, below, small⟩ :=
          utf8Lead?_three (n := c.toNat) (by omega) three (by omega)
        rw [List.cons_append, List.cons_append, List.singleton_append, utf8Lossy,
          utf8First_lead _ (by omega) (by omega) found, utf8Follow_byte _ above below small,
          utf8Follow_byte _ (by omega) (by omega) (by omega), utf8Follow]
        rw [show (c.toNat / 0x1000 * 0x40 + (0x80 + c.toNat / 0x40 % 0x40 - 0x80)) * 0x40
              + (0x80 + c.toNat % 0x40 - 0x80) = c.toNat by omega, whole]
      case isFalse highest =>
        obtain ⟨lower, upper, found, above, below, small⟩ :=
          utf8Lead?_four (n := c.toNat) (by omega) (by omega)
        rw [List.cons_append, List.cons_append, List.cons_append, List.singleton_append, utf8Lossy,
          utf8First_lead _ (by omega) (by omega) found, utf8Follow_byte _ above below small,
          utf8Follow_byte _ (by omega) (by omega) (by omega),
          utf8Follow_byte _ (by omega) (by omega) (by omega), utf8Follow]
        rw [show ((c.toNat / 0x40000 * 0x40 + (0x80 + c.toNat / 0x1000 % 0x40 - 0x80)) * 0x40
              + (0x80 + c.toNat / 0x40 % 0x40 - 0x80)) * 0x40
              + (0x80 + c.toNat % 0x40 - 0x80) = c.toNat by omega, whole]

-----------------------------------------------------------------------------------------
-- Whole texts and damaged bytes
-----------------------------------------------------------------------------------------

/-- The bytes of a text are read as that text, and nothing after them is touched, by induction
over the text. -/
theorem utf8Lossy_utf8_append (s : List Char) (rest : List UInt8)
    : utf8Lossy (utf8 s ++ rest) = s ++ utf8Lossy rest := by
  induction s with
  | nil => rfl
  | cons c s ih =>
      rw [utf8, List.flatMap_cons, List.append_assoc, utf8Lossy_utf8Char_append]
      exact congrArg (c :: ·) ih

/-- A byte above the leading bytes is damage of its own, whatever comes after it. -/
theorem utf8Lossy_stray (b : UInt8) (rest : List UInt8) (stray : 0xF5 ≤ b.toNat)
    : utf8Lossy (b :: rest) = replacement :: utf8Lossy rest := by
  have none : utf8Lead? b = none := by
    have bound := b.toNat_lt
    simp only [utf8Lead?]
    rw [if_neg (by omega), if_neg (by omega), if_neg (by omega), if_neg (by omega),
      if_neg (by omega), if_neg (by omega), if_neg (by omega)]
  rw [utf8Lossy, utf8First, if_neg (by omega), none]

-----------------------------------------------------------------------------------------
-- Bytes from 80 up
-----------------------------------------------------------------------------------------

/-- A character can be made of a number outside of the surrogates and in the range of Unicode. -/
theorem toNat_ofNat {n : Nat} (scalar : n < 0xD800 ∨ (0xDFFF < n ∧ n < 0x110000))
    : (Char.ofNat n).toNat = n := by
  have valid : n.isValidChar := scalar
  rw [Char.ofNat, dif_pos valid]
  rfl

/-- The bytes that follow are only ever taken from the front. -/
theorem utf8Follow_suffix (more low high value : Nat) (bytes : List UInt8)
    : (utf8Follow more low high value bytes).2 <:+ bytes := by
  fun_induction utf8Follow more low high value bytes with
  | case1 => exact List.suffix_rfl
  | case2 => exact List.suffix_rfl
  | case3 _ _ _ _ b rest _ ih => exact ih.trans (List.suffix_cons b rest)
  | case4 => exact List.suffix_rfl

theorem utf8First_suffix (b : UInt8) (rest : List UInt8)
    : (utf8First b rest).2 <:+ rest := by
  rw [utf8First]
  split
  · exact List.suffix_rfl
  · split
    · exact utf8Follow_suffix _ _ _ _ rest
    · exact List.suffix_rfl

/-- Following bytes make a replacement character, or a character whose number begins with the bits that
were there. The induction is over how many follow, and each adds six bits. -/
theorem utf8Follow_value (more value : Nat) (bytes : List UInt8)
    : (utf8Follow more 0x80 0xBF value bytes).1 = replacement
      ∨ ∃ n,
          (utf8Follow more 0x80 0xBF value bytes).1 = Char.ofNat n
          ∧ value * 64 ^ more ≤ n
          ∧ n < (value + 1) * 64 ^ more := by
  induction more generalizing value bytes with
  | zero => exact .inr ⟨value, rfl, by omega, by omega⟩
  | succ more ih =>
      cases bytes with
      | nil => exact .inl rfl
      | cons b rest =>
          rw [utf8Follow]
          split
          · rename_i fits
            refine (ih (value * 0x40 + (b.toNat - 0x80)) rest).imp_right ?_
            rintro ⟨n, made, least, most⟩
            rw [Nat.pow_succ', ← Nat.mul_assoc, ← Nat.mul_assoc]
            refine ⟨n, made, Nat.le_trans ?_ least, Nat.lt_of_lt_of_le most ?_⟩ <;>
              exact Nat.mul_le_mul_right _ (by omega)
          · exact .inl rfl

/-- What a leading byte and the first byte after it promise of the number of their character: it is that
of a character, and not below 80. The cases are the classes of leading bytes. -/
theorem utf8Lead?_bounds {b : UInt8} {more low high bits : Nat}
    (found : utf8Lead? b = some ⟨more, low, high, bits⟩)
    : ∃ others,
        more = others + 1
        ∧ ∀ n,
            low ≤ n
            → n ≤ high
            → 0x80 ≤ (bits * 64 + (n - 0x80)) * 64 ^ others
              ∧ ((bits * 64 + (n - 0x80) + 1) * 64 ^ others ≤ 0xD800
                ∨ (0xE000 ≤ (bits * 64 + (n - 0x80)) * 64 ^ others
                  ∧ (bits * 64 + (n - 0x80) + 1) * 64 ^ others ≤ 0x110000)) := by
  simp only [utf8Lead?] at found
  repeat' split at found
  all_goals cases found
  all_goals refine ⟨_, rfl, fun n above below => ⟨?_, ?_⟩⟩ <;> omega

/-- Bytes that begin with one from 80 up begin with a character from 80 up. -/
theorem utf8First_high {b : UInt8} (high : 0x80 ≤ b.toNat) (rest : List UInt8)
    : 0x80 ≤ (utf8First b rest).1.toNat := by
  have damaged : 0x80 ≤ replacement.toNat := by decide
  rw [utf8First, if_neg (by omega)]
  cases found : utf8Lead? b with
  | none => exact damaged
  | some lead =>
      obtain ⟨more, low, upper, bits⟩ := lead
      obtain ⟨others, rfl, bounds⟩ := utf8Lead?_bounds found
      cases rest with
      | nil => exact damaged
      | cons second rest =>
          simp only [utf8Follow]
          split
          · rename_i fits
            obtain ⟨least, scalar⟩ := bounds second.toNat fits.1 fits.2
            rcases utf8Follow_value others (bits * 0x40 + (second.toNat - 0x80)) rest with
              lost | ⟨n, made, above, below⟩
            · rw [lost]
              exact damaged
            · rw [made, toNat_ofNat (by omega)]
              exact Nat.le_trans least above
          · exact damaged

/-- A run of bytes from 80 up is read as characters from 80 up, since the bytes after each of them are of the
run. -/
theorem utf8Lossy_high {bytes : List UInt8} (high : ∀ b ∈ bytes, 0x80 ≤ b.toNat)
    : ∀ c ∈ utf8Lossy bytes, 0x80 ≤ c.toNat := by
  fun_induction utf8Lossy bytes with
  | case1 => nofun
  | case2 b rest ih =>
      have later : ∀ next ∈ (utf8First b rest).2, 0x80 ≤ next.toNat := fun next member =>
        high next (List.mem_cons_of_mem _ ((utf8First_suffix b rest).subset member))
      intro c member
      rcases List.mem_cons.mp member with rfl | member
      · exact utf8First_high (high b List.mem_cons_self) rest
      · exact ih later c member

end ReceiptFleet.Text
