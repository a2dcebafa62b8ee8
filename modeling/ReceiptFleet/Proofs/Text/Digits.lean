import Mathlib.Algebra.Group.Nat.Defs
import ReceiptFleet.Proofs.Text.Trimming
import ReceiptFleet.Text.Digits

/-!
Whole numbers as they are spelled. What is read as an unsigned number is a run of decimal digits, with a plus
sign in front or without one, whose value is below the limit; the canonical digits of a number are one
spelling of it.
-/

namespace ReceiptFleet.Text

/-- A text spells a number below a limit: in decimal digits, perhaps with a plus sign in front. -/
def Spells (limit : Nat) (s : List Char) (n : Nat) : Prop :=
  ∃ digits : List Char,
    (s = digits ∨ s = '+' :: digits)
    ∧ digits ≠ []
    ∧ (∀ d ∈ digits, d.isDigit = true)
    ∧ Nat.ofDigitChars 10 digits 0 = n
    ∧ n < limit

theorem digit?_ten (c : Char)
    : digit? 10 c = if c.isDigit = true then some (c.toNat - 48) else none := by
  have decimal : ('0' ≤ c ∧ c ≤ '9') ↔ c.isDigit = true := by
    simp [Char.isDigit, Char.le_def, UInt32.le_iff_toNat_le]
  simp only [digit?, decimal]
  by_cases digit : c.isDigit = true
  · have bounds : 48 ≤ c.toNat ∧ c.toNat ≤ 57 := by
      simpa [Char.isDigit, UInt32.le_iff_toNat_le] using digit
    rw [if_pos digit, if_pos digit, if_pos (by omega)]
  · have lower (least : Char) (letter : least ≤ c) : least.toNat ≤ c.toNat :=
      UInt32.le_iff_toNat_le.mp letter
    rw [if_neg digit, if_neg digit, if_neg]
    split
    case isTrue letter =>
        have high : 97 ≤ c.toNat := lower 'a' letter.1
        omega
    case isFalse =>
        split
        case isTrue letter =>
            have high : 65 ≤ c.toNat := lower 'A' letter.1
            omega
        case isFalse => decide

/-- The digit of a number in a base stands for that number. -/
theorem digit?_digitChar {base n : Nat} (small : base ≤ 16) (below : n < base)
    : digit? base (Nat.digitChar n) = some n := by
  have all : ∀ base < 17, ∀ n < base, digit? base (Nat.digitChar n) = some n := by decide
  exact all base (Nat.lt_succ_of_le small) n below

/-- As many digits of a base as there are bound the number that they stand for. -/
theorem digits?_lt {base n : Nat} {s : List Char} (read : digits? base s = some n)
    : n < base ^ s.length := by
  have each (value : Nat) (s : List Char) (read : digitsFrom? base value s = some n)
      : n < (value + 1) * base ^ s.length := by
    induction s generalizing value with
    | nil =>
        cases read
        simp
    | cons c rest ih =>
        obtain ⟨d, digit, later⟩ := Option.bind_eq_some_iff.mp read
        simp only [digit?, Option.ite_none_right_eq_some, Option.some.injEq] at digit
        have next : value * base + d + 1 ≤ (value + 1) * base := by
          rw [Nat.succ_mul]
          omega
        calc
          n < (value * base + d + 1) * base ^ rest.length := ih _ later
          _ ≤ (value + 1) * base * base ^ rest.length := Nat.mul_le_mul_right _ next
          _ = (value + 1) * base ^ (c :: rest).length := by
              rw [List.length_cons, Nat.pow_succ', Nat.mul_assoc]
  rw [digits?] at read
  split at read
  case isTrue => cases read
  case isFalse => simpa using each 0 s read

theorem digitsFrom?_append (base value : Nat) (s t : List Char)
    : digitsFrom? base value (s ++ t)
      = (digitsFrom? base value s).bind fun n => digitsFrom? base n t := by
  induction s generalizing value with
  | nil => rfl
  | cons c rest ih =>
      rw [List.cons_append, digitsFrom?, digitsFrom?, Option.bind_assoc]
      simp only [ih]

/-- The digits of a number in a base are read as that number, by induction over all but the last digit. -/
theorem digits?_toDigits {base : Nat} (proper : 1 < base) (small : base ≤ 16) (n : Nat)
    : digits? base (Nat.toDigits base n) = some n := by
  have read : digitsFrom? base 0 (Nat.toDigits base n) = some n := by
    induction n using Nat.strongRecOn with
    | ind n ih =>
        by_cases single : n < base
        · rw [Nat.toDigits_of_lt_base single, digitsFrom?, digit?_digitChar small single]
          simp [digitsFrom?]
        · have large : base ≤ n := Nat.le_of_not_lt single
          have less : n / base < n := Nat.div_lt_self (by omega) proper
          have below : n % base < base := Nat.mod_lt n (by omega)
          rw [Nat.toDigits_of_base_le proper large, digitsFrom?_append, ih _ less, Option.bind_some,
            digitsFrom?, digit?_digitChar small below, Option.bind_some, digitsFrom?,
            Nat.div_add_mod']
  rw [digits?, List.isEmpty_eq_false_iff.mpr Nat.toDigits_ne_nil, read]
  rfl

/-- The digits of a number begin with a zero only if there is no other digit. -/
theorem head?_toDigits_ne {n : Nat} (positive : 0 < n)
    : (Nat.toDigits 10 n).head? ≠ some '0' := by
  induction n using Nat.strongRecOn with
  | ind n ih =>
      by_cases single : n < 10
      · have digits : ∀ n < 10, 0 < n → (Nat.toDigits 10 n).head? ≠ some '0' := by decide
        exact digits n single positive
      · rw [Nat.toDigits_of_base_le (by decide) (Nat.le_of_not_lt single),
          List.head?_append_of_ne_nil _ Nat.toDigits_ne_nil]
        exact ih (n / 10) (by omega) (by omega)

theorem digitsFrom?_eq_some_iff {value n : Nat} {s : List Char}
    : digitsFrom? 10 value s = some n
      ↔ (∀ d ∈ s, d.isDigit = true) ∧ Nat.ofDigitChars 10 s value = n := by
  induction s generalizing value with
  | nil => simp [digitsFrom?]
  | cons c rest ih =>
      rw [digitsFrom?, digit?_ten, List.forall_mem_cons, Nat.ofDigitChars_cons]
      by_cases digit : c.isDigit = true
      · rw [if_pos digit, Option.bind_some, ih, Nat.mul_comm]
        simp [digit]
      · rw [if_neg digit]
        simp [digit]

theorem digits?_eq_some_iff {n : Nat} {s : List Char}
    : digits? 10 s = some n
      ↔ s ≠ [] ∧ (∀ d ∈ s, d.isDigit = true) ∧ Nat.ofDigitChars 10 s 0 = n := by
  rw [digits?]
  split
  case isTrue none => simp [List.isEmpty_iff.mp none]
  case isFalse some =>
      rw [digitsFrom?_eq_some_iff]
      simp [List.isEmpty_iff] at some
      simp [some]

theorem toDigits_of_isDigit {c : Char} (digit : c.isDigit = true)
    : c.toNat - '0'.toNat < 10 ∧ Nat.toDigits 10 (c.toNat - '0'.toNat) = [c] := by
  have bounds : '0'.toNat ≤ c.toNat ∧ c.toNat ≤ '9'.toNat := by
    simpa [Char.isDigit, UInt32.le_iff_toNat_le] using digit
  have zero : '0'.toNat = 48 := rfl
  have nine : '9'.toNat = 57 := rfl
  have below : c.toNat - '0'.toNat < 10 := by omega
  refine ⟨below, ?_⟩
  rw [Nat.toDigits_of_lt_base below, List.singleton_inj]
  apply Char.toNat_inj.mp
  rw [Nat.toNat_digitChar_of_lt_ten below]
  omega

/-- A number has no other decimal digits than its own without zeros in front: by induction over all but the
last digit. -/
theorem eq_toDigits_of_digits? {n : Nat} {s : List Char} (read : digits? 10 s = some n)
    (plain : s.head? = some '0' → s.length = 1)
    : s = Nat.toDigits 10 n := by
  obtain ⟨some_digit, all, value⟩ := digits?_eq_some_iff.mp read
  subst value
  clear read
  induction s using List.reverseRecOn with
  | nil => exact absurd rfl some_digit
  | append_singleton front last ih =>
      obtain ⟨below, single⟩ := toDigits_of_isDigit (all last (by simp))
      have digits : ∀ d ∈ front, d.isDigit = true := fun d member =>
        all d (List.mem_append_left _ member)
      rw [Nat.ofDigitChars_append, Nat.ofDigitChars_cons, Nat.ofDigitChars_nil]
      by_cases alone : front = []
      · subst alone
        simpa using single.symm
      · have no_zero : front.head? ≠ some '0' := by
          intro zero
          have short := plain (by rw [List.head?_append_of_ne_nil _ alone, zero])
          have := List.length_pos_iff.mpr alone
          rw [List.length_append, List.length_singleton] at short
          omega
        have front_eq := ih (fun zero => absurd zero no_zero) alone digits
        have positive : 0 < Nat.ofDigitChars 10 front 0 := by
          refine Nat.pos_of_ne_zero fun zero => no_zero ?_
          rw [front_eq, zero]
          rfl
        rw [← Nat.toDigits_append_toDigits (by decide) positive below, single, ← front_eq]

/-- What is read as a number is what spells it. -/
theorem unsigned?_eq_some_iff {limit n : Nat} {s : List Char}
    : unsigned? limit s = some n ↔ Spells limit s n := by
  have read (digits : List Char)
      : (digits? 10 digits).filter (· < limit) = some n
        ↔ digits ≠ [] ∧ (∀ d ∈ digits, d.isDigit = true) ∧ Nat.ofDigitChars 10 digits 0 = n
          ∧ n < limit := by
    simp only [Option.filter_eq_some_iff, digits?_eq_some_iff, decide_eq_true_eq, and_assoc]
  unfold unsigned?
  split
  case h_1 rest =>
      rw [read]
      constructor
      · exact fun spelled => ⟨rest, .inr rfl, spelled⟩
      · rintro ⟨digits, signed | same, some, all, value⟩
        · exact absurd (all '+' (signed ▸ List.mem_cons_self)) (by decide)
        · obtain rfl := List.tail_eq_of_cons_eq same
          exact ⟨some, all, value⟩
  case h_2 unsigned =>
      rw [read]
      constructor
      · exact fun spelled => ⟨s, .inl rfl, spelled⟩
      · rintro ⟨digits, rfl | same, spelled⟩
        · exact spelled
        · exact absurd same (unsigned digits)

/-- Nothing but digits and a plus sign is in a spelling. -/
theorem Spells.isDigit_or_eq {limit n : Nat} {s : List Char} (spells : Spells limit s n) {c : Char}
    (member : c ∈ s)
    : c.isDigit = true ∨ c = '+' := by
  obtain ⟨digits, rfl | rfl, _, all, _⟩ := spells
  · exact .inl (all c member)
  · exact (List.mem_cons.mp member).symm.imp_left (all c)

theorem Spells.not_mem {limit n : Nat} {s : List Char} (spells : Spells limit s n) {c : Char}
    (other : c.isDigit = false) (unsigned : c ≠ '+')
    : c ∉ s := by
  intro member
  rcases spells.isDigit_or_eq member with digit | plus
  · exact Bool.false_ne_true (other.symm.trans digit)
  · exact unsigned plus

theorem isBlank_of_isDigit {c : Char} (digit : c.isDigit = true)
    : isBlank c = false := by
  have bounds : 48 ≤ c.toNat ∧ c.toNat ≤ 57 := by
    simpa [Char.isDigit, UInt32.le_iff_toNat_le] using digit
  simp only [isBlank, Bool.or_eq_false_iff, Bool.and_eq_false_iff, decide_eq_false_iff_not,
    beq_eq_false_iff_ne]
  omega

/-- There is no white space in a spelling, so that none is trimmed. -/
theorem Spells.stripChars_eq {limit n : Nat} {s : List Char} (spells : Spells limit s n)
    : stripChars isBlank s = s := by
  refine Bare.stripChars_eq fun c atEnd => ?_
  have member : c ∈ s := atEnd.elim List.mem_of_mem_head? List.mem_of_mem_getLast?
  rcases spells.isDigit_or_eq member with digit | rfl
  · exact isBlank_of_isDigit digit
  · rfl

theorem spells_toString {limit n : Nat} (below : n < limit)
    : Spells limit (toString n).toList n := by
  refine ⟨(toString n).toList, .inl rfl, ?_, ?_, ?_, below⟩
  · simp
  · intro d member
    rw [Nat.toString_eq_repr, Nat.toList_repr] at member
    exact Nat.isDigit_of_mem_toDigits (by decide) (by decide) member
  · rw [Nat.toString_eq_repr, Nat.toList_repr, Nat.ofDigitChars_ten_toDigits]

end ReceiptFleet.Text
