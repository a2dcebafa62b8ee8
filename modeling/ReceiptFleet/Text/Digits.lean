/-!
Whole numbers in text: the unsigned decimal of settings and addresses, and digits of a given base.
-/

namespace ReceiptFleet.Text

/-- The value of an ASCII digit in a base up to sixteen. -/
def digit? (base : Nat) (c : Char) : Option Nat :=
  let value :=
    if '0' ≤ c ∧ c ≤ '9' then c.toNat - 48
    else if 'a' ≤ c ∧ c ≤ 'f' then c.toNat - 87
    else if 'A' ≤ c ∧ c ≤ 'F' then c.toNat - 55
    else 16
  if value < base then some value else none

/-- Reads on from a value, one digit after the other; anything but a digit refuses the text. -/
def digitsFrom? (base : Nat) (value : Nat) : List Char → Option Nat
  | [] => some value
  | c :: rest => (digit? base c).bind fun d => digitsFrom? base (value * base + d) rest

/-- The number written by a non-empty run of digits. -/
def digits? (base : Nat) (s : List Char) : Option Nat :=
  if s.isEmpty then none else digitsFrom? base 0 s

/-- The first number beyond 32 bits. -/
def limit32 : Nat := 0x100000000

/-- The first number beyond 64 bits. -/
def limit64 : Nat := 0x10000000000000000

/-- An unsigned decimal number below a limit, with an optional plus sign in front. -/
def unsigned? (limit : Nat) (s : List Char) : Option Nat :=
  let unsignedPart := match s with
    | '+' :: rest => rest
    | _ => s
  (digits? 10 unsignedPart).filter (· < limit)

end ReceiptFleet.Text
