import ReceiptFleet.Binary64.Basic

/-!
Double-precision numbers as decimal text: the fewest digits that read back as the same number, laid out
positionally in a middle range and with an exponent elsewhere.
-/

namespace ReceiptFleet.Binary64

/-- Decimal digits, as a whole number, and the power of ten that they are to be scaled by. -/
structure Decimal where
  digits : Nat
  exponent : Int
deriving DecidableEq, Repr

/-- Whether a decimal lies among the reals that round to a mantissa times a power of two. The least
mantissa of a power of two has a nearer lower neighbour; the ends count for even mantissas. -/
def Decimal.roundsTo (d : Decimal) (mantissa : Nat) (exponent : Int) : Bool :=
  -- everything is scaled by four so that halves and quarters of a unit are whole
  let low := if mantissa = leastMantissa ∧ exponent > -1074 then 4 * mantissa - 1 else 4 * mantissa - 2
  let high := 4 * mantissa + 2
  let up := fun (e : Int) (base : Nat) => Nat.pow base e.toNat
  let down := fun (e : Int) (base : Nat) => Nat.pow base (-e).toNat
  let value := 4 * d.digits * up d.exponent 10 * down exponent 2
  let unit := up exponent 2 * down d.exponent 10
  if mantissa % 2 = 0 then low * unit ≤ value && value ≤ high * unit
  else low * unit < value && value < high * unit

/-- The least `j ≤ tries` from which a magnitude times ten to the `j` reaches one. -/
def firstPlace (num den : Nat) : Nat → Nat → Nat
  | _, 0 => 0
  | scale, tries + 1 => if num * scale ≥ den then 0 else firstPlace num den (scale * 10) tries + 1

/-- The power of ten of the leading digit of a magnitude that is not zero. -/
def leadingPower (num den : Nat) : Int :=
  if num ≥ den then (Nat.toDigits 10 (num / den)).length - 1
  else -(firstPlace num den 1 400 : Int)

/-- The neighbours of a magnitude on the grid of a power of ten, the nearer one first. -/
def neighbours (num den : Nat) (power : Int) : List Decimal :=
  let n := num * Nat.pow 10 (-power).toNat
  let d := den * Nat.pow 10 power.toNat
  let below := n / d
  let nearer := 2 * (n % d)
  if nearer < d || (nearer == d && below % 2 == 0) then [⟨below, power⟩, ⟨below + 1, power⟩]
  else [⟨below + 1, power⟩, ⟨below, power⟩]

/-- The first decimal of fewest digits, up to seventeen, that reads back as the number. -/
def shortestFrom (x : Binary64) (leading : Int) : Nat → Nat → Decimal
  | _, 0 => ⟨0, 0⟩
  | count, tries + 1 =>
    let (num, den) := x.ratio
    let (mantissa, exponent) := x.parts
    match (neighbours num den (leading - count)).find? (·.roundsTo mantissa exponent) with
    | some d => d
    | none => shortestFrom x leading (count + 1) tries

/-- A decimal without zeros at the end of its digits. -/
def Decimal.trimmed (d : Decimal) : Nat → Decimal
  | 0 => d
  | tries + 1 =>
    if d.digits ≠ 0 ∧ d.digits % 10 = 0 then
      Decimal.trimmed ⟨d.digits / 10, d.exponent + 1⟩ tries
    else d

/-- The shortest decimal of a finite number that is not zero, without its sign. -/
def shortest (x : Binary64) : Decimal :=
  let (num, den) := x.ratio
  (shortestFrom x (leadingPower num den) 0 17).trimmed 17

/-- How decimals are laid out: the place of the point from which on, and up to which, they are written
without an exponent. -/
structure PointStyle where
  lowest : Int
  highest : Int

/-- Sixteen digits may stand before the point, and four zeros behind it. -/
def PointStyle.plain : PointStyle := ⟨-4, 16⟩

/-- A run of zeros. -/
def zeros (n : Int) : List Char := List.replicate n.toNat '0'

/-- A decimal laid out. `point` is where the point stands, counted from the first digit. Without an
exponent there is always a digit on both sides of the point. -/
def Decimal.layOut (d : Decimal) (style : PointStyle) : List Char :=
  let digits := Nat.toDigits 10 d.digits
  let point := digits.length + d.exponent
  if 0 ≤ d.exponent ∧ point ≤ style.highest then digits ++ zeros d.exponent ++ ['.', '0']
  else if 0 < point ∧ point ≤ style.highest then
    digits.take point.toNat ++ '.' :: digits.drop point.toNat
  else if style.lowest ≤ point ∧ point ≤ 0 then ['0', '.'] ++ zeros (-point) ++ digits
  else
    let power := point - 1
    let exponent := (if power < 0 then ['-'] else []) ++ Nat.toDigits 10 power.natAbs
    match digits with
    | first :: second :: others => first :: '.' :: second :: others ++ 'e' :: exponent
    | _ => digits ++ 'e' :: exponent

/-- The text of a finite number. -/
def text (x : Binary64) : List Char :=
  let sign := if x.isNegative then ['-'] else []
  if x.isZero then sign ++ ['0', '.', '0'] else sign ++ x.shortest.layOut .plain

end ReceiptFleet.Binary64
