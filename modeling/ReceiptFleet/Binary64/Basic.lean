/-!
IEEE double-precision numbers by their bits, with exact arithmetic in natural numbers: a ratio is
rounded to the nearest double, a tie to the even one.
-/

namespace ReceiptFleet

/-- A double-precision number, by its 64 bits. -/
structure Binary64 where
  bits : UInt64
deriving DecidableEq, Repr, Inhabited

namespace Binary64

/-- The bits of the magnitude of infinity. -/
def infinityBits : Nat := 0x7FF0000000000000

/-- The weight of the sign bit, which is two to the power of 63. -/
def signWeight : Nat := 0x8000000000000000

/-- The least mantissa of a normal number, which is two to the power of 52. -/
def leastMantissa : Nat := 0x10000000000000

/-- The bits without the sign. -/
def magnitudeBits (x : Binary64) : Nat := x.bits.toNat % signWeight

/-- Whether the sign bit is set. -/
def isNegative (x : Binary64) : Bool := x.bits.toNat ≥ signWeight

/-- Whether the bits stand for no number. -/
def isNaN (x : Binary64) : Bool := x.magnitudeBits > infinityBits

/-- Whether the number is infinite. -/
def isInfinite (x : Binary64) : Bool := x.magnitudeBits = infinityBits

/-- Whether the number is zero, of either sign. -/
def isZero (x : Binary64) : Bool := x.magnitudeBits = 0

/-- Whether two numbers compare as equal: no NaN equals anything, and both zeros are equal. -/
def equal (x y : Binary64) : Bool :=
  !x.isNaN && !y.isNaN && (x.bits == y.bits || (x.isZero && y.isZero))

/-- The number of a sign and the bits of a magnitude. -/
def ofMagnitude (negative : Bool) (magnitude : Nat) : Binary64 :=
  ⟨UInt64.ofNat (if negative then signWeight + magnitude else magnitude)⟩

/-- A finite number's magnitude as a mantissa and a power of two. -/
def parts (x : Binary64) : Nat × Int :=
  let exponent : Nat := x.magnitudeBits / leastMantissa
  let fraction : Nat := x.magnitudeBits % leastMantissa
  if exponent = 0 then (fraction, -1074) else (leastMantissa + fraction, Int.ofNat exponent - 1075)

/-- A finite number's magnitude as a ratio. -/
def ratio (x : Binary64) : Nat × Nat :=
  let (mantissa, exponent) := x.parts
  if exponent ≥ 0 then (mantissa * Nat.pow 2 exponent.toNat, 1)
  else (mantissa, Nat.pow 2 (-exponent).toNat)

/-- A quotient rounded to the nearest whole number, a half to the even one. -/
def roundHalfEven (num den : Nat) : Nat :=
  let quotient := num / den
  let twice := 2 * (num % den)
  if twice > den || (twice == den && quotient % 2 == 1) then quotient + 1 else quotient

/-- A ratio divided by a power of two. -/
def shifted (num den : Nat) (exponent : Int) : Nat × Nat :=
  if exponent ≥ 0 then (num, den * Nat.pow 2 exponent.toNat)
  else (num * Nat.pow 2 (-exponent).toNat, den)

/-- The bits of the magnitude nearest to a ratio: the ratio is scaled so that 53 bits stand before the
point, or fewer below the normal range, and rounded. What is too large is infinite. -/
def roundedBits (num den : Nat) : Nat :=
  if num = 0 then 0
  else
    let estimate : Int := (Nat.log2 num : Int) - Nat.log2 den - 52
    let (n, d) := shifted num den estimate
    let exponent := max (if n / d < leastMantissa then estimate - 1 else estimate) (-1074)
    let (n, d) := shifted num den exponent
    min ((exponent + 1074).toNat * leastMantissa + roundHalfEven n d) infinityBits

/-- The number nearest to a ratio. -/
def ofRatio (num den : Nat) : Binary64 := ofMagnitude false (roundedBits num den)

/-- The number nearest to a whole number. -/
def ofNat (n : Nat) : Binary64 := ofRatio n 1

/-- The number nearest to a power of ten. -/
def tenTo (exponent : Nat) : Binary64 := ofNat (Nat.pow 10 exponent)

/-- The product of two finite magnitudes, rounded. -/
def mul (x y : Binary64) : Binary64 :=
  let (xn, xd) := x.ratio
  let (yn, yd) := y.ratio
  ofRatio (xn * yn) (xd * yd)

/-- The quotient of two finite magnitudes, rounded; the divisor is not zero. -/
def div (x y : Binary64) : Binary64 :=
  let (xn, xd) := x.ratio
  let (yn, yd) := y.ratio
  ofRatio (xn * yd) (xd * yn)

/-- The number with the opposite sign. -/
def neg (x : Binary64) : Binary64 := ofMagnitude (!x.isNegative) x.magnitudeBits

/-- The number nearest to a signed decimal, exactly rounded. -/
def ofDecimal (negative : Bool) (significand : Nat) (exponent : Int) : Binary64 :=
  let magnitude :=
    if exponent ≥ 0 then roundedBits (significand * Nat.pow 10 exponent.toNat) 1
    else roundedBits significand (Nat.pow 10 (-exponent).toNat)
  ofMagnitude negative magnitude

end Binary64

end ReceiptFleet
