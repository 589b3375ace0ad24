/-
**Double-precision numbers as bit patterns.**

A number is its 64 bits: a sign, eleven bits of exponent and fifty-two of fraction. Arithmetic goes
through exact ratios of natural numbers and one rounding, `ofRatio`, to the nearest representable
value with a tie to the even significand.
-/

namespace Statechart.Decimal

/-- A double-precision number of IEEE 754, as its 64 bits. -/
structure Binary64 where
  bits : UInt64
  deriving DecidableEq, Inhabited

namespace Binary64

/-- The number of values of the fraction field. -/
def fractionBound : Nat := Nat.pow 2 52

/-- The bit that holds the sign. -/
def signBit : Nat := Nat.pow 2 63

/-- Whether the sign bit is set. -/
def isNegative (number : Binary64) : Bool := signBit ≤ number.bits.toNat

/-- The eleven bits of the exponent. -/
def exponentField (number : Binary64) : Nat := number.bits.toNat / fractionBound % 2048

/-- The fifty-two bits of the fraction. -/
def fractionField (number : Binary64) : Nat := number.bits.toNat % fractionBound

/-- Whether the pattern stands for a number and not for an infinity or no number at all. -/
def isFinite (number : Binary64) : Bool := number.exponentField ≠ 2047

/-- Whether the pattern stands for no number. -/
def isNaN (number : Binary64) : Bool := number.exponentField = 2047 ∧ number.fractionField ≠ 0

/-- Whether the number is a zero of either sign. -/
def isZero (number : Binary64) : Bool := number.exponentField = 0 ∧ number.fractionField = 0

/-- The significand `m` of a finite number of magnitude `m · 2 ^ q`. -/
def significand (number : Binary64) : Nat :=
  if number.exponentField = 0 then number.fractionField else fractionBound + number.fractionField

/-- The exponent `q` of a finite number of magnitude `m · 2 ^ q`. -/
def scale (number : Binary64) : Int := max number.exponentField 1 - 1075

/-- The pattern with a sign and a magnitude below the sign bit. -/
def ofMagnitude (negative : Bool) (magnitude : Nat) : Binary64 :=
  ⟨UInt64.ofNat (if negative then signBit + magnitude else magnitude)⟩

/-- The positive infinity's magnitude. -/
def infinityMagnitude : Nat := 2047 * fractionBound

/-- The infinity of a sign. -/
def infinity (negative : Bool) : Binary64 := ofMagnitude negative infinityMagnitude

/-- The pattern for no number. -/
def notANumber : Binary64 := ofMagnitude false (infinityMagnitude + fractionBound / 2)

/-- The zero of a sign. -/
def zero (negative : Bool) : Binary64 := ofMagnitude negative 0

/-- A ratio rounded to the nearest natural number, a tie to the even one. -/
def roundRatio (numerator denominator : Nat) : Nat :=
  let quotient := numerator / denominator
  let doubled := 2 * (numerator % denominator)
  if doubled < denominator ∨ (doubled = denominator ∧ quotient % 2 = 0) then quotient
  else quotient + 1

/-- A ratio divided by a power of two, as a ratio. -/
def shiftRatio (numerator denominator : Nat) (power : Int) : Nat × Nat :=
  (numerator * Nat.pow 2 (-power).toNat, denominator * Nat.pow 2 power.toNat)

/-- The number nearest to a ratio, a tie to the even significand; an infinity beyond the largest. -/
def ofRatio (negative : Bool) (numerator denominator : Nat) : Binary64 :=
  if numerator = 0 then zero negative
  else
    let guess : Int := max ((numerator.log2 : Int) - denominator.log2 - 53) (-1074)
    let (above, below) := shiftRatio numerator denominator guess
    let power := if Nat.pow 2 53 ≤ above / below then guess + 1 else guess
    let (above, below) := shiftRatio numerator denominator power
    let rounded := roundRatio above below
    let magnitude :=
      if rounded < fractionBound then rounded
      else (power + 1075).toNat * fractionBound + (rounded - fractionBound)
    ofMagnitude negative (min magnitude infinityMagnitude)

/-- The magnitude of a finite number as a ratio. -/
def ratio (number : Binary64) : Nat × Nat :=
  shiftRatio number.significand 1 (-number.scale)

/-- The number nearest to a natural number. -/
def ofNat (value : Nat) : Binary64 := ofRatio false value 1

/-- Powers of ten beyond this one are infinite, and their inverses are zero. -/
def decimalBound : Nat := 400

/-- The number nearest to `digits · 10 ^ exponent`. -/
def ofDecimal (negative : Bool) (digits : Nat) (exponent : Int) : Binary64 :=
  if digits = 0 ∨ exponent + digits.log2 < -decimalBound then zero negative
  else if decimalBound < exponent then infinity negative
  else ofRatio negative (digits * Nat.pow 10 exponent.toNat) (Nat.pow 10 (-exponent).toNat)

/-- The rounded product of two finite magnitudes. -/
def mul (first second : Binary64) : Binary64 :=
  let (above, below) := first.ratio
  let (above', below') := second.ratio
  ofRatio false (above * above') (below * below')

/-- The rounded quotient of two finite magnitudes. -/
def div (first second : Binary64) : Binary64 :=
  let (above, below) := first.ratio
  let (above', below') := second.ratio
  ofRatio false (above * below') (below * above')

/-- The number with the other sign. -/
def neg (number : Binary64) : Binary64 :=
  ofMagnitude (!number.isNegative) (number.bits.toNat % signBit)

/-- Equality of numbers: the two zeros are equal, and what is no number equals nothing. -/
def equal (first second : Binary64) : Bool :=
  (first.isZero && second.isZero) || (first.bits == second.bits && !first.isNaN)

instance : BEq Binary64 := ⟨equal⟩

end Binary64

end Statechart.Decimal
