/-
**The fewest digits that read back.**

Every decimal in the interval of reals that round to a number reads back as that number. `shortest`
takes the coarsest decimal grid with a point in the interval, and of two such points the nearer.
-/

import Statechart.Decimal.Binary64

namespace Statechart.Decimal

/-- The decimal `digits · 10 ^ exponent`. -/
structure Digits where
  digits : Nat
  exponent : Int
  deriving DecidableEq, Inhabited

/-- Which of two equally near decimals is taken. -/
inductive Tie
  | toEven
  | up
  deriving DecidableEq

/-- The reals that round to a number, with all three bounds over one denominator. -/
structure Interval where
  low : Nat
  value : Nat
  high : Nat
  denominator : Nat
  /-- The bounds themselves round to the number. -/
  closed : Bool

namespace Interval

/-- The interval of a finite number other than zero. -/
def ofBinary64 (number : Binary64) : Interval :=
  let significand := number.significand
  let narrow := significand = Binary64.fractionBound ∧ 1 < number.exponentField
  let (unit, denominator) := Binary64.shiftRatio 1 4 (-number.scale)
  { low := (if narrow then 4 * significand - 1 else 4 * significand - 2) * unit
    value := 4 * significand * unit
    high := (4 * significand + 2) * unit
    denominator
    closed := significand % 2 = 0 }

/-- The interval in units of a power of ten. -/
def inUnits (interval : Interval) (exponent : Int) : Interval :=
  let up := Nat.pow 10 (-exponent).toNat
  { interval with
    low := interval.low * up
    value := interval.value * up
    high := interval.high * up
    denominator := interval.denominator * Nat.pow 10 exponent.toNat }

/-- Whether a natural number lies in the interval. -/
def covers (interval : Interval) (point : Nat) : Bool :=
  let scaled := point * interval.denominator
  if interval.closed then interval.low ≤ scaled ∧ scaled ≤ interval.high
  else interval.low < scaled ∧ scaled < interval.high

/-- The natural number in the interval that is nearest to its value. -/
def nearest? (interval : Interval) (tie : Tie) : Option Nat :=
  let below := interval.value / interval.denominator
  let remainder := 2 * (interval.value % interval.denominator)
  match interval.covers below, interval.covers (below + 1) with
  | false, false => none
  | true, false => some below
  | false, true => some (below + 1)
  | true, true =>
    if remainder < interval.denominator then some below
    else if interval.denominator < remainder then some (below + 1)
    else match tie with
      | .up => some (below + 1)
      | .toEven => some (if below % 2 = 0 then below else below + 1)

/-- The first of so many grids, each ten times as fine as the one before, with a point inside. -/
def search (interval : Interval) (tie : Tie) : Nat → Int → Digits
  | 0, exponent => ⟨0, exponent⟩
  | steps + 1, exponent =>
    match (interval.inUnits exponent).nearest? tie with
    | some digits => ⟨digits, exponent⟩
    | none => search interval tie steps (exponent - 1)

end Interval

/-- The fewest digits that read back as a finite number's magnitude. -/
def shortest (tie : Tie) (number : Binary64) : Digits :=
  if number.isZero then ⟨0, 0⟩
  else
    let magnitude : Int := number.significand.log2 + 1 + number.scale
    let start := max (magnitude * 30103 / 100000 + 1) (-324)
    (Interval.ofBinary64 number).search tie (start + 325).toNat start

end Statechart.Decimal
