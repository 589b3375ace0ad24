/-
**Where shortest digits lie.**

The digits that are found for a number lie in the interval of the reals that round to it. So they
stand for no more than half a unit of the last place above the number, and they are not zero.

* `Interval.covers_search`: digits that are found lie in the interval.
* `shortest_le`: the decimal of the digits is hardly larger than the number.
* `exponent_shortest`: digits that are zero stand behind the point.
-/

import Statechart.Decimal.Shortest
import Statechart.Proofs.Decimal.Rounding

namespace Statechart.Decimal

/-! ### Digits in an interval -/

namespace Interval

variable {interval : Interval}

/-- The digits nearest to the value of an interval lie in it. -/
theorem covers_of_nearest? {tie : Tie} {digits : Nat}
    (found : interval.nearest? tie = some digits) : interval.covers digits = true := by
  unfold nearest? at found
  dsimp only at found
  cases first : interval.covers (interval.value / interval.denominator) <;>
    cases second : interval.covers (interval.value / interval.denominator + 1) <;>
    simp only [first, second] at found
  · cases found
  · cases found
    exact second
  · cases found
    exact first
  · split at found
    · cases found
      exact first
    · split at found
      · cases found
        exact second
      · cases tie with
        | up =>
          cases found
          exact second
        | toEven =>
          cases found
          split
          · exact first
          · exact second

/-- **Digits that are found lie in the interval**, in units of their power of ten. -/
theorem covers_search (tie : Tie) (steps : Nat) (exponent : Int)
    (other : (interval.search tie steps exponent).digits ≠ 0) :
    (interval.inUnits (interval.search tie steps exponent).exponent).covers
      (interval.search tie steps exponent).digits = true := by
  induction steps generalizing exponent with
  | zero => exact absurd rfl other
  | succ steps ih =>
    unfold search at other ⊢
    cases found : (interval.inUnits exponent).nearest? tie with
    | none =>
      rw [found] at other
      exact ih _ other
    | some digits => exact covers_of_nearest? found

theorem le_high_of_covers {point : Nat} (covers : interval.covers point = true) :
    point * interval.denominator ≤ interval.high := by
  unfold Interval.covers at covers
  dsimp only at covers
  split at covers
  · exact (of_decide_eq_true covers).2
  · exact (of_decide_eq_true covers).2.le

theorem covers_zero (positive : 0 < interval.low) : interval.covers 0 = false := by
  unfold covers
  rw [Nat.zero_mul]
  split
  · simp [Nat.not_le.2 positive]
  · simp

/-- A search that finds the digit zero ran to its end. -/
theorem exponent_search (positive : 0 < interval.low) (tie : Tie)
    (steps : Nat) (exponent : Int) (zero : (interval.search tie steps exponent).digits = 0) :
    (interval.search tie steps exponent).exponent = exponent - steps := by
  induction steps generalizing exponent with
  | zero => exact (Int.sub_zero exponent).symm
  | succ steps ih =>
    unfold search at zero ⊢
    have finer : 0 < (interval.inUnits exponent).low :=
      Nat.mul_pos positive (Nat.pow_pos (by decide))
    cases found : (interval.inUnits exponent).nearest? tie with
    | none =>
      rw [found] at zero
      dsimp only at zero ⊢
      rw [ih _ zero]
      omega
    | some digits =>
      rw [found] at zero
      dsimp only at zero
      subst zero
      cases (covers_zero finer).symm.trans (covers_of_nearest? found)

end Interval

/-! ### Digits of a number -/

theorem Binary64.significand_pos {number : Binary64} (other : number.isZero = false) :
    0 < number.significand := by
  unfold Binary64.isZero at other
  unfold Binary64.significand
  split
  · next least =>
    rw [least] at other
    refine Nat.pos_of_ne_zero fun zero => ?_
    simp [zero] at other
  · exact Nat.add_pos_left (Nat.pow_pos (by decide)) _

theorem Interval.low_pos {number : Binary64} (other : number.isZero = false) :
    0 < (Interval.ofBinary64 number).low := by
  have positive := Binary64.significand_pos other
  have unit : 0 < 1 * Nat.pow 2 (- -number.scale).toNat :=
    Nat.mul_pos Nat.one_pos (Nat.pow_pos (by decide))
  refine Nat.mul_pos ?_ unit
  split <;> omega

/-- Where the digits of a number are zero, they stand behind the point. -/
theorem exponent_shortest {tie : Tie} {number : Binary64} (other : number.isZero = false)
    (zero : (shortest tie number).digits = 0) : (shortest tie number).exponent < 0 := by
  unfold shortest at zero ⊢
  rw [other, if_neg Bool.false_ne_true] at zero ⊢
  rw [Interval.exponent_search (Interval.low_pos other) _ _ _ zero]
  omega

/-- A number that is no larger than the upper end of an interval in units of a power of ten. -/
theorem Interval.le_of_covers {number : Binary64} {exponent : Int} {point : Nat}
    (covers : ((Interval.ofBinary64 number).inUnits exponent).covers point = true) :
    (point : ℚ) * 10 ^ exponent ≤ (number.significand + 1 / 2) * 2 ^ number.scale := by
  have inside := Interval.le_high_of_covers covers
  have shifted := Binary64.shiftRatio_div 1 4 (-number.scale)
  have positive := Binary64.shiftRatio_pos 1 (show 0 < 4 by decide) (-number.scale)
  unfold Interval.inUnits Interval.ofBinary64 at inside
  generalize Binary64.shiftRatio 1 4 (-number.scale) = shift at inside shifted positive
  obtain ⟨unit, denominator⟩ := shift
  dsimp only at inside shifted positive
  simp only [Nat.pow_eq] at inside
  have cast : (point : ℚ) * (denominator * 10 ^ exponent.toNat) ≤
      (4 * number.significand + 2) * unit * 10 ^ (-exponent).toNat := by exact_mod_cast inside
  have some : (0 : ℚ) < denominator := Nat.cast_pos.2 positive
  have unit_eq : (unit : ℚ) = denominator * (1 / 4 * 2 ^ number.scale) := by
    rw [zpow_neg, div_inv_eq_mul, div_eq_iff some.ne'] at shifted
    rw [shifted]
    push_cast
    ring
  have tens : (0 : ℚ) < 10 ^ (-exponent).toNat := by positivity
  rw [Binary64.zpow_eq_div (show (10 : ℚ) ≠ 0 by norm_num), ← mul_div_assoc, div_le_iff₀ tens]
  refine le_of_mul_le_mul_left ?_ some
  calc (denominator : ℚ) * (point * 10 ^ exponent.toNat)
      = point * (denominator * 10 ^ exponent.toNat) := by ring
    _ ≤ (4 * number.significand + 2) * unit * 10 ^ (-exponent).toNat := cast
    _ = denominator * ((number.significand + 1 / 2) * 2 ^ number.scale *
          10 ^ (-exponent).toNat) := by
      rw [unit_eq]
      ring

/-- **The decimal of the shortest digits is hardly larger than the number.** -/
theorem shortest_le {tie : Tie} {number : Binary64} (other : number.isZero = false)
    (some : (shortest tie number).digits ≠ 0) :
    ((shortest tie number).digits : ℚ) * 10 ^ (shortest tie number).exponent ≤
      (number.significand + 1 / 2) * 2 ^ number.scale := by
  unfold shortest at some ⊢
  rw [other, if_neg Bool.false_ne_true] at some ⊢
  exact Interval.le_of_covers (Interval.covers_search _ _ _ some)

end Statechart.Decimal
