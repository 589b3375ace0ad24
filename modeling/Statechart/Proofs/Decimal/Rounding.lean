/-
**How far rounding goes.**

A ratio is rounded to a double by an error of at most half a unit of its last place, and to a finite
one unless it reaches the midpoint between the largest double and the power of two behind it. So the
product of two doubles is finite if their magnitudes multiply to less than that.

* `Binary64.magnitude`: the number that a finite double stands for, without its sign.
* `Binary64.Rounds`: the significand and the exponent that a ratio is rounded to.
* `Binary64.isFinite_ofRatio`, `Binary64.isFinite_mul`, `Binary64.isFinite_div`: what is rounded to
  a finite double.
* `Binary64.magnitude_ofRatio_bounds`: how far the double of a ratio may be from it.
-/

import Statechart.Decimal.Binary64
import Mathlib.Algebra.Order.Field.Power
import Mathlib.Tactic.Linarith
import Mathlib.Tactic.Positivity
import Mathlib.Tactic.NormNum
import Mathlib.Tactic.FieldSimp
import Mathlib.Tactic.Ring

namespace Statechart.Decimal.Binary64

/-! ### Ratios -/

/-- A power of any sign as a ratio of powers of natural numbers. -/
theorem zpow_eq_div {base : ℚ} (other : base ≠ 0) (power : Int) :
    base ^ power = base ^ power.toNat / base ^ (-power).toNat := by
  rw [← zpow_natCast, ← zpow_natCast, ← zpow_sub₀ other, Int.toNat_sub_toNat_neg]

/-- The ratio of two numbers that are shifted by a power of two. -/
theorem shiftRatio_div (numerator denominator : Nat) (power : Int) :
    ((shiftRatio numerator denominator power).1 : ℚ) / (shiftRatio numerator denominator power).2 =
      numerator / denominator / 2 ^ power := by
  unfold shiftRatio
  rw [zpow_eq_div two_ne_zero power]
  simp only [Nat.pow_eq]
  push_cast
  field_simp

theorem shiftRatio_pos (numerator : Nat) {denominator : Nat} (positive : 0 < denominator)
    (power : Int) : 0 < (shiftRatio numerator denominator power).2 :=
  Nat.mul_pos positive (Nat.pow_pos (by decide))

/-- A quotient of natural numbers is at least a number exactly if their ratio is. -/
theorem le_div_iff_cast {numerator denominator bound : Nat} (positive : 0 < denominator) :
    bound ≤ numerator / denominator ↔ (bound : ℚ) ≤ numerator / denominator := by
  rw [Nat.le_div_iff_mul_le positive, le_div_iff₀ (Nat.cast_pos.2 positive)]
  exact_mod_cast Iff.rfl

/-- **A ratio is rounded up by a half at most.** -/
theorem roundRatio_le {numerator denominator : Nat} (positive : 0 < denominator) :
    (roundRatio numerator denominator : ℚ) ≤ numerator / denominator + 1 / 2 := by
  have parts := Nat.div_add_mod numerator denominator
  have whole : 2 * denominator * roundRatio numerator denominator ≤
      2 * numerator + denominator := by
    unfold roundRatio
    dsimp only
    generalize numerator / denominator = quotient at parts ⊢
    generalize numerator % denominator = remainder at parts ⊢
    subst parts
    split
    · ring_nf
      omega
    · ring_nf
      omega
  have scaled : (0 : ℚ) < 2 * denominator := by positivity
  have cast : (2 * denominator * roundRatio numerator denominator : ℚ) ≤
      2 * numerator + denominator := by exact_mod_cast whole
  rw [← mul_le_mul_iff_of_pos_left scaled]
  calc (2 * denominator * roundRatio numerator denominator : ℚ)
      ≤ 2 * numerator + denominator := cast
    _ = 2 * denominator * (numerator / denominator + 1 / 2) := by
      have other : (denominator : ℚ) ≠ 0 := by positivity
      field_simp

theorem div_le_roundRatio (numerator denominator : Nat) :
    numerator / denominator ≤ roundRatio numerator denominator := by
  unfold roundRatio
  dsimp only
  split
  · exact Nat.le_refl _
  · exact Nat.le_succ _

/-! ### Significands and exponents -/

/-- The significand and the exponent that a value is rounded to. -/
structure Rounds (value : ℚ) (significand : Nat) (power : Int) : Prop where
  least : -1074 ≤ power
  below : value < 2 ^ 53 * 2 ^ power
  above : -1074 < power → 2 ^ 52 * 2 ^ power ≤ value
  near : (significand : ℚ) ≤ value / 2 ^ power + 1 / 2
  normal : -1074 < power → 2 ^ 52 ≤ significand

/-- The pattern of a significand and an exponent. -/
def packed (negative : Bool) (significand : Nat) (power : Int) : Binary64 :=
  ofMagnitude negative (min
    (if significand < fractionBound then significand
      else (power + 1075).toNat * fractionBound + (significand - fractionBound))
    infinityMagnitude)

/-- A ratio lies between two powers of two that its logarithms tell. -/
theorem logs_bound {numerator denominator : Nat} (positive : 0 < numerator)
    (positive' : 0 < denominator) :
    (2 : ℚ) ^ 52 * 2 ^ ((numerator.log2 : Int) - denominator.log2 - 53) ≤ numerator / denominator ∧
      (numerator / denominator : ℚ) <
        2 ^ 54 * 2 ^ ((numerator.log2 : Int) - denominator.log2 - 53) := by
  have low : ((2 ^ numerator.log2 : Nat) : ℚ) ≤ numerator :=
    Nat.cast_le.2 (Nat.log2_self_le positive.ne')
  have high : (numerator : ℚ) < ((2 ^ (numerator.log2 + 1) : Nat) : ℚ) :=
    Nat.cast_lt.2 Nat.lt_log2_self
  have low' : ((2 ^ denominator.log2 : Nat) : ℚ) ≤ denominator :=
    Nat.cast_le.2 (Nat.log2_self_le positive'.ne')
  have high' : (denominator : ℚ) < ((2 ^ (denominator.log2 + 1) : Nat) : ℚ) :=
    Nat.cast_lt.2 Nat.lt_log2_self
  generalize numerator.log2 = above, denominator.log2 = below at *
  push_cast at *
  have scale : (2 : ℚ) ^ ((above : Int) - below - 53) = 2 ^ above / 2 ^ below / 2 ^ 53 := by
    rw [zpow_sub₀ two_ne_zero, zpow_sub₀ two_ne_zero, zpow_natCast, zpow_natCast]
    rfl
  have some : (0 : ℚ) < denominator := Nat.cast_pos.2 positive'
  rw [scale]
  constructor
  · rw [le_div_iff₀ some]
    calc (2 : ℚ) ^ 52 * (2 ^ above / 2 ^ below / 2 ^ 53) * denominator
        ≤ 2 ^ 52 * (2 ^ above / 2 ^ below / 2 ^ 53) * 2 ^ (below + 1) := by gcongr
      _ = 2 ^ above := by
        rw [pow_succ (2 : ℚ) below]
        field_simp
      _ ≤ numerator := low
  · rw [div_lt_iff₀ some]
    calc (numerator : ℚ) < 2 ^ (above + 1) := high
      _ = 2 ^ 54 * (2 ^ above / 2 ^ below / 2 ^ 53) * 2 ^ below := by
        rw [pow_succ (2 : ℚ) above]
        field_simp
      _ ≤ 2 ^ 54 * (2 ^ above / 2 ^ below / 2 ^ 53) * denominator := by gcongr

/-- The exponent for a ratio: a guess from logarithms, which is right or one too small. -/
def powerOf (numerator denominator : Nat) : Int :=
  let guess : Int := max ((numerator.log2 : Int) - denominator.log2 - 53) (-1074)
  let (above, below) := shiftRatio numerator denominator guess
  if Nat.pow 2 53 ≤ above / below then guess + 1 else guess

theorem ofRatio_eq (negative : Bool) {numerator denominator : Nat} (positive : 0 < numerator) :
    ofRatio negative numerator denominator =
      packed negative
        (roundRatio (shiftRatio numerator denominator (powerOf numerator denominator)).1
          (shiftRatio numerator denominator (powerOf numerator denominator)).2)
        (powerOf numerator denominator) := by
  unfold ofRatio
  rw [if_neg positive.ne']
  rfl

/-- A quotient of shifted numbers is at least a number exactly if the shifted ratio is. -/
theorem le_shifted_iff (numerator : Nat) {denominator : Nat} (positive : 0 < denominator)
    (bound : Nat) (power : Int) :
    bound ≤ (shiftRatio numerator denominator power).1 /
        (shiftRatio numerator denominator power).2 ↔
      bound * 2 ^ power ≤ (numerator / denominator : ℚ) := by
  have positive' : (0 : ℚ) < 2 ^ power := by positivity
  rw [le_div_iff_cast (shiftRatio_pos numerator positive power), shiftRatio_div,
    le_div_iff₀ positive']

/-- **The exponent for a ratio** scales it to fifty-three bits, unless it is the least one. -/
theorem powerOf_bounds {numerator denominator : Nat} (positive : 0 < numerator)
    (positive' : 0 < denominator) :
    -1074 ≤ powerOf numerator denominator ∧
      (numerator / denominator : ℚ) < 2 ^ 53 * 2 ^ powerOf numerator denominator ∧
      (-1074 < powerOf numerator denominator →
        (2 : ℚ) ^ 52 * 2 ^ powerOf numerator denominator ≤ numerator / denominator) := by
  obtain ⟨low, high⟩ := logs_bound positive positive'
  unfold powerOf
  dsimp only
  generalize (numerator.log2 : Int) - denominator.log2 - 53 = start at low high ⊢
  obtain ⟨guess, here⟩ : ∃ guess, guess = max start (-1074) := ⟨_, rfl⟩
  have bumps := le_shifted_iff numerator positive' (Nat.pow 2 53) guess
  have whole : ((Nat.pow 2 53 : Nat) : ℚ) = 2 ^ 53 := by norm_num
  rw [whole] at bumps
  rw [← here]
  split
  · next bump =>
    have reached := bumps.1 bump
    have next : (2 : ℚ) ^ (guess + 1) = 2 * 2 ^ guess := by
      rw [zpow_add_one₀ two_ne_zero, mul_comm]
    have wide : (2 : ℚ) ^ start ≤ 2 ^ guess :=
      zpow_le_zpow_right₀ (by norm_num) (here ▸ le_max_left _ _)
    rw [next]
    refine ⟨by omega, ?_, fun _ => ?_⟩ <;> linarith
  · next stay =>
    refine ⟨by omega, lt_of_not_ge fun reached => stay (bumps.2 reached), fun normal => ?_⟩
    have same : guess = start := by omega
    rw [same]
    exact low

/-- **A ratio is rounded to a significand and an exponent.** -/
theorem exists_rounds (negative : Bool) {numerator denominator : Nat} (positive : 0 < numerator)
    (positive' : 0 < denominator) :
    ∃ significand power, Rounds (numerator / denominator) significand power ∧
      ofRatio negative numerator denominator = packed negative significand power := by
  obtain ⟨least, below, above⟩ := powerOf_bounds positive positive'
  refine ⟨_, _, ⟨least, below, above, ?_, fun normal => ?_⟩, ofRatio_eq negative positive⟩
  · rw [← shiftRatio_div]
    exact roundRatio_le (shiftRatio_pos numerator positive' _)
  · refine le_trans ((le_shifted_iff numerator positive' _ _).2 ?_) (div_le_roundRatio _ _)
    exact_mod_cast above normal

/-! ### Finite doubles -/

/-- The number that a finite double stands for, without its sign. -/
def magnitude (number : Binary64) : ℚ := number.significand * 2 ^ number.scale

/-- The midpoint between the largest double and the power of two behind it. -/
def overflow : ℚ := (2 ^ 54 - 1) * 2 ^ 970

theorem overflow_pos : 0 < overflow := mul_pos (by norm_num) (by positivity)

theorem toNat_ofMagnitude {size : Nat} (small : size < infinityMagnitude) :
    (ofMagnitude false size).bits.toNat = size := by
  have bound : infinityMagnitude < 2 ^ 64 := by decide
  exact Nat.mod_eq_of_lt (Nat.lt_trans small bound)

theorem isFinite_ofMagnitude {size : Nat} (small : size < infinityMagnitude) :
    (ofMagnitude false size).isFinite := by
  have field : (ofMagnitude false size).exponentField < 2047 := by
    unfold exponentField
    rw [toNat_ofMagnitude small]
    exact Nat.lt_of_le_of_lt (Nat.mod_le _ _)
      (Nat.div_lt_of_lt_mul ((Nat.mul_comm ..).symm ▸ small))
  exact decide_eq_true (Nat.ne_of_lt field)

/-- The pattern of a significand and an exponent as a number, if it is below that of infinity. -/
def patternOf (significand : Nat) (power : Int) : Nat :=
  if significand < fractionBound then significand
  else (power + 1075).toNat * fractionBound + (significand - fractionBound)

theorem packed_of_lt {significand : Nat} {power : Int}
    (small : patternOf significand power < infinityMagnitude) :
    packed false significand power = ofMagnitude false (patternOf significand power) := by
  unfold packed
  rw [← patternOf, Nat.min_eq_left small.le]

theorem Rounds.significand_le {value : ℚ} {significand : Nat} {power : Int}
    (rounds : Rounds value significand power) : significand ≤ 2 ^ 53 := by
  have near := rounds.near
  have most : value / 2 ^ power < 2 ^ 53 := (div_lt_iff₀ (by positivity)).2 rounds.below
  have cast : (significand : ℚ) < ((2 ^ 53 + 1 : Nat) : ℚ) := by
    push_cast
    linarith
  exact Nat.le_of_lt_succ (Nat.cast_lt.1 cast)

theorem Rounds.power_lt {value : ℚ} {significand : Nat} {power : Int}
    (rounds : Rounds value significand power) (small : value < overflow) : power < 972 := by
  by_contra high
  have above := rounds.above (by omega)
  have large : (2 : ℚ) ^ (972 : Int) ≤ 2 ^ power :=
    zpow_le_zpow_right₀ (by norm_num) (not_lt.1 high)
  have some : (0 : ℚ) < 2 ^ 970 := by positivity
  rw [zpow_ofNat, show 972 = 970 + 2 from rfl, pow_add] at large
  unfold overflow at small
  generalize (2 : ℚ) ^ 970 = unit at some large small
  linarith

/-- With the largest exponent the midpoint lies half a unit below the next significand. -/
theorem Rounds.significand_lt {value : ℚ} {significand : Nat}
    (rounds : Rounds value significand 971) (small : value < overflow) : significand < 2 ^ 53 := by
  have near := rounds.near
  have share : value / 2 ^ (971 : Int) < 2 ^ 53 - 1 / 2 := by
    rw [div_lt_iff₀ (by positivity), zpow_ofNat, show 971 = 970 + 1 from rfl, pow_succ (2 : ℚ) 970]
    refine small.trans_eq ?_
    unfold overflow
    generalize (2 : ℚ) ^ 970 = unit
    ring
  have cast : (significand : ℚ) < ((2 ^ 53 : Nat) : ℚ) := by
    push_cast
    linarith
  exact Nat.cast_lt.1 cast

/-- **A value below the midpoint is rounded to a pattern below that of the infinity.** -/
theorem Rounds.pattern_lt {value : ℚ} {significand : Nat} {power : Int}
    (rounds : Rounds value significand power) (small : value < overflow) :
    significand ≤ 2 ^ 53 ∧ patternOf significand power < infinityMagnitude := by
  have wide := rounds.significand_le
  have low := rounds.power_lt small
  have last : power = 971 → significand < 2 ^ 53 := by
    rintro rfl
    exact rounds.significand_lt small
  refine ⟨wide, ?_⟩
  have least := rounds.least
  have bound : infinityMagnitude = 2047 * 4503599627370496 := rfl
  have half : fractionBound = 4503599627370496 := rfl
  unfold patternOf
  rw [half, bound]
  split <;> omega

/-- What a double stands for whose pattern was made of a significand and an exponent. -/
theorem magnitude_packed {significand : Nat} {power : Int} (least : -1074 ≤ power)
    (low : 2 ^ 52 ≤ significand) (high : significand ≤ 2 ^ 53)
    (small : patternOf significand power < infinityMagnitude) :
    (packed false significand power).magnitude = significand * 2 ^ power := by
  obtain ⟨exponent, same⟩ : ∃ exponent : Nat, power + 1075 = exponent :=
    Int.eq_ofNat_of_zero_le (by omega)
  have half : fractionBound = 4503599627370496 := rfl
  have bound : infinityMagnitude = 2047 * 4503599627370496 := rfl
  have pattern : patternOf significand power =
      exponent * 4503599627370496 + (significand - 4503599627370496) := by
    unfold patternOf
    rw [half, if_neg (by omega), same, Int.toNat_natCast]
  rw [packed_of_lt small]
  unfold magnitude Binary64.significand scale exponentField fractionField
  rw [toNat_ofMagnitude small, pattern, half]
  rw [pattern, bound] at small
  by_cases full : significand = 2 ^ 53
  · have field : (exponent * 4503599627370496 + (significand - 4503599627370496)) /
        4503599627370496 % 2048 = exponent + 1 := by omega
    have rest : (exponent * 4503599627370496 + (significand - 4503599627370496)) %
        4503599627370496 = 0 := by omega
    have shift : (↑(max (exponent + 1) 1) : Int) - 1075 = power + 1 := by omega
    rw [field, rest, if_neg (Nat.succ_ne_zero _), shift, full, zpow_add_one₀ two_ne_zero]
    push_cast
    ring
  · have field : (exponent * 4503599627370496 + (significand - 4503599627370496)) /
        4503599627370496 % 2048 = exponent := by omega
    have rest : (exponent * 4503599627370496 + (significand - 4503599627370496)) %
        4503599627370496 = significand - 4503599627370496 := by omega
    have whole : 4503599627370496 + (significand - 4503599627370496) = significand := by omega
    have shift : (↑(max exponent 1) : Int) - 1075 = power := by omega
    rw [field, rest, if_neg (by omega), whole, shift]

/-- **A ratio below the midpoint is rounded to a finite double.** -/
theorem isFinite_ofRatio {numerator denominator : Nat} (positive : 0 < denominator)
    (small : (numerator / denominator : ℚ) < overflow) :
    (ofRatio false numerator denominator).isFinite := by
  by_cases zero : numerator = 0
  · unfold ofRatio
    rw [if_pos zero]
    rfl
  · obtain ⟨significand, power, rounds, same⟩ :=
      exists_rounds false (Nat.pos_of_ne_zero zero) positive
    rw [same, packed_of_lt (rounds.pattern_lt small).2]
    exact isFinite_ofMagnitude (rounds.pattern_lt small).2

/-- **A ratio of one or more** is neither halved by rounding nor made larger than by one part of
`2 ^ 53`. -/
theorem magnitude_ofRatio_bounds {numerator denominator : Nat} (positive : 0 < denominator)
    (large : (1 : ℚ) ≤ numerator / denominator)
    (small : (numerator / denominator : ℚ) < overflow) :
    (numerator / denominator : ℚ) / 2 < (ofRatio false numerator denominator).magnitude ∧
      (ofRatio false numerator denominator).magnitude ≤
        numerator / denominator * (1 + 1 / 2 ^ 53) := by
  have other : 0 < numerator := by
    refine Nat.pos_of_ne_zero fun zero => ?_
    rw [zero, Nat.cast_zero, zero_div] at large
    linarith
  obtain ⟨significand, power, rounds, same⟩ := exists_rounds false other positive
  obtain ⟨wide, inside⟩ := rounds.pattern_lt small
  have unit : (0 : ℚ) < 2 ^ power := by positivity
  have below := rounds.below
  have normal : -1074 < power := by
    refine lt_of_le_of_ne rounds.least fun least => ?_
    rw [← least] at below
    have tiny : (2 : ℚ) ^ 53 * 2 ^ (-1074 : Int) ≤ 1 := by
      rw [zpow_neg, zpow_ofNat, ← div_eq_mul_inv]
      exact div_le_one_of_le₀ (pow_le_pow_right₀ (by norm_num) (by norm_num)) (by positivity)
    linarith
  have share := rounds.above normal
  have low : (2 : ℚ) ^ 52 ≤ significand := by exact_mod_cast rounds.normal normal
  rw [same, magnitude_packed rounds.least (rounds.normal normal) wide inside]
  constructor
  · calc (numerator / denominator : ℚ) / 2 < 2 ^ 52 * 2 ^ power := by linarith
      _ ≤ significand * 2 ^ power := by gcongr
  · calc (significand : ℚ) * 2 ^ power
        ≤ ((numerator / denominator : ℚ) / 2 ^ power + 1 / 2) * 2 ^ power := by
          gcongr
          exact rounds.near
      _ = numerator / denominator + 2 ^ power / 2 := by field_simp
      _ ≤ numerator / denominator * (1 + 1 / 2 ^ 53) := by linarith

theorem ratio_div (number : Binary64) :
    (number.ratio.1 : ℚ) / number.ratio.2 = number.magnitude := by
  unfold ratio magnitude
  rw [shiftRatio_div, zpow_neg, div_inv_eq_mul, Nat.cast_one, div_one]

/-- **The product of two doubles is finite** if their magnitudes multiply to less than the
midpoint. -/
theorem isFinite_mul {first second : Binary64}
    (small : first.magnitude * second.magnitude < overflow) : (first.mul second).isFinite := by
  have some : ∀ number : Binary64, 0 < number.ratio.2 :=
    fun number => shiftRatio_pos number.significand Nat.one_pos _
  refine isFinite_ofRatio (Nat.mul_pos (some first) (some second)) ?_
  rw [← ratio_div, ← ratio_div, div_mul_div_comm] at small
  exact_mod_cast small

/-- A finite double has a significand below `2 ^ 53` and an exponent of up to 971. -/
theorem significand_scale_le {number : Binary64} (finite : number.isFinite) :
    number.significand ≤ 2 ^ 53 - 1 ∧ number.scale ≤ 971 := by
  have field : number.exponentField < 2047 :=
    lt_of_le_of_ne (Nat.le_of_lt_succ (Nat.mod_lt _ (by decide))) (of_decide_eq_true finite)
  have rest : number.fractionField < fractionBound := Nat.mod_lt _ (by decide)
  have half : fractionBound = 2 ^ 52 := rfl
  unfold significand scale
  rw [half] at rest ⊢
  constructor
  · split <;> omega
  · omega

theorem significand_cast_le {number : Binary64} {bound : Nat}
    (low : number.significand ≤ 2 ^ 53 - bound) (small : bound ≤ 2 ^ 53) :
    (number.significand : ℚ) ≤ 2 ^ 53 - bound := by
  have cast : (number.significand : ℚ) ≤ ((2 ^ 53 - bound : Nat) : ℚ) := Nat.cast_le.2 low
  rw [Nat.cast_sub small] at cast
  exact_mod_cast cast

theorem magnitude_lt_overflow {number : Binary64} (finite : number.isFinite) :
    number.magnitude < overflow := by
  obtain ⟨low, short⟩ := significand_scale_le finite
  have positive : (0 : ℚ) < 2 ^ 970 := by positivity
  have cast := significand_cast_le low (by decide)
  have below : (2 : ℚ) ^ number.scale ≤ 2 ^ 970 * 2 := by
    rw [← pow_succ, ← zpow_natCast]
    exact zpow_le_zpow_right₀ (by norm_num) short
  unfold magnitude overflow
  generalize (2 : ℚ) ^ 970 = unit at positive below ⊢
  calc (number.significand : ℚ) * 2 ^ number.scale
      ≤ (2 ^ 53 - (1 : Nat)) * (unit * 2) := by gcongr
    _ < (2 ^ 54 - 1) * unit := by
      norm_num
      linarith

/-- **The quotient of a finite double by one that is not below one is finite.** -/
theorem isFinite_div {first second : Binary64} (finite : first.isFinite)
    (large : 1 ≤ second.magnitude) : (first.div second).isFinite := by
  have some : 0 < first.ratio.2 := shiftRatio_pos first.significand Nat.one_pos _
  have above : 0 < second.ratio.1 := by
    refine Nat.pos_of_ne_zero fun zero => ?_
    rw [← ratio_div, zero, Nat.cast_zero, zero_div] at large
    linarith
  have least : 0 ≤ first.magnitude := by
    unfold magnitude
    positivity
  have quotient : ((first.ratio.1 * second.ratio.2 : Nat) : ℚ) /
      (first.ratio.2 * second.ratio.1 : Nat) = first.magnitude / second.magnitude := by
    rw [Nat.cast_mul, Nat.cast_mul, ← div_div_div_eq, ratio_div, ratio_div]
  have small := (div_le_self least large).trans_lt (magnitude_lt_overflow finite)
  rw [← quotient] at small
  exact isFinite_ofRatio (Nat.mul_pos some above) small

/-- The sign is no matter of being finite. -/
theorem isFinite_neg (number : Binary64) : number.neg.isFinite = number.isFinite := by
  have wide := number.bits.toNat_lt
  unfold isFinite neg exponentField ofMagnitude
  rw [UInt64.toNat_ofNat', show signBit = 9223372036854775808 from rfl,
    show fractionBound = 4503599627370496 from rfl]
  generalize number.bits.toNat = bits at wide
  congr 2
  split <;> omega

/-! ### Natural numbers -/

theorem magnitude_ofNat_zero : (ofNat 0).magnitude = 0 := by
  have nothing : (ofNat 0).significand = 0 := by decide +kernel
  unfold magnitude
  rw [nothing, Nat.cast_zero, zero_mul]

/-- A natural number grows by rounding by one part of `2 ^ 53` at most. -/
theorem magnitude_ofNat_le {number : Nat} (small : (number : ℚ) < overflow) :
    (ofNat number).magnitude ≤ number * (1 + 1 / 2 ^ 53) := by
  by_cases zero : number = 0
  · rw [zero, magnitude_ofNat_zero, Nat.cast_zero, zero_mul]
  · have ratio : ((number : ℚ) / (1 : Nat)) = number := by rw [Nat.cast_one, div_one]
    have large : (1 : ℚ) ≤ number / (1 : Nat) := by
      rw [ratio]
      exact_mod_cast Nat.pos_of_ne_zero zero
    have bounds := magnitude_ofRatio_bounds Nat.one_pos large (by rwa [ratio])
    rw [ratio] at bounds
    exact bounds.2

/-- The product of two rounded natural numbers is finite if there is room for the errors. -/
theorem isFinite_mul_ofNat {first second : Nat} (positive : 0 < first) (positive' : 0 < second)
    (small : (first * second : ℚ) * (1 + 1 / 2 ^ 53) ^ 2 < overflow) :
    ((ofNat first).mul (ofNat second)).isFinite := by
  have one : (1 : ℚ) ≤ first := by exact_mod_cast positive
  have one' : (1 : ℚ) ≤ second := by exact_mod_cast positive'
  have room : (first * second : ℚ) < overflow := by
    refine lt_of_le_of_lt (le_mul_of_one_le_right (by positivity) ?_) small
    exact one_le_pow₀ (by norm_num)
  have left := magnitude_ofNat_le ((le_mul_of_one_le_right (by positivity) one').trans_lt room)
  have right := magnitude_ofNat_le ((le_mul_of_one_le_left (by positivity) one).trans_lt room)
  have some : 0 ≤ (ofNat second).magnitude := by
    unfold magnitude
    positivity
  refine isFinite_mul (lt_of_le_of_lt ?_ small)
  calc (ofNat first).magnitude * (ofNat second).magnitude
      ≤ (first * (1 + 1 / 2 ^ 53)) * (second * (1 + 1 / 2 ^ 53)) :=
        mul_le_mul left right some (by positivity)
    _ = first * second * (1 + 1 / 2 ^ 53) ^ 2 := by ring

end Statechart.Decimal.Binary64
