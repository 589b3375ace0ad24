/-
**Every double is read back as some double.**

What is printed of a finite double is in range for the reader, which takes up to sixty-four bits of
digits and moves them by a power of ten. Reading may miss the double by a unit in the last place,
but it does not overflow: only for the three largest doubles the errors of its two factors and of
their product could add up to that, and for these they do not.

* `Literal.accumulate_bounds`: what is taken of the digits.
* `Literal.isSome_scaled?`: when a number can be moved by a power of ten.
* `isSome_number?_pointedLiteral`: what is printed of a finite double is read as a number.
-/

import Statechart.Proofs.Json.Pointed
import Mathlib.Data.Nat.Digits.Defs

namespace Statechart.Json

open Decimal

namespace Literal

/-! ### Moving by a power of ten -/

theorem overflow_lt : Binary64.overflow < 10 ^ 309 := by
  have cast : ∀ first second : Nat, 18014398509481983 * 2 ^ first < 10 ^ second →
      ((2 : ℚ) ^ 54 - 1) * 2 ^ first < 10 ^ second := by
    intro first second less
    norm_num
    exact_mod_cast less
  exact cast 970 309 (by decide +kernel)

/-- Zero can be multiplied by any power of ten. -/
theorem isFinite_mul_zero (power : Nat) : ((Binary64.ofNat 0).mul (tenTo power)).isFinite := by
  refine Binary64.isFinite_mul ?_
  rw [Binary64.magnitude_ofNat_zero, zero_mul]
  exact Binary64.overflow_pos

/-- **A number can be moved by a power of ten** if there is room for the errors of rounding. -/
theorem isSome_scaled? {number : Nat} {exponent : Int}
    (small : (number : ℚ) * 10 ^ exponent * (1 + 1 / 2 ^ 53) ^ 2 < Binary64.overflow) :
    (scaled? number exponent).isSome := by
  unfold scaled?
  dsimp only
  split
  · next up =>
    by_cases zero : number = 0
    · subst zero
      split
      · rw [if_pos (isFinite_mul_zero _)]
        rfl
      · rfl
    · have positive : 0 < number := Nat.pos_of_ne_zero zero
      have moved : (10 : ℚ) ^ exponent = ((Nat.pow 10 exponent.natAbs : Nat) : ℚ) := by
        rw [Nat.pow_eq, Nat.cast_pow, Nat.cast_ofNat, ← zpow_natCast, Int.natAbs_of_nonneg up]
      have finite : ((Binary64.ofNat number).mul (tenTo exponent.natAbs)).isFinite :=
        Binary64.isFinite_mul_ofNat positive (Nat.pow_pos (by decide)) (moved ▸ small)
      have short : exponent.natAbs ≤ 308 := by
        by_contra long
        have one : (1 : ℚ) ≤ number := by exact_mod_cast positive
        have least : (10 : ℚ) ^ 309 ≤ 10 ^ exponent := by
          rw [← zpow_natCast]
          exact zpow_le_zpow_right₀ (by norm_num) (by omega)
        have grown : (10 : ℚ) ^ exponent ≤ number * 10 ^ exponent * (1 + 1 / 2 ^ 53) ^ 2 := by
          refine (le_mul_of_one_le_left (by positivity) one).trans ?_
          exact le_mul_of_one_le_right (by positivity) (one_le_pow₀ (by norm_num))
        exact absurd (small.trans overflow_lt) (not_lt.2 (least.trans grown))
      rw [if_pos short, if_pos finite]
      rfl
  · split
    · rfl
    · split <;> rfl

/-! ### Taking digits -/

theorem foldl_digits_ge (number : Nat) (digits : List Nat) :
    number * 10 ^ digits.length ≤
      digits.foldl (fun number digit => number * 10 + digit) number := by
  induction digits generalizing number with
  | nil => simp
  | cons digit digits ih =>
    refine le_trans ?_ (ih (number * 10 + digit))
    rw [List.length_cons, pow_succ', ← mul_assoc]
    exact Nat.mul_le_mul_right _ (Nat.le_add_right _ _)

/-- **What is taken of some digits** fits a word, and with zeros for the others it is no larger than
the number of all of them. -/
theorem accumulate_bounds {number : Nat} (fits : number ≤ wordMax) (digits : List Nat) :
    (accumulate number digits).1 ≤ wordMax ∧ (accumulate number digits).2 ≤ digits.length ∧
      (accumulate number digits).1 * 10 ^ (accumulate number digits).2 ≤
        digits.foldl (fun number digit => number * 10 + digit) number := by
  induction digits generalizing number with
  | nil => exact ⟨fits, Nat.le_refl _, by simp [accumulate]⟩
  | cons digit digits ih =>
    unfold accumulate
    split
    · next room =>
      obtain ⟨word, left, least⟩ := ih room
      exact ⟨word, left.trans (Nat.le_succ _), least⟩
    · exact ⟨fits, Nat.le_refl _, foldl_digits_ge number (digit :: digits)⟩

/-- **A number with few places in front of its point is in range.** -/
theorem isSome_float?_of_short {literal : Literal} (plain : literal.exponent = none)
    (short : literal.whole.length ≤ 16) : literal.float?.isSome := by
  obtain ⟨word, left, -⟩ := accumulate_bounds (Nat.zero_le wordMax) literal.whole
  unfold float?
  rw [plain]
  dsimp only
  rw [Option.isSome_map]
  generalize accumulate 0 literal.whole = whole at word left ⊢
  obtain ⟨word', -, -⟩ := accumulate_bounds word literal.fraction
  generalize accumulate whole.1 literal.fraction = all at word' ⊢
  have few : (all.1 : ℚ) ≤ 2 ^ 64 := by exact_mod_cast word'.trans (by decide)
  have near : (10 : ℚ) ^ ((whole.2 : Int) - (literal.fraction.length - all.2 : Nat)) ≤ 10 ^ 16 := by
    rw [← zpow_natCast]
    exact zpow_le_zpow_right₀ (by norm_num) (by omega)
  refine isSome_scaled? ?_
  calc (all.1 : ℚ) * 10 ^ ((whole.2 : Int) - (literal.fraction.length - all.2 : Nat)) *
        (1 + 1 / 2 ^ 53) ^ 2
      ≤ 2 ^ 64 * 10 ^ 16 * (1 + 1 / 2 ^ 53) ^ 2 := by gcongr
    _ < (2 ^ 54 - 1) * 2 ^ 200 := by norm_num
    _ ≤ Binary64.overflow :=
      mul_le_mul_of_nonneg_left (pow_le_pow_right₀ (by norm_num) (by decide)) (by norm_num)

theorem accumulate_single {digit : Nat} (small : digit ≤ 9) :
    accumulate 0 [digit] = (digit, 0) := by
  unfold accumulate
  rw [if_pos ((by omega : 0 * 10 + digit ≤ 9).trans (by decide)), Nat.zero_mul, Nat.zero_add]
  rfl

/-- A number with an exponent that goes down is in range. -/
theorem isSome_float?_of_down {literal : Literal} {first : Nat} (single : literal.whole = [first])
    (digit : first ≤ 9) {digits : List Nat} (down : literal.exponent = some (true, digits))
    (other : natural digits ≠ 0) : literal.float?.isSome := by
  unfold float?
  rw [single, down, accumulate_single digit]
  dsimp only
  rw [Option.isSome_map]
  split
  · rw [if_pos rfl]
    unfold scaled?
    dsimp only
    rw [if_neg (by omega)]
    split
    · rfl
    · split <;> rfl
  · rw [if_pos (.inr rfl)]
    rfl

/-- **A number with an exponent that goes up is in range** if the digits moved by it leave room for
the errors of rounding. -/
theorem isSome_float?_of_up {literal : Literal} {first number : Nat}
    (single : literal.whole = [first]) (digit : first ≤ 9)
    (spelled : natural (first :: literal.fraction) = number) {digits : List Nat}
    (up : literal.exponent = some (false, digits)) (short : natural digits ≤ exponentMax)
    (small : (number : ℚ) * 10 ^ ((natural digits : Int) - literal.fraction.length) *
      (1 + 1 / 2 ^ 53) ^ 2 < Binary64.overflow) : literal.float?.isSome := by
  unfold float?
  rw [single, up, accumulate_single digit]
  dsimp only
  rw [Option.isSome_map, if_pos short, if_neg Bool.false_ne_true]
  have word : first ≤ wordMax := digit.trans (by decide)
  obtain ⟨-, left, least⟩ := accumulate_bounds word literal.fraction
  have whole : literal.fraction.foldl (fun number digit => number * 10 + digit) first = number := by
    rw [← spelled, natural, List.foldl_cons, Nat.zero_mul, Nat.zero_add]
  rw [whole] at least
  generalize accumulate first literal.fraction = all at left least ⊢
  refine isSome_scaled? (lt_of_le_of_lt ?_ small)
  have cast : (all.1 : ℚ) * 10 ^ all.2 ≤ number := by exact_mod_cast least
  have split : ((0 : Nat) : Int) - (literal.fraction.length - all.2 : Nat) +
      (natural digits : Int) =
        all.2 + ((natural digits : Int) - literal.fraction.length) := by omega
  rw [split, zpow_add₀ (by norm_num), zpow_natCast, ← mul_assoc]
  gcongr

/-! ### What is read -/

theorem lt_overflow {number power : Nat} (small : number ≤ 10 ^ power) (short : power ≤ 308) :
    (number : ℚ) < Binary64.overflow := by
  have cast : ∀ first second : Nat, 10 ^ first < 18014398509481983 * 2 ^ second →
      ((10 ^ first : Nat) : ℚ) < ((2 : ℚ) ^ 54 - 1) * 2 ^ second := by
    intro first second less
    norm_num
    exact_mod_cast less
  have room : ∀ power ≤ 308, 10 ^ power < 18014398509481983 * 2 ^ 970 := by
    decide +kernel
  exact (Nat.cast_le.2 small).trans_lt (cast power 970 (room power short))

theorem isFinite_ofNat {number : Nat} (word : number ≤ wordMax) :
    (Binary64.ofNat number).isFinite := by
  refine Binary64.isFinite_ofRatio Nat.one_pos ?_
  rw [Nat.cast_one, div_one]
  have small : number ≤ 10 ^ 20 := word.trans (by decide)
  exact lt_overflow small (by decide)

/-- A power of ten is not rounded to less than one. -/
theorem one_le_magnitude_tenTo {power : Nat} (some : power ≠ 0) (short : power ≤ 308) :
    1 ≤ (tenTo power).magnitude := by
  have ten : (10 : ℚ) ≤ (Nat.pow 10 power : Nat) := by
    exact_mod_cast Nat.pow_le_pow_right (show 0 < 10 by decide) (Nat.one_le_iff_ne_zero.2 some)
  have ratio : ((Nat.pow 10 power : Nat) : ℚ) / (1 : Nat) = (Nat.pow 10 power : Nat) := by
    rw [Nat.cast_one, div_one]
  have large : (1 : ℚ) ≤ (Nat.pow 10 power : Nat) / (1 : Nat) := by
    rw [ratio]
    linarith
  have bounds := Binary64.magnitude_ofRatio_bounds Nat.one_pos large
    (by rw [ratio]; exact lt_overflow (Nat.le_refl _) short)
  rw [ratio] at bounds
  unfold tenTo Binary64.ofNat
  linarith [bounds.1]

/-- A number that is moved by a power of ten is finite. -/
theorem isFinite_of_scaled? {number : Nat} {exponent : Int} {double : Binary64}
    (word : number ≤ wordMax) (read : scaled? number exponent = some double) : double.isFinite := by
  have start := isFinite_ofNat word
  unfold scaled? at read
  dsimp only at read
  split at read
  · split at read
    · split at read
      · next finite =>
        cases read
        exact finite
      · cases read
    · split at read
      · cases read
        exact start
      · cases read
  · next down =>
    split at read
    · next short =>
      cases read
      exact Binary64.isFinite_div start (one_le_magnitude_tenTo (by omega) short)
    · split at read
      · next long short =>
        cases read
        refine Binary64.isFinite_div (Binary64.isFinite_div start ?_) ?_
        · exact one_le_magnitude_tenTo (by decide) (by decide)
        · exact one_le_magnitude_tenTo (by omega) (by omega)
      · cases read
        rfl

/-- **What digits give is finite.** -/
theorem isFinite_of_float? {literal : Literal} {double : Binary64}
    (read : literal.float? = some double) : double.isFinite := by
  obtain ⟨word, -⟩ := accumulate_bounds (Nat.zero_le wordMax) literal.whole
  unfold float? at read
  dsimp only at read
  generalize accumulate 0 literal.whole = whole at word read
  obtain ⟨word', -⟩ := accumulate_bounds word literal.fraction
  generalize accumulate whole.1 literal.fraction = all at word' read
  obtain ⟨magnitude, found, same⟩ := Option.map_eq_some_iff.1 read
  have finite : magnitude.isFinite := by
    split at found
    · exact isFinite_of_scaled? word' found
    · split at found
      · exact isFinite_of_scaled? word' found
      · split at found
        · cases found
          rfl
        · cases found
  rw [← same]
  split
  · rwa [Binary64.isFinite_neg]
  · exact finite

/-! ### Numbers -/

theorem isSome_number?_of_float? {literal : Literal} (found : literal.float?.isSome) :
    literal.number?.isSome := by
  unfold number?
  dsimp only
  split
  · rfl
  · split
    · rfl
    · rwa [Option.isSome_map]

end Literal

/-! ### Doubles -/

/-- A finite double leaves room for the errors of its reading, unless it is among the three largest
ones. -/
theorem room_of_finite {number : Binary64} (finite : number.isFinite)
    (other : ¬(number.scale = 971 ∧ 2 ^ 53 - 3 ≤ number.significand)) :
    ((number.significand : ℚ) + 1 / 2) * 2 ^ number.scale * (1 + 1 / 2 ^ 53) ^ 2 <
      Binary64.overflow := by
  obtain ⟨low, short⟩ := Binary64.significand_scale_le finite
  have positive : (0 : ℚ) < 2 ^ 970 := by positivity
  unfold Binary64.overflow
  by_cases last : number.scale = 971
  · have few : number.significand ≤ 2 ^ 53 - 4 := by omega
    have cast := Binary64.significand_cast_le few (by decide)
    rw [last, zpow_ofNat, show 971 = 970 + 1 from rfl, pow_succ (2 : ℚ) 970]
    generalize (2 : ℚ) ^ 970 = unit at positive ⊢
    calc ((number.significand : ℚ) + 1 / 2) * (unit * 2) * (1 + 1 / 2 ^ 53) ^ 2
        ≤ (2 ^ 53 - (4 : Nat) + 1 / 2) * (unit * 2) * (1 + 1 / 2 ^ 53) ^ 2 := by gcongr
      _ < (2 ^ 54 - 1) * unit := by
        norm_num
        linarith
  · have cast := Binary64.significand_cast_le low (by decide)
    have below : (2 : ℚ) ^ number.scale ≤ 2 ^ 970 := by
      rw [← zpow_natCast]
      exact zpow_le_zpow_right₀ (by norm_num) (by omega)
    generalize (2 : ℚ) ^ 970 = unit at positive below ⊢
    calc ((number.significand : ℚ) + 1 / 2) * 2 ^ number.scale * (1 + 1 / 2 ^ 53) ^ 2
        ≤ (2 ^ 53 - (1 : Nat) + 1 / 2) * unit * (1 + 1 / 2 ^ 53) ^ 2 := by gcongr
      _ < (2 ^ 54 - 1) * unit := by
        norm_num
        linarith

/-- The three largest doubles of either sign are read as numbers. -/
theorem isSome_number?_of_top {number : Binary64} (last : number.scale = 971)
    (top : 2 ^ 53 - 3 ≤ number.significand) : (pointedLiteral number).number?.isSome := by
  have all : ∀ bits ∈ [9218868437227405309, 9218868437227405310, 9218868437227405311,
      18442240474082181117, 18442240474082181118, 18442240474082181119],
      (pointedLiteral ⟨UInt64.ofNat bits⟩).number?.isSome := by
    decide +kernel
  have same : number = ⟨UInt64.ofNat number.bits.toNat⟩ := by rw [UInt64.ofNat_toNat]
  rw [same]
  refine all _ ?_
  have wide := number.bits.toNat_lt
  unfold Binary64.scale Binary64.significand Binary64.exponentField Binary64.fractionField at *
  rw [show Binary64.fractionBound = 4503599627370496 from rfl] at *
  generalize number.bits.toNat = bits at *
  simp only [List.mem_cons, List.not_mem_nil, or_false]
  split at top <;> omega

theorem le_nine_of_mem_decimal {number digit : Nat} (member : digit ∈ decimal number) :
    digit ≤ 9 := by
  obtain ⟨char, among, rfl⟩ := List.mem_map.1 member
  have isDigit := isDigit_toDigits char among
  unfold Char.isDigit at isDigit
  rw [Bool.and_eq_true, decide_eq_true_eq, decide_eq_true_eq] at isDigit
  have most : char.toNat ≤ '9'.toNat := isDigit.2
  have nine : '9'.toNat = '0'.toNat + 9 := rfl
  omega

/-- A number with several digits is as large as a power of ten with as many. -/
theorem pow_le_of_decimal {number first : Nat} {later : List Nat} (other : number ≠ 0)
    (digits : decimal number = first :: later) : 10 ^ later.length ≤ number := by
  cases later with
  | nil => exact Nat.one_le_iff_ne_zero.2 other
  | cons second later =>
    by_contra small
    have short := Nat.toDigits_length 10 number _ (Nat.succ_pos later.length) (not_le.1 small)
    have long := congrArg List.length digits
    rw [decimal, digitValues, List.length_map, List.length_cons, List.length_cons] at long
    omega

/-- The power of ten of the first digit of a finite double is of three places. -/
theorem point_le {first : Nat} {later : List Nat} {exponent : Int} {digits : Nat}
    (other : digits ≠ 0) (spelled : decimal digits = first :: later)
    (small : (digits : ℚ) * 10 ^ exponent < Binary64.overflow) :
    (later.length : Int) + exponent < 309 := by
  have least : (10 : ℚ) ^ later.length ≤ digits := by exact_mod_cast pow_le_of_decimal other spelled
  have grown : (10 : ℚ) ^ ((later.length : Int) + exponent) ≤ digits * 10 ^ exponent := by
    rw [zpow_add₀ (by norm_num), zpow_natCast]
    gcongr
  have less : (10 : ℚ) ^ ((later.length : Int) + exponent) < 10 ^ (309 : Int) := by
    rw [zpow_ofNat]
    exact (grown.trans_lt small).trans Literal.overflow_lt
  exact (zpow_lt_zpow_iff_right₀ (by norm_num)).1 less

/-- **What is printed of a finite double is read as a number.** -/
theorem isSome_number?_pointedLiteral {number : Binary64} (finite : number.isFinite) :
    (pointedLiteral number).number?.isSome := by
  by_cases top : number.scale = 971 ∧ 2 ^ 53 - 3 ≤ number.significand
  · exact isSome_number?_of_top top.1 top.2
  have room := room_of_finite finite top
  obtain ⟨whole, fraction, exponent, pointed, laid⟩ := pointed_magnitudeText number
  rw [pointedLiteral_eq pointed]
  refine Literal.isSome_number?_of_float? ?_
  cases laid with
  | positional short => exact Literal.isSome_float?_of_short rfl short
  | @scientific first _ point other digits behind far =>
    have single : first ≤ 9 := le_nine_of_mem_decimal (digits ▸ List.mem_cons_self)
    have power := natural_decimal (point - 1).natAbs
    rw [List.length_cons] at behind
    by_cases down : point < 1
    · refine Literal.isSome_float?_of_down rfl single (by rw [decide_eq_true down]) ?_
      rw [power]
      omega
    · have some : (shortest .toEven number).digits ≠ 0 := by
        intro zero
        have low := exponent_shortest other zero
        rw [zero] at digits
        have alone : fraction = [] := (List.cons.inj digits).2.symm
        rw [alone, List.length_nil] at behind
        omega
      have low := (mul_le_mul_of_nonneg_right (shortest_le other some)
        (show (0 : ℚ) ≤ (1 + 1 / 2 ^ 53) ^ 2 by positivity)).trans_lt room
      have near : (fraction.length : Int) + (shortest .toEven number).exponent < 309 := by
        refine point_le some digits (lt_of_le_of_lt ?_ low)
        exact le_mul_of_one_le_right (by positivity) (one_le_pow₀ (by norm_num))
      refine Literal.isSome_float?_of_up rfl single (digits ▸ natural_decimal _)
        (by rw [decide_eq_false down]) ?_ ?_
      · rw [power]
        unfold Literal.exponentMax
        norm_num
        omega
      · rw [power]
        have back : ((point - 1).natAbs : Int) - fraction.length =
            (shortest .toEven number).exponent := by
          omega
        rw [back]
        exact low

end Statechart.Json
