/-
**What the cyclic redundancy check detects.**

A division step is linear in exclusive or, and it loses nothing: the polynomial has a term of the
highest power, so a remainder below that power tells that nothing was taken away and the remainder
before was twice as large. Two messages of one check whose remainders were the same up to some place
and are the same behind a few bytes therefore differ, in these bytes, by a number that is nought.

* `crcShift_xor`, `crcShifts_xor`: division steps are linear.
* `toNat_of_crcShifts_lt`: small remainders come from their multiples by a power of two.
* `toNat_xor_of_crcBytes_eq`: how far the remainders before two short blocks are apart, if those
  behind them agree.
* `eq_of_crc32c_eq`: a message in which at most four successive bytes are changed has another check.
-/

import Mathlib.Data.Nat.Bitwise
import Statechart.Digest.Crc32c

namespace Statechart.Digest

/-! ### Division steps -/

/-- The last bit of a word. -/
theorem and_one_eq_one_iff (word : UInt32) : word &&& 1 = 1 ↔ word.toNat.testBit 0 = true := by
  rw [← UInt32.toNat_inj, UInt32.toNat_and, Nat.testBit_zero, decide_eq_true_iff]
  exact iff_of_eq (congrArg (· = 1) (Nat.and_one_is_mod word.toNat))

/-- **A division step is linear.** -/
theorem crcShift_xor (first second : UInt32) :
    crcShift (first ^^^ second) = crcShift first ^^^ crcShift second := by
  unfold crcShift
  simp only [and_one_eq_one_iff, UInt32.toNat_xor, Nat.testBit_xor, UInt32.shiftRight_xor]
  cases first.toNat.testBit 0 <;> cases second.toNat.testBit 0
  · rfl
  · exact UInt32.xor_assoc _ _ _
  · show first >>> 1 ^^^ second >>> 1 ^^^ castagnoli = first >>> 1 ^^^ castagnoli ^^^ second >>> 1
    rw [UInt32.xor_assoc, UInt32.xor_assoc, UInt32.xor_comm castagnoli]
  · show first >>> 1 ^^^ second >>> 1 =
      first >>> 1 ^^^ castagnoli ^^^ (second >>> 1 ^^^ castagnoli)
    rw [UInt32.xor_comm (second >>> 1), UInt32.xor_assoc, ← UInt32.xor_assoc castagnoli,
      UInt32.xor_self, UInt32.zero_xor]

theorem crcShifts_xor (steps : Nat) (first second : UInt32) :
    crcShifts steps (first ^^^ second) = crcShifts steps first ^^^ crcShifts steps second := by
  induction steps generalizing first second with
  | zero => rfl
  | succ steps ih => rw [crcShifts, crcShift_xor, ih, crcShifts, crcShifts]

/-- What is left below the highest power after a step was twice as small before: had the polynomial
been taken away, its highest power would be left. -/
theorem toNat_of_crcShift_lt {word : UInt32} (small : (crcShift word).toNat < Nat.pow 2 31) :
    word.toNat = 2 * (crcShift word).toNat := by
  have shifted : (word >>> 1).toNat = word.toNat / 2 := by
    rw [UInt32.toNat_shiftRight]
    exact Nat.shiftRight_one word.toNat
  unfold crcShift at small ⊢
  split at small
  · have low : word.toNat / 2 < 2 ^ 31 := Nat.div_lt_of_lt_mul word.toNat_lt
    have top : ((word >>> 1) ^^^ castagnoli).toNat.testBit 31 = true := by
      rw [UInt32.toNat_xor, Nat.testBit_xor, shifted, Nat.testBit_lt_two_pow low]
      rfl
    rw [Nat.testBit_lt_two_pow small] at top
    cases top
  · next odd =>
    rw [and_one_eq_one_iff, Nat.testBit_zero, decide_eq_true_iff] at odd
    rw [if_neg (by rwa [and_one_eq_one_iff, Nat.testBit_zero, decide_eq_true_iff]), shifted]
    omega

/-- **Small remainders come from their multiples**: so many steps that leave so many high bits clear
have only moved the word. -/
theorem toNat_of_crcShifts_lt {steps : Nat} (few : steps ≤ 32) {word : UInt32}
    (small : (crcShifts steps word).toNat < Nat.pow 2 (32 - steps)) :
    word.toNat = Nat.pow 2 steps * (crcShifts steps word).toNat := by
  induction steps generalizing word with
  | zero => exact (Nat.one_mul _).symm
  | succ steps ih =>
    rw [crcShifts] at small ⊢
    have doubled : Nat.pow 2 (32 - steps) = 2 * Nat.pow 2 (32 - (steps + 1)) := by
      rw [show 32 - steps = 32 - (steps + 1) + 1 by omega]
      exact Nat.pow_succ'
    have moved := ih (by omega) (by omega : (crcShifts steps (crcShift word)).toNat < _)
    have below : (crcShift word).toNat < Nat.pow 2 31 := by
      calc (crcShift word).toNat
          = Nat.pow 2 steps * (crcShifts steps (crcShift word)).toNat := moved
        _ < Nat.pow 2 steps * Nat.pow 2 (32 - (steps + 1)) :=
          Nat.mul_lt_mul_of_pos_left small (Nat.pow_pos (by decide))
        _ = Nat.pow 2 31 := by
          rw [show (31 : Nat) = steps + (32 - (steps + 1)) by omega]
          exact (Nat.pow_add 2 steps _).symm
    rw [toNat_of_crcShift_lt below, moved, ← Nat.mul_assoc]
    exact congrArg (· * _) Nat.pow_succ'.symm

/-! ### Bytes -/

/-- How the remainders behind two bytes differ. -/
theorem crcByte_xor_crcByte (remainder remainder' : UInt32) (byte byte' : UInt8) :
    crcByte remainder byte ^^^ crcByte remainder' byte' =
      crcShifts 8 (remainder ^^^ remainder' ^^^ (byte ^^^ byte').toUInt32) := by
  unfold crcByte
  rw [← crcShifts_xor, UInt8.toUInt32_xor]
  refine congrArg (crcShifts 8) ?_
  rw [UInt32.xor_assoc, UInt32.xor_assoc, ← UInt32.xor_assoc byte.toUInt32,
    UInt32.xor_comm byte.toUInt32, UInt32.xor_assoc]

/-- Remainders that agree behind one byte agreed before it. -/
theorem crcByte_inj {remainder remainder' : UInt32} {byte : UInt8}
    (same : crcByte remainder byte = crcByte remainder' byte) : remainder = remainder' := by
  have differing := crcByte_xor_crcByte remainder remainder' byte byte
  rw [same, UInt32.xor_self, UInt8.xor_self] at differing
  have none : crcShifts 8 (remainder ^^^ remainder') = 0 := by simpa using differing.symm
  have moved := toNat_of_crcShifts_lt (show 8 ≤ 32 by decide)
    (show (crcShifts 8 (remainder ^^^ remainder')).toNat < _ from none ▸ by decide)
  rw [none] at moved
  exact UInt32.xor_eq_zero_iff.1 (UInt32.toNat_inj.1 moved)

/-- **Remainders that agree behind some bytes agreed before them.** -/
theorem crcBytes_inj {remainder remainder' : UInt32} {bytes : Bytes}
    (same : crcBytes remainder bytes = crcBytes remainder' bytes) : remainder = remainder' := by
  induction bytes generalizing remainder remainder' with
  | nil => exact same
  | cons byte bytes ih => exact crcByte_inj (ih same)

/-- In what two blocks differ, as a number whose lowest digit belongs to the first byte. -/
def differing : Bytes → Bytes → Nat
  | byte :: bytes, byte' :: bytes' => 256 * differing bytes bytes' + (byte ^^^ byte').toNat
  | _, _ => 0

theorem differing_lt (bytes bytes' : Bytes) :
    differing bytes bytes' < Nat.pow 256 bytes.length := by
  induction bytes generalizing bytes' with
  | nil => exact Nat.one_pos
  | cons byte bytes ih =>
    cases bytes' with
    | nil => exact Nat.pow_pos (by decide)
    | cons byte' bytes' =>
      have digit := (byte ^^^ byte').toNat_lt
      have later := ih bytes'
      have more : Nat.pow 256 (bytes.length + 1) = 256 * Nat.pow 256 bytes.length := Nat.pow_succ'
      rw [List.length_cons, differing]
      omega

theorem eq_of_differing_eq_zero {bytes bytes' : Bytes} (even : bytes.length = bytes'.length)
    (none : differing bytes bytes' = 0) : bytes = bytes' := by
  induction bytes generalizing bytes' with
  | nil => exact (List.length_eq_zero_iff.1 even.symm).symm
  | cons byte bytes ih =>
    cases bytes' with
    | nil => cases even
    | cons byte' bytes' =>
      rw [differing] at none
      have first : (byte ^^^ byte').toNat = 0 := by omega
      rw [UInt8.xor_eq_zero_iff.1 (UInt8.toNat_inj.1 first),
        ih (Nat.succ.inj even) (by omega)]

/-- A digit in front of others is joined to them without a carry. -/
theorem two_pow_mul_xor {number digit : Nat} (small : digit < Nat.pow 2 8) :
    (Nat.pow 2 8 * number) ^^^ digit = 256 * number + digit := by
  refine Nat.eq_of_testBit_eq fun position => ?_
  rw [Nat.testBit_xor, show 256 * number + digit = 2 ^ 8 * number + digit from rfl,
    Nat.testBit_two_pow_mul_add number small, show Nat.pow 2 8 = 2 ^ 8 from rfl,
    Nat.testBit_two_pow_mul]
  by_cases low : position < 8
  · rw [if_pos low, decide_eq_false (Nat.not_le.2 low), Bool.false_and, Bool.false_xor]
  · rw [if_neg low, decide_eq_true (Nat.not_lt.1 low), Bool.true_and,
      Nat.testBit_lt_two_pow (Nat.lt_of_lt_of_le small
        (Nat.pow_le_pow_right (by decide) (Nat.not_lt.1 low))), Bool.xor_false]

/-- **How far the remainders before two short blocks are apart** if those behind them agree: by what
the blocks differ in. -/
theorem toNat_xor_of_crcBytes_eq {bytes bytes' : Bytes} (even : bytes.length = bytes'.length)
    (short : bytes.length ≤ 4) {remainder remainder' : UInt32}
    (same : crcBytes remainder bytes = crcBytes remainder' bytes') :
    (remainder ^^^ remainder').toNat = differing bytes bytes' := by
  induction bytes generalizing bytes' remainder remainder' with
  | nil =>
    obtain rfl := List.length_eq_zero_iff.1 even.symm
    have same : remainder = remainder' := same
    rw [same, UInt32.xor_self]
    rfl
  | cons byte bytes ih =>
    cases bytes' with
    | nil => cases even
    | cons byte' bytes' =>
      have later : (crcByte remainder byte ^^^ crcByte remainder' byte').toNat =
          differing bytes bytes' :=
        ih (Nat.succ.inj even) (Nat.le_of_succ_le short) same
      rw [crcByte_xor_crcByte] at later
      -- at most three bytes follow, so the eight highest bits are clear behind this one
      have few : 256 ^ bytes.length ≤ 256 ^ 3 :=
        Nat.pow_le_pow_right (by decide) (Nat.le_of_succ_le_succ short)
      have small : differing bytes bytes' < Nat.pow 2 (32 - 8) :=
        Nat.lt_of_lt_of_le (differing_lt bytes bytes') few
      have moved := toNat_of_crcShifts_lt (show 8 ≤ 32 by decide) (later ▸ small)
      rw [later] at moved
      have undone : remainder ^^^ remainder' =
          (remainder ^^^ remainder' ^^^ (byte ^^^ byte').toUInt32) ^^^
            (byte ^^^ byte').toUInt32 := by
        rw [UInt32.xor_assoc (remainder ^^^ remainder'), UInt32.xor_self, UInt32.xor_zero]
      rw [undone, UInt32.toNat_xor, moved, UInt8.toNat_toUInt32,
        two_pow_mul_xor (byte ^^^ byte').toNat_lt]
      rfl

/-- **A short burst is detected**: messages that differ in at most four successive bytes have
different checks. -/
theorem eq_of_crc32c_eq {before bytes bytes' after : Bytes} (even : bytes.length = bytes'.length)
    (short : bytes.length ≤ 4)
    (same : crc32c (before ++ bytes ++ after) = crc32c (before ++ bytes' ++ after)) :
    bytes = bytes' := by
  unfold crc32c at same
  have remainders := UInt32.xor_left_inj _ |>.1 same
  unfold crcBytes at remainders
  rw [List.foldl_append, List.foldl_append, List.foldl_append, List.foldl_append] at remainders
  have apart := toNat_xor_of_crcBytes_eq even short (crcBytes_inj remainders)
  rw [UInt32.xor_self] at apart
  exact eq_of_differing_eq_zero even apart.symm

end Statechart.Digest
