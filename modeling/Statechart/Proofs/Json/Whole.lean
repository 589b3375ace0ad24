/-
**Whole numbers in texts.**

A text may hold digits anywhere, but what stands in front of a point is one digit or does not start
with a zero. The digits of a number are of that kind, and they give the number.

* `Parted`: what may stand behind a value.
* `IsWhole.wholePart?`: what may stand in front of a point is read up to its end.
* `literal?_decimal`: the digits of a number are read as its literal.
* `number?_literalOf_eq`: which gives the number, if the number fits a word.
-/

import Statechart.Json.Printer
import Statechart.Json.Reading

namespace Statechart.Json

open Text

/-- What may stand behind a value: nothing, or what parts values and closes what holds them. -/
def Parted : List Symbol → Prop
  | [] => True
  | .char value :: _ => value = ',' ∨ value = ']' ∨ value = '}'
  | .stray _ :: _ => False

/-- The values of some digits. -/
def digitValues (chars : List Char) : List Nat := chars.map fun digit => digit.toNat - '0'.toNat

/-- The values of the decimal digits of a number. -/
def decimal (number : Nat) : List Nat := digitValues (Nat.toDigits 10 number)

/-! ### Digits -/

theorem isDigit_toDigits {number : Nat} : ∀ char ∈ Nat.toDigits 10 number, char.isDigit :=
  fun _ member => Nat.isDigit_of_mem_toDigits (by decide) (by decide) member

theorem isDigit_replicate {count : Nat} : ∀ char ∈ List.replicate count '0', char.isDigit := by
  intro char member
  rw [List.eq_of_mem_replicate member]
  rfl

theorem decimal_ne_nil (number : Nat) : decimal number ≠ [] := by
  unfold decimal digitValues
  rw [Ne, List.map_eq_nil_iff]
  exact Nat.toDigits_ne_nil

/-- The digits of a number give the number. -/
theorem natural_decimal (number : Nat) : Literal.natural (decimal number) = number := by
  unfold Literal.natural decimal digitValues
  rw [List.foldl_map]
  refine Eq.trans ?_ (Nat.ofDigitChars_ten_toDigits (n := number))
  rw [Nat.ofDigitChars_eq_foldl]
  simp only [Nat.mul_comm]

/-- Only the number zero starts with a zero. -/
theorem decimal_eq_zero_cons {number : Nat} {rest : List Nat}
    (starts : decimal number = 0 :: rest) : rest = [] := by
  induction number using Nat.strongRecOn generalizing rest with
  | ind number ih =>
    unfold decimal digitValues at starts ih
    by_cases small : number < 10
    · rw [Nat.toDigits_of_lt_base small] at starts
      exact (List.cons.inj starts).2.symm
    · rw [Nat.toDigits_of_base_le (by decide) (by omega), List.map_append] at starts
      have above : number / 10 ≠ 0 := by omega
      cases upper : decimal (number / 10) with
      | nil => exact absurd upper (decimal_ne_nil _)
      | cons first later =>
        unfold decimal digitValues at upper
        rw [upper] at starts
        obtain ⟨rfl, -⟩ := List.cons.inj starts
        have alone := ih (number / 10) (by omega) upper
        subst alone
        have value := natural_decimal (number / 10)
        unfold decimal digitValues at value
        rw [upper] at value
        exact absurd value.symm above

theorem digit?_of_isDigit {char : Char} (digit : char.isDigit) :
    digit? (.char char) = some (char.toNat - '0'.toNat) := by
  unfold Char.isDigit at digit
  rw [Bool.and_eq_true, decide_eq_true_eq, decide_eq_true_eq] at digit
  exact if_pos digit

theorem eq_zero_of_isDigit {char : Char} (digit : char.isDigit)
    (zero : char.toNat - '0'.toNat = 0) : char = '0' := by
  unfold Char.isDigit at digit
  rw [Bool.and_eq_true, decide_eq_true_eq, decide_eq_true_eq] at digit
  have least : '0'.toNat ≤ char.toNat := digit.1
  exact Char.toNat_inj.1 (by omega)

theorem digits_of_parted {rest : List Symbol} (parted : Parted rest) :
    digits rest = ([], rest) := by
  cases rest with
  | nil => rfl
  | cons symbol rest =>
    cases symbol with
    | stray byte => cases parted
    | char value => rcases parted with rfl | rfl | rfl <;> rfl

/-- Digits are read up to where no digit follows. -/
theorem digits_characters {chars : List Char} (all : ∀ char ∈ chars, char.isDigit)
    {rest : List Symbol} (ends : digits rest = ([], rest)) :
    digits (characters chars ++ rest) = (digitValues chars, rest) := by
  induction chars with
  | nil => exact ends
  | cons char chars ih =>
    show digits (.char char :: (characters chars ++ rest)) = _
    rw [digits, digit?_of_isDigit (all char List.mem_cons_self)]
    rw [ih fun char member => all char (List.mem_cons_of_mem _ member)]
    rfl

/-! ### In front of a point -/

/-- What may stand in front of a point: one digit, or several that do not start with a zero. -/
structure IsWhole (chars : List Char) : Prop where
  digits : ∀ char ∈ chars, char.isDigit
  occupied : chars ≠ []
  lead : ∀ later, chars = '0' :: later → later = []

/-- **What may stand in front of a point is read up to its end.** -/
theorem IsWhole.wholePart? {chars : List Char} (whole : IsWhole chars) {rest : List Symbol}
    (ends : Json.digits rest = ([], rest)) :
    Json.wholePart? (characters chars ++ rest) = some (digitValues chars, rest) := by
  unfold Json.wholePart?
  rw [digits_characters whole.digits ends]
  split
  · next none_ => exact absurd (List.map_eq_nil_iff.1 (Prod.mk.inj none_).1) whole.occupied
  · next starts =>
    have starts := (Prod.mk.inj starts).1
    cases chars with
    | nil => cases starts
    | cons first later =>
      obtain ⟨zero, more⟩ := List.cons.inj starts
      have lead := eq_zero_of_isDigit (whole.digits first List.mem_cons_self) zero
      rw [whole.lead later (lead ▸ rfl)] at more
      cases more
  · rfl

theorem isWhole_single {char : Char} (digit : char.isDigit) : IsWhole [char] := by
  refine ⟨fun other member => ?_, List.cons_ne_nil _ _, fun later same => ?_⟩
  · rw [List.mem_singleton.1 member]
    exact digit
  · exact (List.cons.inj same).2.symm

/-- The first digits of a positive number may stand in front of a point, with zeros behind them. -/
theorem isWhole_append {number : Nat} (positive : 0 < number) {chars later : List Char}
    (split : Nat.toDigits 10 number = chars ++ later) (occupied : chars ≠ []) (count : Nat) :
    IsWhole (chars ++ List.replicate count '0') := by
  refine ⟨fun char member => ?_, by simp [occupied], fun rest same => ?_⟩
  · rcases List.mem_append.1 member with member | member
    · have among : char ∈ Nat.toDigits 10 number := by
        rw [split]
        exact List.mem_append_left _ member
      exact isDigit_toDigits char among
    · exact isDigit_replicate char member
  · cases chars with
    | nil => exact absurd rfl occupied
    | cons first others =>
      obtain ⟨rfl, -⟩ := List.cons.inj same
      have starts : decimal number = 0 :: digitValues (others ++ later) := by
        unfold decimal
        rw [split]
        rfl
      have value := natural_decimal number
      rw [starts, decimal_eq_zero_cons starts] at value
      exact absurd value (Nat.ne_of_lt positive)

/-- The digits of a number may stand in front of a point. -/
theorem isWhole_toDigits (number : Nat) : IsWhole (Nat.toDigits 10 number) := by
  by_cases zero : number = 0
  · subst zero
    exact isWhole_single rfl
  · have whole := isWhole_append (Nat.pos_of_ne_zero zero)
      (List.append_nil (Nat.toDigits 10 number)).symm Nat.toDigits_ne_nil 0
    rwa [List.replicate_zero, List.append_nil] at whole

/-! ### Literals -/

/-- The literal as which a whole number is read. -/
def literalOf (number : Int) : Literal where
  negative := number < 0
  whole := decimal number.natAbs
  fraction := []
  exponent := none

theorem fractionPart?_of_parted {rest : List Symbol} (parted : Parted rest) :
    fractionPart? rest = some ([], rest) := by
  cases rest with
  | nil => rfl
  | cons symbol rest =>
    cases symbol with
    | stray byte => cases parted
    | char value => rcases parted with rfl | rfl | rfl <;> rfl

theorem exponentPart?_of_parted {rest : List Symbol} (parted : Parted rest) :
    exponentPart? rest = some (none, rest) := by
  cases rest with
  | nil => rfl
  | cons symbol rest =>
    cases symbol with
    | stray byte => cases parted
    | char value => rcases parted with rfl | rfl | rfl <;> rfl

/-- **The digits of a number are read as its literal.** -/
theorem literal?_decimal (negative : Bool) (number : Nat) {rest : List Symbol}
    (parted : Parted rest) :
    literal? negative (characters (Nat.toDigits 10 number) ++ rest) =
      some ({ negative, whole := decimal number, fraction := [], exponent := none }, rest) := by
  unfold literal?
  rw [(isWhole_toDigits number).wholePart? (digits_of_parted parted)]
  simp only [Option.bind_eq_bind, Option.bind_some]
  rw [fractionPart?_of_parted parted, Option.bind_some, exponentPart?_of_parted parted]
  rfl

/-- What the literal of a whole number gives: the number, or else no whole number at all. -/
theorem number?_literalOf_eq (number : Int) :
    (literalOf number).number? =
      if -(Nat.pow 2 63 : Int) ≤ number ∧ number ≤ Literal.wordMax then some (.integer number)
      else (literalOf number).float?.map .float := by
  obtain ⟨size, same⟩ : ∃ size, number.natAbs = size := ⟨_, rfl⟩
  have whole : Literal.natural (literalOf number).whole = size := (natural_decimal _).trans same
  have plain : ((literalOf number).fraction.isEmpty && (literalOf number).exponent.isNone) = true :=
    rfl
  have sign : (literalOf number).negative = decide (number < 0) := rfl
  have word : Literal.wordMax = 18446744073709551615 := rfl
  have half : Nat.pow 2 63 = 9223372036854775808 := rfl
  unfold Literal.number?
  rw [whole, plain, sign]
  by_cases negative : number < 0
  · by_cases least : -(Nat.pow 2 63 : Int) ≤ number
    · have within : size ≠ 0 ∧ size ≤ Nat.pow 2 63 := by omega
      have value : -(size : Int) = number := by omega
      have range : -(Nat.pow 2 63 : Int) ≤ number ∧ number ≤ Literal.wordMax := by omega
      rw [if_pos range]
      simp [negative, within, value]
    · have beyond : ¬ size ≤ Nat.pow 2 63 := by omega
      have outside : ¬ (-(Nat.pow 2 63 : Int) ≤ number ∧ number ≤ Literal.wordMax) := by omega
      rw [if_neg outside]
      simp [negative, beyond]
  · have value : (size : Int) = number := by omega
    by_cases greatest : number ≤ Literal.wordMax
    · have within : size ≤ Literal.wordMax := by omega
      have range : -(Nat.pow 2 63 : Int) ≤ number ∧ number ≤ Literal.wordMax := by omega
      rw [if_pos range]
      simp [negative, within, value]
    · have beyond : ¬ size ≤ Literal.wordMax := by omega
      have outside : ¬ (-(Nat.pow 2 63 : Int) ≤ number ∧ number ≤ Literal.wordMax) := by omega
      rw [if_neg outside]
      simp [negative, beyond]

end Statechart.Json
