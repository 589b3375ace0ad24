/-
**Numbers with a point in texts.**

A number that is not given as a whole one is written with a point or an exponent, whatever its bits
are. Such a form is read as one literal, so it does not hide what is behind it. Which number the
literal gives is another matter.

* `pointed_magnitudeText`: every number is written with a point or an exponent.
* `Pointed.literal?`: what is so written is read as one literal.
-/

import Statechart.Proofs.Decimal.Shortest
import Statechart.Proofs.Json.Whole

namespace Statechart

open Text Decimal

namespace Json

/-! ### Points and exponents -/

theorem someDigits?_characters {chars : List Char} (all : ∀ char ∈ chars, char.isDigit)
    (occupied : chars ≠ []) {rest : List Symbol} (ends : digits rest = ([], rest)) :
    someDigits? (characters chars ++ rest) = some (digitValues chars, rest) := by
  unfold someDigits?
  rw [digits_characters all ends]
  cases chars with
  | nil => exact absurd rfl occupied
  | cons => rfl

theorem fractionPart?_point {fraction : List Char} (all : ∀ char ∈ fraction, char.isDigit)
    (occupied : fraction ≠ []) {rest : List Symbol} (ends : digits rest = ([], rest)) :
    fractionPart? (characters ('.' :: fraction) ++ rest) = some (digitValues fraction, rest) :=
  someDigits?_characters all occupied ends

theorem exponentPart?_power {sign : Char} (signs : sign = '-' ∨ sign = '+') {power : List Char}
    (all : ∀ char ∈ power, char.isDigit) (occupied : power ≠ []) {rest : List Symbol}
    (ends : digits rest = ([], rest)) :
    exponentPart? (characters ('e' :: sign :: power) ++ rest) =
      some (some (decide (sign = '-'), digitValues power), rest) := by
  have found := someDigits?_characters all occupied ends
  rcases signs with rfl | rfl
  · show (someDigits? (characters power ++ rest)).bind _ = _
    rw [found]
    rfl
  · show (someDigits? (characters power ++ rest)).bind _ = _
    rw [found]
    rfl

/-- The written magnitude of a number with a point or an exponent, and the parts of its literal. -/
inductive Pointed : List Char → List Nat → List Nat → Option (Bool × List Nat) → Prop
  | point {whole fraction : List Char} (stands : IsWhole whole)
      (digits : ∀ char ∈ fraction, char.isDigit) (occupied : fraction ≠ []) :
      Pointed (whole ++ '.' :: fraction) (digitValues whole) (digitValues fraction) none
  | power {whole power : List Char} {sign : Char} (stands : IsWhole whole)
      (signs : sign = '-' ∨ sign = '+') (digits : ∀ char ∈ power, char.isDigit)
      (occupied : power ≠ []) :
      Pointed (whole ++ 'e' :: sign :: power) (digitValues whole) []
        (some (decide (sign = '-'), digitValues power))
  | both {whole fraction power : List Char} {sign : Char} (stands : IsWhole whole)
      (digits : ∀ char ∈ fraction, char.isDigit) (occupied : fraction ≠ [])
      (signs : sign = '-' ∨ sign = '+') (digits' : ∀ char ∈ power, char.isDigit)
      (occupied' : power ≠ []) :
      Pointed (whole ++ '.' :: (fraction ++ 'e' :: sign :: power)) (digitValues whole)
        (digitValues fraction) (some (decide (sign = '-'), digitValues power))

section Pointed

variable {chars : List Char} {whole fraction : List Nat} {exponent : Option (Bool × List Nat)}

/-- **A written magnitude is read as one literal**, whatever parts it from what follows. -/
theorem Pointed.literal? (pointed : Pointed chars whole fraction exponent) (negative : Bool)
    {rest : List Symbol} (parted : Parted rest) :
    Json.literal? negative (characters chars ++ rest) =
      some (⟨negative, whole, fraction, exponent⟩, rest) := by
  cases pointed with
  | @point whole fraction stands all occupied =>
    have split : characters (whole ++ '.' :: fraction) ++ rest =
        characters whole ++ (characters ('.' :: fraction) ++ rest) := by simp [characters]
    unfold Json.literal?
    rw [split, stands.wholePart? rfl]
    simp only [Option.bind_eq_bind, Option.bind_some]
    rw [fractionPart?_point all occupied (digits_of_parted parted), Option.bind_some,
      exponentPart?_of_parted parted]
    rfl
  | @power whole power sign stands signs all occupied =>
    have split : characters (whole ++ 'e' :: sign :: power) ++ rest =
        characters whole ++ (characters ('e' :: sign :: power) ++ rest) := by simp [characters]
    have bare : fractionPart? (characters ('e' :: sign :: power) ++ rest) =
        some ([], characters ('e' :: sign :: power) ++ rest) := rfl
    unfold Json.literal?
    rw [split, stands.wholePart? rfl]
    simp only [Option.bind_eq_bind, Option.bind_some]
    rw [bare, Option.bind_some, exponentPart?_power signs all occupied (digits_of_parted parted)]
    rfl
  | @both whole fraction power sign stands all occupied signs all' occupied' =>
    have split : characters (whole ++ '.' :: (fraction ++ 'e' :: sign :: power)) ++ rest =
        characters whole ++ (characters ('.' :: fraction) ++
          (characters ('e' :: sign :: power) ++ rest)) := by simp [characters]
    unfold Json.literal?
    rw [split, stands.wholePart? rfl]
    simp only [Option.bind_eq_bind, Option.bind_some]
    rw [fractionPart?_point all occupied rfl, Option.bind_some,
      exponentPart?_power signs all' occupied' (digits_of_parted parted)]
    rfl

theorem Pointed.digit (pointed : Pointed chars whole fraction exponent) :
    ∃ first later, chars = first :: later ∧ first.isDigit := by
  have lead : ∀ {whole : List Char} (behind : List Char), IsWhole whole →
      ∃ first later, whole ++ behind = first :: later ∧ first.isDigit := by
    intro whole behind stands
    cases whole with
    | nil => exact absurd rfl stands.occupied
    | cons first later => exact ⟨first, _, rfl, stands.digits first List.mem_cons_self⟩
  cases pointed with
  | point stands _ _ => exact lead _ stands
  | power stands _ _ _ => exact lead _ stands
  | both stands _ _ _ _ _ => exact lead _ stands

end Pointed

/-! ### Numbers that are written with a point -/

/-- Digits that are written around a point have no more than so many places in front of it. -/
theorem pointed_positional (number : Nat) (point : Int) (stands : 0 < number ∨ point ≤ 0) :
    ∃ whole fraction, Pointed (positional (digitString number) point ".0").toList whole fraction
      none ∧ whole.length ≤ max 1 point.toNat := by
  have size : ((digitString number).length : Int) = (Nat.toDigits 10 number).length := by
    rw [digitString, String.length_ofList]
  have occupied : 0 < (Nat.toDigits 10 number).length :=
    List.length_pos_iff.2 Nat.toDigits_ne_nil
  unfold positional
  dsimp only
  rw [size]
  split
  · next behind =>
    have positive : 0 < number := by omega
    rw [String.toList_append, String.toList_append, digitString, zeros, String.toList_ofList,
      String.toList_ofList]
    refine ⟨_, _, .point (isWhole_append positive (List.append_nil _).symm Nat.toDigits_ne_nil _)
      (fun char member => by rw [List.mem_singleton.1 member]; rfl) (by decide), ?_⟩
    rw [digitValues, List.length_map, List.length_append, List.length_replicate]
    omega
  · next short =>
    split
    · next inside =>
      have positive : 0 < number := by omega
      simp only [String.toList_append, String.toList_ofList, digitString]
      have whole := isWhole_append positive
        (List.take_append_drop point.toNat (Nat.toDigits 10 number)).symm
        (List.ne_nil_of_length_pos (by rw [List.length_take]; omega)) 0
      rw [List.replicate_zero, List.append_nil] at whole
      have behind : (Nat.toDigits 10 number).drop point.toNat ≠ [] :=
        List.ne_nil_of_length_pos (by rw [List.length_drop]; omega)
      have pointed := Pointed.point whole
        (fun char member => isDigit_toDigits char (List.mem_of_mem_drop member)) behind
      rw [List.append_cons] at pointed
      refine ⟨_, _, pointed, ?_⟩
      rw [digitValues, List.length_map, List.length_take]
      omega
    · next outside =>
      simp only [String.toList_append, String.toList_ofList, digitString, zeros]
      have behind : ∀ char ∈ List.replicate (-point).toNat '0' ++ Nat.toDigits 10 number,
          char.isDigit := fun char member =>
        (List.mem_append.1 member).elim (isDigit_replicate char) (isDigit_toDigits char)
      have zero : IsWhole ['0'] := isWhole_single rfl
      have pointed := Pointed.point zero behind (by simp [Nat.toDigits_ne_nil])
      rw [List.append_cons, ← List.append_assoc] at pointed
      exact ⟨_, _, pointed, Nat.le_max_left _ _⟩

/-- Digits that are written with an exponent have one place in front of the point. -/
theorem pointed_scientific (number : Nat) (point : Int) :
    ∃ first later, decimal number = first :: later ∧
      Pointed (scientific (digitString number) point).toList [first] later
        (some (decide (point < 1), decimal (point - 1).natAbs)) := by
  unfold scientific
  dsimp only
  obtain ⟨sign, signs, same, down⟩ : ∃ sign, (sign = '-' ∨ sign = '+') ∧
      (if point < 1 then "-" else "+") = String.ofList [sign] ∧
      decide (sign = '-') = decide (point < 1) := by
    split
    · next low => exact ⟨'-', .inl rfl, rfl, (decide_eq_true low).symm⟩
    · next high => exact ⟨'+', .inr rfl, rfl, (decide_eq_false high).symm⟩
  rw [same, digitString, digitString, String.toList_ofList, ← down]
  cases written : Nat.toDigits 10 number with
  | nil => exact absurd written Nat.toDigits_ne_nil
  | cons first later =>
    have digits : ∀ char ∈ first :: later, char.isDigit := written ▸ isDigit_toDigits
    have whole : IsWhole [first] := isWhole_single (digits first List.mem_cons_self)
    refine ⟨_, _, (congrArg digitValues written).trans rfl, ?_⟩
    cases later with
    | nil =>
      simp only [String.toList_append, String.toList_ofList]
      exact .power whole signs isDigit_toDigits Nat.toDigits_ne_nil
    | cons second later =>
      have behind : ∀ char ∈ second :: later, char.isDigit := fun char member =>
        digits char (List.mem_cons_of_mem _ member)
      have pointed := Pointed.both whole behind (List.cons_ne_nil _ _) signs isDigit_toDigits
        (Nat.toDigits_ne_nil (b := 10) (n := (point - 1).natAbs))
      simpa [digitValues, decimal] using pointed

/-- The written form of a number without its sign. -/
def magnitudeText (number : Binary64) : String :=
  let decimal := shortest .toEven number
  let digits := digitString decimal.digits
  let point : Int := digits.length + decimal.exponent
  if number.isZero then "0.0"
  else if -5 < point ∧ point ≤ 16 then positional digits point ".0"
  else scientific digits point

theorem numberText_eq (number : Binary64) :
    numberText number = signed number.isNegative (magnitudeText number) := rfl

/-- The parts of the literal as which a number is written: with up to sixteen places in front of a
point, or with one of its shortest digits in front of the others and an exponent. -/
inductive Laid (number : Binary64) : List Nat → List Nat → Option (Bool × List Nat) → Prop
  | positional {whole fraction : List Nat} (short : whole.length ≤ 16) :
      Laid number whole fraction none
  | scientific {first : Nat} {later : List Nat} {point : Int} (other : number.isZero = false)
      (digits : decimal (shortest .toEven number).digits = first :: later)
      (behind : point = (first :: later).length + (shortest .toEven number).exponent)
      (far : point ≤ -5 ∨ 16 < point) :
      Laid number [first] later (some (decide (point < 1), decimal (point - 1).natAbs))

/-- **Every number is written with a point or an exponent.** -/
theorem pointed_magnitudeText (number : Binary64) :
    ∃ whole fraction exponent, Pointed (magnitudeText number).toList whole fraction exponent ∧
      Laid number whole fraction exponent := by
  unfold magnitudeText
  dsimp only
  split
  · obtain ⟨whole, fraction, pointed, short⟩ := pointed_positional 0 0 (.inr (Int.le_refl 0))
    exact ⟨whole, fraction, none, pointed, .positional (short.trans (by decide))⟩
  · next other =>
    split
    · next near =>
      have stands : 0 < (shortest .toEven number).digits ∨
          ((digitString (shortest .toEven number).digits).length : Int) +
            (shortest .toEven number).exponent ≤ 0 := by
        by_cases zero : (shortest .toEven number).digits = 0
        · have below := exponent_shortest (Bool.eq_false_iff.2 other) zero
          have single : (digitString 0).length = 1 := rfl
          rw [zero, single]
          exact .inr (by omega)
        · exact .inl (Nat.pos_of_ne_zero zero)
      obtain ⟨whole, fraction, pointed, short⟩ := pointed_positional _ _ stands
      exact ⟨whole, fraction, none, pointed, .positional (by omega)⟩
    · next far =>
      obtain ⟨first, later, digits, pointed⟩ := pointed_scientific
        (shortest .toEven number).digits _
      refine ⟨[first], later, _, pointed, .scientific (Bool.eq_false_iff.2 other) digits ?_ ?_⟩
      · rw [← digits, digitString, String.length_ofList, decimal, digitValues, List.length_map]
      · omega

/-- The literal as which a number is read that is not given as a whole one. -/
def pointedLiteral (number : Binary64) : Literal :=
  ((literal? number.isNegative (characters (magnitudeText number).toList)).map Prod.fst).getD
    (literalOf 0)

/-- The literal of a number has the parts as which it is written. -/
theorem pointedLiteral_eq {number : Binary64} {whole fraction : List Nat}
    {exponent : Option (Bool × List Nat)}
    (pointed : Pointed (magnitudeText number).toList whole fraction exponent) :
    pointedLiteral number = ⟨number.isNegative, whole, fraction, exponent⟩ := by
  have ends : Parted [] := trivial
  have alone := pointed.literal? number.isNegative ends
  rw [List.append_nil] at alone
  unfold pointedLiteral
  rw [alone]
  rfl

/-- **A number with a point is read as its literal.** -/
theorem literal?_magnitudeText (number : Binary64) {rest : List Symbol} (parted : Parted rest) :
    literal? number.isNegative (characters (magnitudeText number).toList ++ rest) =
      some (pointedLiteral number, rest) := by
  obtain ⟨whole, fraction, exponent, pointed, -⟩ := pointed_magnitudeText number
  rw [pointedLiteral_eq pointed]
  exact pointed.literal? number.isNegative parted

end Json

end Statechart
