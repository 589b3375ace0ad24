/-
**What plain scalars mean.**

A plain scalar may be nothing, a truth value or a number; otherwise it is a text.

* Whole numbers have a sign and decimal digits, or digits of base 16, 8 or 2 behind `0x`, `0o` or
  `0b`. Several decimal digits that start with a zero are a text.
* Other numbers are decimal fractions with an optional exponent, `.inf` and `.nan`.
-/

import Statechart.Text.Digits
import Statechart.Decimal.Binary64

namespace Statechart.Yaml

open Text Decimal

/-- Whether a plain scalar is nothing. -/
def isNull (text : String) : Bool := ["null", "Null", "NULL", "~"].contains text

/-- The truth value that a plain scalar gives. -/
def bool? (text : String) : Option Bool :=
  if ["true", "True", "TRUE"].contains text then some true
  else if ["false", "False", "FALSE"].contains text then some false
  else none

/-! ### Whole numbers -/

/-- Whether a text is several decimal digits, behind an optional sign, that start with a zero. -/
def isPadded (text : List Char) : Bool :=
  let digits :=
    match text with
    | '+' :: rest => rest
    | '-' :: rest => rest
    | text => text
  match digits with
  | '0' :: next :: rest => (next :: rest).all Char.isDigit
  | _ => false

/-- The whole number that a plain scalar gives, of whatever size. -/
def integer? (text : List Char) : Option Int :=
  match text with
  | '-' :: '0' :: 'x' :: digits => (digits? 16 digits).map fun number => -(number : Int)
  | '-' :: '0' :: 'o' :: digits => (digits? 8 digits).map fun number => -(number : Int)
  | '-' :: '0' :: 'b' :: digits => (digits? 2 digits).map fun number => -(number : Int)
  | '-' :: digits =>
    if isPadded text then none else (digits? 10 digits).map fun number => -(number : Int)
  | _ =>
    match withoutPlus text with
    | '0' :: 'x' :: digits => (digits? 16 digits).map Int.ofNat
    | '0' :: 'o' :: digits => (digits? 8 digits).map Int.ofNat
    | '0' :: 'b' :: digits => (digits? 2 digits).map Int.ofNat
    | digits => if isPadded text then none else (digits? 10 digits).map Int.ofNat

/-- The whole number below the limit of a machine word that a plain scalar without a minus sign
gives. -/
def natural? (text : List Char) : Option Nat :=
  match text with
  | '-' :: _ => none
  | _ => ((integer? text).map Int.toNat).filter fun number => number < wordLimit

/-- Whether a whole number is one of those that values hold. -/
def fitsValue (number : Int) : Bool :=
  -(Nat.pow 2 63 : Int) ≤ number && number < (Nat.pow 2 64 : Int)

/-- Whether a whole number is read as such, be it too large for a value. Beyond this range a plain
scalar is a fraction instead. -/
def fitsWhole (number : Int) : Bool :=
  -(Nat.pow 2 127 : Int) ≤ number && number < (Nat.pow 2 128 : Int)

/-- The whole number of a text, if it is read as such. -/
def whole? (text : String) : Option Int := (integer? text.toList).filter fitsWhole

/-! ### Fractions -/

/-- The exponent at the end of a number: none, or a sign and digits behind its mark. -/
def exponent? : List Char → Option Int
  | [] => some 0
  | mark :: rest =>
    if mark ≠ 'e' ∧ mark ≠ 'E' then none
    else
      match rest with
      | '-' :: digits => (digits? 10 digits).map fun number => -(number : Int)
      | digits => (digits? 10 (withoutPlus digits)).map Int.ofNat

/-- The nearest double to a decimal fraction without a sign. -/
def magnitude? (text : List Char) : Option Binary64 := do
  let (whole, rest) := text.span Char.isDigit
  let (fraction, rest) :=
    match rest with
    | '.' :: rest => rest.span Char.isDigit
    | rest => ([], rest)
  if whole.isEmpty && fraction.isEmpty then none
  let number ← digits? 10 (whole ++ fraction)
  let exponent ← exponent? rest
  return Binary64.ofDecimal false number (exponent - fraction.length)

/-- The fraction that a plain scalar gives. -/
def float? (text : List Char) : Option Binary64 :=
  match String.ofList text with
  | ".inf" | ".Inf" | ".INF" | "+.inf" | "+.Inf" | "+.INF" => some (Binary64.infinity false)
  | "-.inf" | "-.Inf" | "-.INF" => some (Binary64.infinity true)
  | ".nan" | ".NaN" | ".NAN" => some Binary64.notANumber
  | _ =>
    let found? :=
      match text with
      | '-' :: digits => (magnitude? digits).map Binary64.neg
      | _ => magnitude? (withoutPlus text)
    found?.filter Binary64.isFinite

end Statechart.Yaml
