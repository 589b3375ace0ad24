/-
**Written forms of floating-point numbers.**

The digits of a number are laid out in one of two notations: the number text of data files, which
keeps a decimal point and turns to an exponent for very large and very small magnitudes, and the
plain positional text of names.
-/

import Statechart.Decimal.Shortest

namespace Statechart.Decimal

/-- The decimal digits of a natural number. -/
def digitString (value : Nat) : String := String.ofList (Nat.toDigits 10 value)

/-- So many zeros. -/
def zeros (count : Nat) : String := String.ofList (List.replicate count '0')

/-- A text behind a minus sign if there is one. -/
def signed (negative : Bool) (text : String) : String := if negative then "-" ++ text else text

/-- The digits around a point that stands behind so many of them, zeros filling the gaps. -/
def positional (digits : String) (point : Int) (whole : String) : String :=
  let size : Int := digits.length
  if size ≤ point then digits ++ zeros (point - size).toNat ++ whole
  else if 0 < point then
    String.ofList (digits.toList.take point.toNat) ++ "." ++
      String.ofList (digits.toList.drop point.toNat)
  else "0." ++ zeros (-point).toNat ++ digits

/-- One digit, the others behind a point, and the power of ten of the first with its sign. -/
def scientific (digits : String) (point : Int) : String :=
  let power := (if point < 1 then "-" else "+") ++ digitString (point - 1).natAbs
  match digits.toList with
  | [] => "0e" ++ power
  | [single] => String.ofList [single] ++ "e" ++ power
  | first :: rest => String.ofList (first :: '.' :: rest) ++ "e" ++ power

/-- The number text of data files: shortest digits with a tie to the even one, positional for a
point from four places before the digits to sixteen behind their start, and always with a point or
an exponent. -/
def numberText (number : Binary64) : String :=
  let decimal := shortest .toEven number
  let digits := digitString decimal.digits
  let point : Int := digits.length + decimal.exponent
  let magnitude :=
    if number.isZero then "0.0"
    else if -5 < point ∧ point ≤ 16 then positional digits point ".0"
    else scientific digits point
  signed number.isNegative magnitude

/-- The positional text of a number used as a name: no point behind a whole number, a tie between
digits rounded up, and words for what is not finite. -/
def nameText (number : Binary64) : String :=
  if number.isNaN then "NaN"
  else
    let decimal := shortest .up number
    let digits := digitString decimal.digits
    let magnitude :=
      if !number.isFinite then "inf"
      else if number.isZero then "0"
      else positional digits (digits.length + decimal.exponent) ""
    signed number.isNegative magnitude

end Statechart.Decimal
