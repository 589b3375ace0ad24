/-
**Numbers in digits.**

A whole number is written in the digits of a base, behind an optional plus sign.
-/

import Statechart.Text.Hex

namespace Statechart.Text

/-- The number that digits of a base give, a base up to sixteen. -/
def digits? (base : Nat) (digits : List Char) : Option Nat :=
  if digits.isEmpty then none
  else
    digits.foldlM (fun number digit => do
      let value ← hexValue? digit
      if value < base then some (number * base + value) else none) 0

/-- A text without a plus sign at its start. -/
def withoutPlus : List Char → List Char
  | '+' :: rest => rest
  | text => text

/-- The number of values that a machine word has. -/
def wordLimit : Nat := Nat.pow 2 64

/-- The number below the limit of a machine word that decimal digits give. -/
def word? (text : List Char) : Option Nat :=
  (digits? 10 (withoutPlus text)).filter fun number => number < wordLimit

end Statechart.Text
