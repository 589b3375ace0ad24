/-
**Reading data values from text.**

Reading judges what the grammar leaves open: how deep a text nests, which number its digits give,
and which characters its escapes give.

* A whole number between `-2 ^ 63` and `2 ^ 64 - 1` is read exactly, save that `-0` is the negative
  zero. Any other number is the double nearest to its leading digits, as many as fit 64 bits, moved
  by a power of ten in at most three rounded steps.
* Escapes of units outside the surrogate range give their character, a high surrogate has to be
  followed by a low one, and a byte that belongs to no character is refused.
-/

import Statechart.Json.Tree
import Statechart.Json.Value

namespace Statechart.Json

open Decimal Text

/-- Lists and records may be nested this deep in a text, and no deeper. -/
def nestingLimit : Nat := 127

/-! ### Numbers -/

namespace Literal

/-- The largest number that fits 64 bits. -/
def wordMax : Nat := Nat.pow 2 64 - 1

/-- Appends digits to a number while it fits 64 bits; the number of digits left over. -/
def accumulate (number : Nat) : List Nat → Nat × Nat
  | [] => (number, 0)
  | digit :: rest =>
    if number * 10 + digit ≤ wordMax then accumulate (number * 10 + digit) rest
    else (number, rest.length + 1)

/-- The number that digits give. -/
def natural (digits : List Nat) : Nat := digits.foldl (fun number digit => number * 10 + digit) 0

/-- The double for `10 ^ power`. -/
def tenTo (power : Nat) : Binary64 := Binary64.ofNat (Nat.pow 10 power)

/-- A number below `2 ^ 64` moved by a power of ten; nothing if that is beyond the largest double.
A third division by `10 ^ 308` leaves zero whatever the number was. -/
def scaled? (number : Nat) (exponent : Int) : Option Binary64 :=
  let start := Binary64.ofNat number
  let power := exponent.natAbs
  if 0 ≤ exponent then
    if power ≤ 308 then
      let product := start.mul (tenTo power)
      if product.isFinite then some product else none
    else if number = 0 then some start
    else none
  else if power ≤ 308 then some (start.div (tenTo power))
  else if power ≤ 616 then some ((start.div (tenTo 308)).div (tenTo (power - 308)))
  else some (Binary64.zero false)

/-- The largest exponent that is computed with. -/
def exponentMax : Nat := Nat.pow 2 31 - 1

/-- The double that the digits of a number give. -/
def float? (literal : Literal) : Option Binary64 :=
  let (number, leftWhole) := accumulate 0 literal.whole
  let (number, leftFraction) := accumulate number literal.fraction
  let start : Int := leftWhole - (literal.fraction.length - leftFraction : Nat)
  let magnitude? : Option Binary64 :=
    match literal.exponent with
    | none => scaled? number start
    | some (down, digits) =>
      let exponent := natural digits
      if exponent ≤ exponentMax then
        scaled? number (if down then start - exponent else start + exponent)
      else if number = 0 ∨ down then some (Binary64.zero false)
      else none
  magnitude?.map fun magnitude => if literal.negative then magnitude.neg else magnitude

/-- The number that a written form gives; nothing if it is out of range. -/
def number? (literal : Literal) : Option Number :=
  let whole := natural literal.whole
  let plain := literal.fraction.isEmpty && literal.exponent.isNone
  if plain && !literal.negative && whole ≤ wordMax then some (.integer whole)
  else if plain && literal.negative && whole ≠ 0 && whole ≤ Nat.pow 2 63 then
    some (.integer (-whole))
  else literal.float?.map .float

end Literal

/-! ### Texts -/

/-- The characters that pieces give; nothing if they give none. -/
def characters? : List Piece → Option (List Char)
  | [] => some []
  | .char value :: rest => (characters? rest).map (value :: ·)
  | .stray _ :: _ => none
  | .unit high :: .unit low :: rest =>
    if 0xD800 ≤ high ∧ high < 0xDC00 then
      if 0xDC00 ≤ low ∧ low < 0xE000 then
        (characters? rest).map (Char.ofNat (0x10000 + (high - 0xD800) * 1024 + (low - 0xDC00)) :: ·)
      else none
    else if 0xDC00 ≤ high ∧ high < 0xE000 then none
    else (characters? (.unit low :: rest)).map (Char.ofNat high :: ·)
  | .unit code :: rest =>
    if 0xD800 ≤ code ∧ code < 0xE000 then none else (characters? rest).map (Char.ofNat code :: ·)

/-- The text that pieces give. -/
def string? (pieces : List Piece) : Option String := (characters? pieces).map String.ofList

/-! ### Values -/

namespace Tree

mutual

/-- The value of a tree that nests no deeper than so many levels. The last field of a name wins. -/
def toValue? (levels : Nat) : Tree → Option Value
  | .null => some .null
  | .bool value => some (.bool value)
  | .number literal => literal.number?.map .number
  | .string pieces => (string? pieces).map .string
  | .list items =>
    match levels with
    | 0 => none
    | levels + 1 => (toItems? levels items).map .list
  | .record members =>
    match levels with
    | 0 => none
    | levels + 1 => (toFields? levels members).map fun fields => .ofDict (Dict.ofList fields)

/-- The values of several trees. -/
def toItems? (levels : Nat) : List Tree → Option (List Value)
  | [] => some []
  | item :: items => do
    let value ← toValue? levels item
    let values ← toItems? levels items
    return value :: values

/-- The fields that members give, in order and with repetitions. -/
def toFields? (levels : Nat) : List (List Piece × Tree) → Option (List (String × Value))
  | [] => some []
  | (pieces, member) :: members => do
    let name ← string? pieces
    let value ← toValue? levels member
    let fields ← toFields? levels members
    return (name, value) :: fields

end

end Tree

/-- The value of a text that nests no deeper than so many levels. -/
def Value.parseWithin? (levels : Nat) (text : String) : Option Value := do
  let tree ← Tree.ofSymbols? (characters text.toList)
  tree.toValue? levels

/-- The value of a text. -/
def Value.parse? (text : String) : Option Value := Value.parseWithin? nestingLimit text

end Statechart.Json
