/-
**The written form of data values.**

Values are written without spaces, the fields of a record in the order they are kept in. A text
stands between quotes, with an escape for the quote, the backslash and the control characters.
-/

import Statechart.Json.Value
import Statechart.Decimal.Layout
import Statechart.Text.Hex

namespace Statechart.Json

open Decimal Text

/-- The text of a number. -/
def Number.toText : Number → String
  | .integer value => toString value
  | .float value => numberText value

/-- The four hexadecimal digits of a number below `2 ^ 16`. -/
def fourDigits (code : Nat) : List Char :=
  [hexDigit (code / 4096 % 16), hexDigit (code / 256 % 16), hexDigit (code / 16 % 16),
   hexDigit (code % 16)]

/-- The escape of a sixteen-bit unit. -/
def unitEscape (code : Nat) : List Char := '\\' :: 'u' :: fourDigits code

/-- A character as it is written inside quotes. -/
def escape (char : Char) : List Char :=
  if char = '"' then ['\\', '"']
  else if char = '\\' then ['\\', '\\']
  else if char = '\n' then ['\\', 'n']
  else if char = '\r' then ['\\', 'r']
  else if char = '\t' then ['\\', 't']
  else if char.toNat = 8 then ['\\', 'b']
  else if char.toNat = 12 then ['\\', 'f']
  else if char.toNat < 32 then unitEscape char.toNat
  else [char]

/-- A character as it is written inside quotes where only seven-bit characters may stand. -/
def escapeAscii (char : Char) : List Char :=
  if char.toNat < 127 then escape char
  else if char.toNat < 0x10000 then unitEscape char.toNat
  else
    let offset := char.toNat - 0x10000
    unitEscape (0xD800 + offset / 1024) ++ unitEscape (0xDC00 + offset % 1024)

/-- A text between quotes. -/
def quote (escape : Char → List Char) (text : String) : List Char :=
  '"' :: (text.toList.flatMap escape ++ ['"'])

namespace Value

mutual

/-- The characters of a value. -/
def chars (escape : Char → List Char) : Value → List Char
  | .null => "null".toList
  | .bool value => if value then "true".toList else "false".toList
  | .number value => value.toText.toList
  | .string value => quote escape value
  | .list items => '[' :: (charsItems escape items ++ [']'])
  | .record fields => '{' :: (charsFields escape fields ++ ['}'])

/-- The characters of several values, with commas between them. -/
def charsItems (escape : Char → List Char) : List Value → List Char
  | [] => []
  | [item] => chars escape item
  | item :: items => chars escape item ++ ',' :: charsItems escape items

/-- The characters of several fields, with commas between them. -/
def charsFields (escape : Char → List Char) : List (String × Value) → List Char
  | [] => []
  | [(name, value)] => quote escape name ++ ':' :: chars escape value
  | (name, value) :: fields =>
    quote escape name ++ ':' :: (chars escape value ++ ',' :: charsFields escape fields)

end

/-- The text of a value. -/
def render (value : Value) : String := String.ofList (value.chars escape)

/-- The text of a value in seven-bit characters. -/
def renderAscii (value : Value) : String := String.ofList (value.chars escapeAscii)

end Value

end Statechart.Json
