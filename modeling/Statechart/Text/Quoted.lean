/-
**Texts quoted for a reader.**

A message that shows a text of unknown content puts it between quotes, and writes what a reader
could not see or tell apart as an escape.
-/

import Statechart.Text.Shapeless
import Statechart.Text.Hex

namespace Statechart.Text

/-- The hexadecimal digits of a code point, without leading zeros. -/
def codeDigits (code : Nat) : List Char := Nat.toDigits 16 code

/-- A character as it is shown between quotes. -/
def shown (char : Char) : List Char :=
  if char = '"' then ['\\', '"']
  else if char = '\\' then ['\\', '\\']
  else if char.toNat = 0 then ['\\', '0']
  else if char = '\t' then ['\\', 't']
  else if char = '\n' then ['\\', 'n']
  else if char = '\r' then ['\\', 'r']
  else if isShapeless char then '\\' :: 'u' :: '\x7b' :: (codeDigits char.toNat ++ ['\x7d'])
  else [char]

/-- A text between quotes. -/
def quoted (text : String) : String :=
  String.ofList ('"' :: (text.toList.flatMap shown ++ ['"']))

/-- Several texts between quotes, in brackets. -/
def quotedList (texts : List String) : String :=
  "[" ++ String.intercalate ", " (texts.map quoted) ++ "]"

/-- A text between quotes that may be missing. -/
def quotedOption : Option String → String
  | none => "None"
  | some text => "Some(" ++ quoted text ++ ")"

end Statechart.Text
