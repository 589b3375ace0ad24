/-
**Bytes as hexadecimal text.**

Two lower-case digits are written for each byte; reading takes digits of either case.
-/

import Statechart.Text.Utf8

namespace Statechart.Text

/-- The lower-case hexadecimal digit of a value below sixteen. -/
def hexDigit (value : Nat) : Char := Nat.digitChar value

/-- The value of a hexadecimal digit of either case. -/
def hexValue? (digit : Char) : Option Nat :=
  if '0' ≤ digit ∧ digit ≤ '9' then some (digit.toNat - '0'.toNat)
  else if 'a' ≤ digit ∧ digit ≤ 'f' then some (digit.toNat - 'a'.toNat + 10)
  else if 'A' ≤ digit ∧ digit ≤ 'F' then some (digit.toNat - 'A'.toNat + 10)
  else none

/-- The hexadecimal digits of bytes. -/
def hexChars (bytes : Bytes) : List Char :=
  bytes.flatMap fun byte => [hexDigit (byte.toNat / 16), hexDigit (byte.toNat % 16)]

/-- The hexadecimal text of bytes. -/
def hex (bytes : Bytes) : String := String.ofList (hexChars bytes)

/-- The bytes of hexadecimal digits, two for each byte. -/
def ofHexChars? : List Char → Option Bytes
  | [] => some []
  | [_] => none
  | high :: low :: rest => do
    let high ← hexValue? high
    let low ← hexValue? low
    let bytes ← ofHexChars? rest
    return UInt8.ofNat (high * 16 + low) :: bytes

/-- The bytes of a hexadecimal text. -/
def ofHex? (text : String) : Option Bytes := ofHexChars? text.toList

end Statechart.Text
