/-
**The cyclic redundancy check CRC-32C.**

The remainder of the message, as a polynomial over two elements, by the Castagnoli polynomial. Bits
are taken lowest first; the remainder starts with all bits set and is inverted at the end.
-/

import Statechart.Text.Utf8

namespace Statechart.Digest

/-- The Castagnoli polynomial without its leading term, lowest power in the highest bit. -/
def castagnoli : UInt32 := 0x82F63B78

/-- One division step: the remainder times the indeterminate. -/
def crcShift (remainder : UInt32) : UInt32 :=
  if remainder &&& 1 = 1 then (remainder >>> 1) ^^^ castagnoli else remainder >>> 1

/-- So many division steps. -/
def crcShifts : Nat → UInt32 → UInt32
  | 0, remainder => remainder
  | steps + 1, remainder => crcShifts steps (crcShift remainder)

/-- The remainder after one more byte. -/
def crcByte (remainder : UInt32) (byte : UInt8) : UInt32 :=
  crcShifts 8 (remainder ^^^ byte.toUInt32)

/-- The remainder after more bytes. -/
def crcBytes (remainder : UInt32) (bytes : Bytes) : UInt32 := bytes.foldl crcByte remainder

/-- The check of a message. -/
def crc32c (bytes : Bytes) : UInt32 := crcBytes 0xFFFFFFFF bytes ^^^ 0xFFFFFFFF

end Statechart.Digest
