/-
**Machines as bytes.**

A dump is written as a data text, bare or in a frame. Which of the two it is shows in its first
bytes, so reading needs no format.
-/

import Statechart.Dump.Reading
import Statechart.Dump.Frame

namespace Statechart

open Json Text

/-- The forms in which a dump is written. -/
inductive DumpFormat
  /-- The data text of the dump. -/
  | json
  /-- The data text in a frame. -/
  | binary
  deriving DecidableEq, Repr, Inhabited

/-- The form in which bytes were written. -/
def DumpFormat.detect (bytes : Bytes) : DumpFormat := if Frame.isFrame bytes then .binary else .json

namespace Machine

/-- The data text of a machine's dump. -/
def text (machine : Machine) : String := (Dump.ofMachine machine).toValue.render

/-- The bytes of a machine's dump. -/
def encode (machine : Machine) : DumpFormat → Bytes
  | .json => utf8 machine.text
  | .binary => Frame.encode (utf8 machine.text)

/-- The machine whose dump is a bare payload. -/
def ofPayload? (payload : Bytes) : Except DumpFault Machine :=
  match Dump.ofBytes? payload with
  | none => .error .unreadable
  | some dump => dump.toMachine?

/-- The machine whose dump is given in either form. -/
def decode? (bytes : Bytes) : Except DumpFault Machine :=
  match DumpFormat.detect bytes with
  | .json => ofPayload? bytes
  | .binary => Frame.decode? bytes >>= ofPayload?

end Machine

end Statechart
