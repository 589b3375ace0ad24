/-
**Frames.**

A frame is a payload behind a header of fourteen bytes: four that mark it as a frame, the version
in two, and the length and the check of the payload in four each. The highest byte of a number comes
first.
-/

import Statechart.Digest.Crc32c
import Statechart.Error

namespace Statechart.Frame

open Digest

/-- The bytes at the start of every frame. -/
def magic : Bytes := [0x52, 0x43, 0x48, 0x54]

/-- The version of frames. -/
def version : Nat := 1

/-- A number in so many bytes, the highest first. -/
def bigEndian : Nat → Nat → Bytes
  | 0, _ => []
  | count + 1, value => bigEndian count (value / 256) ++ [UInt8.ofNat value]

/-- The number that bytes give, the highest first. -/
def ofBigEndian (bytes : Bytes) : Nat := bytes.foldl (fun value byte => value * 256 + byte.toNat) 0

/-- The frame of a payload. -/
def encode (payload : Bytes) : Bytes :=
  magic ++ bigEndian 2 version ++ bigEndian 4 payload.length ++
    bigEndian 4 (crc32c payload).toNat ++
    payload

/-- The frame of a payload, unless the payload is too large to be framed. -/
def encode? (payload : Bytes) : Except DumpFault Bytes :=
  if maxPayloadSize < payload.length then .error (.tooLarge payload.length)
  else .ok (encode payload)

/-- Whether bytes start as a frame does. -/
def isFrame (bytes : Bytes) : Bool := magic.isPrefixOf bytes

/-- The number in so many bytes behind so many others. -/
def numberAt (bytes : Bytes) (start count : Nat) : Nat :=
  ofBigEndian ((bytes.drop start).take count)

/-- The payload of bytes that start as a frame does. -/
def decode? (bytes : Bytes) : Except DumpFault Bytes :=
  let payload := bytes.drop frameHeaderSize
  let announced := numberAt bytes 6 4
  let expected := UInt32.ofNat (numberAt bytes 10 4)
  if bytes.length < frameHeaderSize then .error (.truncated bytes.length)
  else if numberAt bytes 4 2 ≠ version then .error (.version (numberAt bytes 4 2))
  else if announced ≠ payload.length then .error (.payloadLength announced payload.length)
  else if crc32c payload ≠ expected then .error (.checksum expected (crc32c payload))
  else .ok payload

end Statechart.Frame
