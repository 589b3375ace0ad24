/-
**Frames add nothing to dumps.**

A frame is a mark, three numbers and a payload, and each payload has one frame. What is decoded of a
frame is what its payload alone gives, and a payload that is itself a frame gives nothing: no data
text starts with a capital. Reading takes the parts of the header one by one, and each of them is
there once the bytes are as long as a header.

* `Frame.read?_eq`: the parts of a frame are read within its bytes.
* `Frame.Wraps`: bytes are the frame of a payload, part by part.
* `Frame.wraps_iff`, `Frame.encode?_eq_ok_iff`: they are so exactly as it is written.
* `Machine.decode?_transparent`: what bytes of any kind give.
-/

import Statechart.Proofs.Dump.Damage

namespace Statechart

open Json Text

namespace Frame

/-! ### Reading part by part -/

/-- The next so many bytes and those behind them, if there are so many. -/
def part? (count : Nat) (bytes : Bytes) : Option (Bytes × Bytes) :=
  if count ≤ bytes.length then some (bytes.splitAt count) else none

/-- The payload of bytes that start as a frame does, with the header taken part by part: none if a
part would reach beyond the last byte. -/
def read? (bytes : Bytes) : Option (Except DumpFault Bytes) :=
  if bytes.length < frameHeaderSize then some (.error (.truncated bytes.length))
  else do
    let (_, behind) ← part? 4 bytes
    let (current, behind) ← part? 2 behind
    if ofBigEndian current ≠ version then
      return .error (.version (ofBigEndian current))
    else
      let (announced, behind) ← part? 4 behind
      let (check, payload) ← part? 4 behind
      let expected := UInt32.ofNat (ofBigEndian check)
      if ofBigEndian announced ≠ payload.length then
        return .error (.payloadLength (ofBigEndian announced) payload.length)
      else if Digest.crc32c payload ≠ expected then
        return .error (.checksum expected (Digest.crc32c payload))
      else return .ok payload

/-- A part that ends within the bytes is there. -/
theorem part?_drop {bytes : Bytes} {start count : Nat} (inside : start + count ≤ bytes.length) :
    part? count (bytes.drop start) =
      some ((bytes.drop start).take count, bytes.drop (start + count)) := by
  have room : count ≤ (bytes.drop start).length := by
    rw [List.length_drop]
    omega
  rw [part?, if_pos room, List.splitAt_eq, List.drop_drop]

/-- **No part is read beyond the last byte**, and what is read is the payload. -/
theorem read?_eq (bytes : Bytes) : read? bytes = some (decode? bytes) := by
  unfold read? decode?
  dsimp only
  by_cases short : bytes.length < frameHeaderSize
  · rw [if_pos short, if_pos short]
  have long : 14 ≤ bytes.length := Nat.not_lt.1 short
  have mark : part? 4 bytes = some (bytes.take 4, bytes.drop 4) := by
    rw [part?, if_pos (by omega), List.splitAt_eq]
  have current : part? 2 (bytes.drop 4) = some ((bytes.drop 4).take 2, bytes.drop 6) :=
    part?_drop (by omega)
  have announced : part? 4 (bytes.drop 6) = some ((bytes.drop 6).take 4, bytes.drop 10) :=
    part?_drop (by omega)
  have check : part? 4 (bytes.drop 10) =
      some ((bytes.drop 10).take 4, bytes.drop frameHeaderSize) :=
    part?_drop (by omega)
  rw [if_neg short, if_neg short]
  simp only [mark, current, announced, check, Option.bind_eq_bind, Option.bind_some]
  rw [apply_ite some, apply_ite some, apply_ite some]
  rfl

/-! ### Frames of payloads -/

/-- **Bytes are the frame of a payload**: the mark, the version in two bytes, the length and the
check of the payload in four bytes each, and the payload. -/
inductive Wraps (payload : Bytes) : Bytes → Prop
  | parts (current announced check : Bytes) (two : current.length = 2)
      (four : announced.length = 4) (four' : check.length = 4) (first : ofBigEndian current = 1)
      (size : ofBigEndian announced = payload.length)
      (sum : ofBigEndian check = (Digest.crc32c payload).toNat) :
      Wraps payload (utf8 "RCHT" ++ current ++ announced ++ check ++ payload)

theorem utf8_mark : utf8 "RCHT" = magic := by decide +kernel

/-- **Bytes are the frame of a payload exactly as it is written**, if a header can tell its
length. -/
theorem wraps_iff {payload bytes : Bytes} :
    Wraps payload bytes ↔ bytes = encode payload ∧ payload.length < Nat.pow 2 32 := by
  constructor
  · rintro ⟨current, announced, check, two, four, four', first, size, sum⟩
    have small := ofBigEndian_lt announced
    rw [four, size] at small
    refine ⟨?_, small⟩
    have version := bigEndian_ofBigEndian current
    have length := bigEndian_ofBigEndian announced
    have checked := bigEndian_ofBigEndian check
    rw [two, first] at version
    rw [four, size] at length
    rw [four', sum] at checked
    rw [utf8_mark, ← version, ← length, ← checked]
    rfl
  · rintro ⟨rfl, small⟩
    have again {count number : Nat} (fits : number < Nat.pow 256 count) :
        ofBigEndian (bigEndian count number) = number :=
      (ofBigEndian_bigEndian count number).trans (Nat.mod_eq_of_lt fits)
    unfold encode
    rw [← utf8_mark]
    exact .parts _ _ _ (length_bigEndian _ _) (length_bigEndian _ _) (length_bigEndian _ _)
      (again (by decide)) (again small) (again (Digest.crc32c payload).toNat_lt)

theorem isFrame_iff {bytes : Bytes} : isFrame bytes ↔ utf8 "RCHT" <+: bytes := by
  rw [utf8_mark]
  exact List.isPrefixOf_iff_prefix

/-- What is read of bytes that start as a frame does is what they wrap. -/
theorem isFrame_and_decode?_iff {payload bytes : Bytes} :
    isFrame bytes ∧ decode? bytes = .ok payload ↔ Wraps payload bytes := by
  rw [wraps_iff]
  constructor
  · rintro ⟨framed, read⟩
    exact (decode?_eq_ok_iff framed).1 read
  · rintro ⟨rfl, small⟩
    exact ⟨isFrame_encode payload, (decode?_eq_ok_iff (isFrame_encode payload)).2 ⟨rfl, small⟩⟩

/-- Bytes are the frame of one payload. -/
theorem Wraps.unique {payload payload' bytes : Bytes} (wraps : Wraps payload bytes)
    (wraps' : Wraps payload' bytes) : payload = payload' :=
  Except.ok.inj ((isFrame_and_decode?_iff.2 wraps).2.symm.trans (isFrame_and_decode?_iff.2 wraps').2)

/-- **What is written for a payload are the bytes that wrap it**, up to the size limit. -/
theorem encode?_eq_ok_iff {payload bytes : Bytes} :
    encode? payload = .ok bytes ↔ Wraps payload bytes ∧ payload.length ≤ maxPayloadSize := by
  have limit : maxPayloadSize < Nat.pow 2 32 := by decide
  unfold encode?
  rw [wraps_iff]
  split
  · next large => exact ⟨nofun, fun found => absurd found.2 (Nat.not_le.2 large)⟩
  · next fits =>
    have small := Nat.not_lt.1 fits
    rw [Except.ok.injEq, eq_comm]
    exact ⟨fun same => ⟨⟨same, Nat.lt_of_le_of_lt small limit⟩, small⟩, fun found => found.1.1⟩

end Frame

namespace Machine

/-! ### Machines of bytes -/

/-- The machine whose dump is given in either form, with the header of a frame taken part by part:
none if a part would reach beyond the last byte. -/
def read? (bytes : Bytes) : Option (Except DumpFault Machine) :=
  match DumpFormat.detect bytes with
  | .json => some (ofPayload? bytes)
  | .binary => (Frame.read? bytes).map (· >>= ofPayload?)

theorem read?_eq (bytes : Bytes) : read? bytes = some (decode? bytes) := by
  unfold read? decode?
  rw [Frame.read?_eq]
  cases DumpFormat.detect bytes <;> rfl

/-- Bytes that start as a frame does are no bare dump. -/
theorem ofPayload?_of_isFrame {bytes : Bytes} (framed : Frame.isFrame bytes) :
    ofPayload? bytes = .error .unreadable := by
  obtain ⟨rest, rfl⟩ := List.isPrefixOf_iff_prefix.1 framed
  have capital : Dump.ofBytes? (Frame.magic ++ rest) = none :=
    Dump.ofBytes?_eq_none (.inr (.inl ⟨_, rfl⟩))
  unfold ofPayload?
  rw [capital]

/-- The machines of bare payloads. -/
theorem ofPayload?_eq_ok_iff {payload : Bytes} {machine : Machine} :
    ofPayload? payload = .ok machine ↔
      DumpFormat.detect payload = .json ∧ decode? payload = .ok machine := by
  unfold decode? DumpFormat.detect
  by_cases framed : Frame.isFrame payload
  · rw [if_pos framed, ofPayload?_of_isFrame framed]
    exact ⟨nofun, nofun⟩
  · rw [if_neg framed]
    exact ⟨fun given => ⟨rfl, given⟩, And.right⟩

/-- What a frame gives is what its payload gives. -/
theorem isFrame_and_decode?_eq_ok_iff {bytes : Bytes} {machine : Machine} :
    Frame.isFrame bytes ∧ decode? bytes = .ok machine ↔
      ∃ payload, Frame.Wraps payload bytes ∧ ofPayload? payload = .ok machine := by
  constructor
  · rintro ⟨framed, decoded⟩
    unfold decode? DumpFormat.detect at decoded
    rw [if_pos framed] at decoded
    cases read : Frame.decode? bytes with
    | error fault => rw [read] at decoded; cases decoded
    | ok payload =>
      rw [read] at decoded
      exact ⟨payload, Frame.isFrame_and_decode?_iff.1 ⟨framed, read⟩, decoded⟩
  · rintro ⟨payload, wraps, given⟩
    obtain ⟨framed, read⟩ := Frame.isFrame_and_decode?_iff.2 wraps
    refine ⟨framed, ?_⟩
    unfold decode? DumpFormat.detect
    rw [if_pos framed]
    dsimp only
    rw [read]
    exact given

/-- **A frame is transparent.** Bytes of any kind are read within their bounds, and give a machine or
are said to be no valid model. Bytes that start with the mark of frames give a machine exactly if
they are the mark, the version, the length and the check of a payload and the payload, and if the
payload is a bare dump; they give the machine of that dump. And they are what is written for that
payload, which is written as long as it is not too large. -/
theorem decode?_transparent {σ : Type} (runner : Runner σ) (bytes : Bytes) :
    read? bytes = some (decode? bytes) ∧
      ((∃ machine, decode? bytes = .ok machine) ∨
        ∃ fault, decode? bytes = .error fault ∧
          (runner.loadDump bytes).1 = .error (.invalidModel fault)) ∧
      (∀ machine, utf8 "RCHT" <+: bytes ∧ decode? bytes = .ok machine ↔
        ∃! payload, Frame.Wraps payload bytes ∧ DumpFormat.detect payload = .json ∧
          decode? payload = .ok machine) ∧
      ∀ payload, Frame.encode? payload = .ok bytes ↔
        Frame.Wraps payload bytes ∧ payload.length ≤ maxPayloadSize := by
  refine ⟨read?_eq bytes, ?_, fun machine => ?_, fun payload => Frame.encode?_eq_ok_iff⟩
  · cases decoded : decode? bytes with
    | ok machine => exact .inl ⟨machine, rfl⟩
    | error fault =>
      refine .inr ⟨fault, rfl, ?_⟩
      unfold Runner.loadDump
      rw [decoded]
  · rw [← Frame.isFrame_iff, isFrame_and_decode?_eq_ok_iff]
    simp only [ofPayload?_eq_ok_iff]
    constructor
    · rintro ⟨payload, wraps, given⟩
      exact ⟨payload, ⟨wraps, given⟩, fun payload' found => found.1.unique wraps⟩
    · rintro ⟨payload, found, -⟩
      exact ⟨payload, found⟩

end Machine

end Statechart
