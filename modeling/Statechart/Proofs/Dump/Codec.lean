/-
**Decoding what was encoded.**

Encoding a machine and decoding the bytes may fail, for data nest too deep or numbers do not fit.
If it does not fail, it gives the machine again, save that numbers with a point among its data may
have changed.

* `Machine.of_decode?_encode`: what is decoded comes of the dump with its data read again.
* `Machine.key?_of_decode?_encode`: a decoded machine has the key of the encoded one.
* `Machine.Placed.eq_of_decode?_encode`: a decoded machine is the encoded one but for its data, if
  it has a built chart and is nowhere or in one of the states.
-/

import Statechart.Proofs.Chart.Built
import Statechart.Proofs.Dump.Reading
import Statechart.Proofs.Text.Symbols
import Statechart.Dump.Codec
import Statechart.Store.Key

namespace Statechart

open Json Text

/-! ### Frames -/

/-- A text that starts with a brace is no frame. -/
theorem Frame.isFrame_brace (chars : List Char) :
    isFrame (utf8 (String.ofList ('{' :: chars))) = false := by
  rw [utf8_ofList]
  rfl

theorem Frame.length_bigEndian (count value : Nat) : (bigEndian count value).length = count := by
  induction count generalizing value with
  | zero => rfl
  | succ count ih => rw [bigEndian, List.length_append, ih, List.length_singleton]

theorem Frame.isFrame_encode (payload : Bytes) : isFrame (encode payload) = true := rfl

/-- The payload stands behind the header of its frame. -/
theorem Frame.drop_encode (payload : Bytes) : (encode payload).drop frameHeaderSize = payload := by
  unfold encode
  refine List.drop_left' ?_
  simp only [List.length_append, length_bigEndian]
  rfl

/-- What is read of the frame of a payload is the payload. -/
theorem Frame.eq_of_decode?_encode {payload found : Bytes}
    (decoded : decode? (encode payload) = .ok found) : found = payload := by
  unfold decode? at decoded
  dsimp only at decoded
  rw [drop_encode] at decoded
  split at decoded
  · cases decoded
  split at decoded
  · cases decoded
  split at decoded
  · cases decoded
  split at decoded
  · cases decoded
  · exact (Except.ok.inj decoded).symm

/-! ### Machines of dumps -/

/-- What a dump of the machine that it gives says. -/
theorem Dump.of_toMachine? {dump : Dump} {found : Machine} (given : dump.toMachine? = .ok found) :
    Chart.ofStates? dump.states = .ok found.chart ∧
      position? found.chart dump.current = .ok found.current ∧ found.name = dump.name ∧
      found.history = dump.history ∧ found.datamodel = dump.datamodel := by
  unfold toMachine? at given
  cases built : Chart.ofStates? dump.states with
  | error fault => rw [built] at given; cases given
  | ok chart =>
    rw [built] at given
    dsimp only at given
    split at given
    · cases given
    split at given
    · cases given
    split at given
    · cases given
    split at given
    · cases given
    cases current : position? chart dump.current with
    | error fault => rw [current] at given; cases given
    | ok position =>
      rw [current] at given
      cases given
      exact ⟨rfl, current, rfl, rfl, rfl⟩

namespace Machine

/-- A machine with a built chart that is nowhere or in one of the states. -/
structure Placed (machine : Machine) : Prop where
  built : machine.chart.Built
  inside : ∀ position, machine.current = some position → position < machine.chart.states.length

variable {machine : Machine}

theorem Placed.currentPlace? (placed : machine.Placed) {position : Nat}
    (here : machine.current = some position) :
    ∃ place, machine.currentPlace? = some place ∧ place.position = position ∧
      machine.chart.place? position = some place := by
  have inside := placed.inside position here
  refine ⟨⟨position, machine.chart.states[position]⟩, ?_, rfl, ?_⟩
  · unfold Machine.currentPlace? Chart.place?
    rw [here]
    simp [inside]
  · unfold Chart.place?
    rw [List.getElem?_eq_getElem inside]
    rfl

/-- The name of the current state is looked up as the current position. -/
theorem Placed.position?_eq (placed : machine.Placed) :
    Dump.position? machine.chart (machine.currentState?.map State.name) = .ok machine.current := by
  unfold currentState?
  cases here : machine.current with
  | none =>
    have nowhere : machine.currentPlace? = none := by
      unfold Machine.currentPlace?
      rw [here]
      rfl
    rw [nowhere]
    rfl
  | some position =>
    obtain ⟨place, found, same, stands⟩ := placed.currentPlace? here
    have state : machine.chart.states[position]? = some place.state := by
      obtain ⟨state, stands', rfl⟩ := Option.map_eq_some_iff.1 stands
      exact stands'
    rw [found, Option.map_some, Option.map_some]
    unfold Dump.position?
    dsimp only
    rw [placed.built.index_get? state]

/-- What a dump gives has a built chart and is nowhere or in one of the states. -/
theorem placed_of_toMachine? {dump : Dump} (given : dump.toMachine? = .ok machine) :
    machine.Placed := by
  obtain ⟨built, current, -⟩ := Dump.of_toMachine? given
  have itself := Chart.built_of_ofStates? built
  refine ⟨itself, fun position here => ?_⟩
  unfold Dump.position? at current
  split at current
  · cases (Except.ok.inj current).trans here
  · split at current
    · next found =>
      cases (Except.ok.inj current).trans here
      exact itself.lt_of_index_get? found
    · cases current

/-! ### Machines of bytes -/

/-- **What is decoded has a built chart and is nowhere or in one of the states.** -/
theorem placed_of_decode? {bytes : Bytes} (decoded : decode? bytes = .ok machine) :
    machine.Placed := by
  have of_payload : ∀ {payload : Bytes}, ofPayload? payload = .ok machine → machine.Placed := by
    intro payload given
    unfold ofPayload? at given
    split at given
    · cases given
    · exact placed_of_toMachine? given
  unfold decode? at decoded
  split at decoded
  · exact of_payload decoded
  · cases framed : Frame.decode? bytes with
    | error fault => rw [framed] at decoded; cases decoded
    | ok payload =>
      rw [framed] at decoded
      exact of_payload decoded

/-- What is decoded is the machine of the dump that stands in the payload. -/
theorem ofPayload?_of_decode?_encode {format : DumpFormat} {found : Machine}
    (decoded : decode? (machine.encode format) = .ok found) :
    ofPayload? (utf8 machine.text) = .ok found := by
  unfold decode? encode DumpFormat.detect at decoded
  cases format with
  | json =>
    have bare : Frame.isFrame (utf8 machine.text) = false := Frame.isFrame_brace _
    dsimp only at decoded
    rw [bare, if_neg Bool.false_ne_true] at decoded
    exact decoded
  | binary =>
    dsimp only at decoded
    rw [Frame.isFrame_encode, if_pos rfl] at decoded
    dsimp only at decoded
    cases payload : Frame.decode? (Frame.encode (utf8 machine.text)) with
    | error fault => rw [payload] at decoded; cases decoded
    | ok bytes =>
      rw [payload] at decoded
      change ofPayload? bytes = .ok found at decoded
      rwa [Frame.eq_of_decode?_encode payload] at decoded

/-- **What is decoded is the machine of the encoded dump with its data read again.** -/
theorem of_decode?_encode {format : DumpFormat} {found : Machine}
    (decoded : decode? (machine.encode format) = .ok found) :
    ∃ datamodel, Dump.reread? machine.datamodel = some datamodel ∧
      ({ Dump.ofMachine machine with datamodel } : Dump).toMachine? = .ok found := by
  have payload := ofPayload?_of_decode?_encode decoded
  have read : Dump.ofBytes? (utf8 machine.text) =
      Dump.ofTree? (Dump.ofMachine machine).toValue.tree := by
    unfold Dump.ofBytes? text
    rw [symbols_utf8, ofSymbols?_render (spells _)]
    rfl
  unfold ofPayload? at payload
  rw [read, Dump.ofTree?_tree] at payload
  split at payload
  · next unread => cases payload
  · next dump whole =>
    split at whole
    · obtain ⟨datamodel, again, rfl⟩ := Option.map_eq_some_iff.1 whole
      exact ⟨datamodel, again, payload⟩
    · cases whole

/-- **A decoded machine has the key of the encoded one.** -/
theorem key?_of_decode?_encode {format : DumpFormat} {found : Machine}
    (decoded : decode? (machine.encode format) = .ok found) : found.key? = machine.key? := by
  obtain ⟨datamodel, again, given⟩ := of_decode?_encode decoded
  obtain ⟨-, -, name, -, data⟩ := Dump.of_toMachine? given
  have owner : found.owner? = machine.owner? := by
    unfold owner?
    rw [data]
    exact Dump.owner?_of_reread? again
  unfold key?
  rw [owner, name]
  rfl

/-- **A decoded machine is the encoded one but for its data.** -/
theorem Placed.eq_of_decode?_encode (placed : machine.Placed) {format : DumpFormat}
    {found : Machine} (decoded : decode? (machine.encode format) = .ok found) :
    found = { machine with datamodel := found.datamodel } := by
  obtain ⟨datamodel, -, given⟩ := of_decode?_encode decoded
  obtain ⟨built, current, name, history, -⟩ := Dump.of_toMachine? given
  have chart : machine.chart = found.chart := Except.ok.inj (placed.built.symm.trans built)
  rw [← chart] at current
  have position := Except.ok.inj (placed.position?_eq.symm.trans current)
  obtain ⟨chart', name', current', history', datamodel'⟩ := found
  cases chart
  cases position
  cases name
  cases history
  rfl

end Machine

end Statechart
