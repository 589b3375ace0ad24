/-
**Encoding loses nothing.**

A machine whose chart is built gives a dump that describes one chart throughout: the names and the
routes that follow from its states stand in their order, so the checks of `toMachine?` pass and give
the machine again. What can be lost is only in the data, and they come back if each of them is read
as it was printed.

* `Frame.decode?_encode_eq`: a payload whose length fits the header is read back from its frame.
* `Machine.Placed.toMachine?_ofMachine`: the dump of a machine gives the machine.
* `Machine.Placed.decode?_encode`: a machine is decoded as itself with its data read again.
* `Dump.reread?_eq_some`: data that are read as they were printed are read again as themselves.
* `Machine.Placed.exists_decode?_encode_iff`: when a dump is decoded at all.
-/

import Statechart.Proofs.Chart.Table
import Statechart.Proofs.Dump.Codec
import Statechart.Proofs.Json.Depth

namespace Statechart

open Json Text

/-! ### Frames -/

namespace Frame

/-- A number is read from as many bytes as it was written in, if it fits them. -/
theorem ofBigEndian_bigEndian (count value : Nat) :
    ofBigEndian (bigEndian count value) = value % Nat.pow 256 count := by
  induction count generalizing value with
  | zero => exact (Nat.mod_one value).symm
  | succ count ih =>
    have byte : (UInt8.ofNat value).toNat = value % 256 := UInt8.toNat_ofNat
    have written : ofBigEndian (bigEndian (count + 1) value) =
        ofBigEndian (bigEndian count (value / 256)) * 256 + (UInt8.ofNat value).toNat := by
      rw [bigEndian, ofBigEndian, List.foldl_append]
      rfl
    rw [written, ih, byte]
    show _ = value % 256 ^ (count + 1)
    rw [Nat.pow_succ', Nat.mod_mul, Nat.add_comm, Nat.mul_comm]
    rfl

/-- A number that stands behind some bytes is found there. -/
theorem numberAt_append (before after : Bytes) (count value : Nat) :
    numberAt (before ++ (bigEndian count value ++ after)) before.length count =
      value % Nat.pow 256 count := by
  unfold numberAt
  rw [List.drop_left, List.take_left' (length_bigEndian count value), ofBigEndian_bigEndian]

/-- **A payload is read back from its frame** if the header can tell its length, and else not. -/
theorem decode?_encode_eq (payload : Bytes) :
    decode? (encode payload) =
      if payload.length < Nat.pow 2 32 then .ok payload
      else .error (.payloadLength (payload.length % Nat.pow 2 32) payload.length) := by
  have version : numberAt (encode payload) 4 2 = Frame.version := by
    refine Eq.trans ?_ (numberAt_append magic (bigEndian 4 payload.length ++
      (bigEndian 4 (Digest.crc32c payload).toNat ++ payload)) 2 Frame.version)
    simp only [encode, List.append_assoc]
    rfl
  have announced : numberAt (encode payload) 6 4 = payload.length % Nat.pow 2 32 := by
    refine Eq.trans ?_ (numberAt_append (magic ++ bigEndian 2 Frame.version)
      (bigEndian 4 (Digest.crc32c payload).toNat ++ payload) 4 payload.length)
    simp only [encode, List.append_assoc]
    rfl
  have check : numberAt (encode payload) 10 4 = (Digest.crc32c payload).toNat := by
    refine Eq.trans ?_ ((numberAt_append (magic ++ bigEndian 2 Frame.version ++
      bigEndian 4 payload.length) payload 4 (Digest.crc32c payload).toNat).trans
      (Nat.mod_eq_of_lt (Digest.crc32c payload).toNat_lt))
    simp only [encode, List.append_assoc]
    simp only [List.length_append, length_bigEndian]
    rfl
  have long : ¬ (encode payload).length < frameHeaderSize := by
    simp only [encode, List.length_append, length_bigEndian]
    exact Nat.not_lt.2 (Nat.le_add_right _ _)
  unfold decode?
  dsimp only
  rw [drop_encode, if_neg long, if_neg (not_not_intro version), announced]
  by_cases small : payload.length < Nat.pow 2 32
  · rw [Nat.mod_eq_of_lt small, if_neg (not_not_intro rfl), check, UInt32.ofNat_toNat,
      if_neg (not_not_intro rfl), if_pos small]
  · have differ : payload.length % Nat.pow 2 32 ≠ payload.length := fun same =>
      small (same ▸ Nat.mod_lt _ (Nat.pow_pos (by decide)))
    rw [if_pos differ, if_neg small]

end Frame

/-! ### What follows from the states -/

theorem Dump.le_of_lt {first second : String} (below : first < second) : first ≤ second :=
  String.not_lt.1 fun above => String.lt_irrefl first (String.lt_trans below above)

namespace Chart.Built

variable {chart : Chart}

/-- Names ascend with positions. -/
theorem name_lt (built : chart.Built) {first second : Nat} {state state' : State}
    (below : first < second) (stands : chart.states[first]? = some state)
    (stands' : chart.states[second]? = some state') : state.name < state'.name := by
  obtain ⟨inside, rfl⟩ := List.getElem?_eq_some_iff.1 stands
  obtain ⟨inside', rfl⟩ := List.getElem?_eq_some_iff.1 stands'
  exact List.pairwise_iff_getElem.1 (List.pairwise_map.1 built.ascending) first second inside
    inside' below

/-- The names of the final states stand in their order. -/
theorem sortedNames_finals (built : chart.Built) :
    Dump.sortedNames (chart.finalStates.map State.name) = chart.finalStates.map State.name := by
  have positions : chart.finals.Pairwise (· < ·) := by
    rw [built.ofStates.finals]
    exact List.pairwise_lt_range.filter _
  refine List.mergeSort_of_pairwise ?_
  rw [List.pairwise_map]
  unfold finalStates
  rw [List.pairwise_filterMap]
  refine positions.imp fun {first second} below state stands state' stands' => ?_
  exact decide_eq_true (Dump.le_of_lt (built.name_lt below stands stands'))

/-- A route that stands in the table is one that it answers. -/
theorem lookup_of_mem {event : String} {routes : Routes} {source destination : Nat}
    (among : (event, routes) ∈ chart.table.entries)
    (leads : (source, destination) ∈ routes.entries) :
    chart.lookup event source = some destination := by
  have known : chart.table.get? event = some routes :=
    Entries.get?_of_mem chart.table.nodup_keys among
  unfold lookup
  rw [known]
  exact Entries.get?_of_mem routes.nodup_keys leads

theorem nameAt_lt (built : chart.Built) {first second : Nat} (below : first < second)
    (inside : second < chart.states.length) : chart.nameAt first < chart.nameAt second := by
  have stands := List.getElem?_eq_getElem (Nat.lt_trans below inside)
  have stands' := List.getElem?_eq_getElem inside
  unfold nameAt
  rw [stands, stands']
  exact built.name_lt below stands stands'

/-- The routes of a chart stand in their order. -/
theorem sortedTriples_triples (built : chart.Built) :
    Dump.sortedTriples chart.triples = chart.triples := by
  refine List.mergeSort_of_pairwise (List.pairwise_flatMap.2 ⟨?_, ?_⟩)
  · rintro ⟨event, routes⟩ among
    rw [List.pairwise_map]
    refine routes.ascending.imp_of_mem fun {first second} member member' below => ?_
    have inside := (built.lt_of_lookup (lookup_of_mem among member')).1
    have less := built.nameAt_lt below inside
    have differ : chart.nameAt first.1 ≠ chart.nameAt second.1 := fun same =>
      String.lt_irrefl _ (same ▸ less)
    unfold Dump.precedes
    rw [if_pos rfl, if_neg differ]
    exact decide_eq_true (Dump.le_of_lt less)
  · refine chart.table.ascending.imp fun {first second} below triple member triple' member' => ?_
    obtain ⟨route, -, rfl⟩ := List.mem_map.1 member
    obtain ⟨route', -, rfl⟩ := List.mem_map.1 member'
    have differ : first.1 ≠ second.1 := fun same => String.lt_irrefl _ (same ▸ below)
    unfold Dump.precedes
    rw [if_neg differ]
    exact decide_eq_true (Dump.le_of_lt below)

end Chart.Built

/-! ### Data -/

namespace Dump

/-- Data are read member by member. -/
theorem reread?_eq (datamodel : Datamodel) :
    reread? datamodel = (datamodel.entries.mapM fun entry : String × Value =>
      (entry.2.tree.toValue? dataLevels).map (entry.1, ·)).map Dict.ofList := by
  unfold reread?
  rw [Value.ofDict, Value.tree, datamodel?, Value.toFields?_treesOfFields]

/-- Data are read again exactly if each datum is read. -/
theorem isSome_reread?_iff (datamodel : Datamodel) :
    (reread? datamodel).isSome ↔
      ∀ value ∈ datamodel.values, (value.tree.toValue? dataLevels).isSome := by
  unfold Dict.values
  rw [reread?_eq, Option.isSome_map, Tree.isSome_mapM_iff, List.forall_mem_map]
  simp only [Option.isSome_map]

/-- **Data are read again as themselves if each datum is read as it was printed.** -/
theorem reread?_eq_some {datamodel : Datamodel}
    (back : ∀ value ∈ datamodel.values, Value.parseWithin? dataLevels value.render = some value) :
    reread? datamodel = some datamodel := by
  have read : (datamodel.entries.mapM fun entry : String × Value =>
      (entry.2.tree.toValue? dataLevels).map (entry.1, ·)) = some datamodel.entries := by
    refine Tree.mapM_eq_some fun entry member => ?_
    rw [← Value.parseWithin?_render, back entry.2 (List.mem_map_of_mem member)]
    rfl
  rw [reread?_eq, read]
  exact congrArg some (Dict.ofList_entries datamodel)

end Dump

/-! ### Machines -/

namespace Machine

variable {machine : Machine}

/-- **The dump of a machine gives the machine**, whatever data it is given. -/
theorem Placed.toMachine?_ofMachine (placed : machine.Placed) (datamodel : Datamodel) :
    ({ Dump.ofMachine machine with datamodel } : Dump).toMachine? =
      .ok { machine with datamodel } := by
  unfold Dump.toMachine? Dump.ofMachine
  dsimp only
  rw [placed.built]
  dsimp only
  rw [if_neg (not_not_intro rfl), if_neg (not_not_intro rfl), placed.built.sortedNames_finals,
    if_neg (not_not_intro rfl), placed.built.sortedTriples_triples, if_neg (not_not_intro rfl),
    placed.position?_eq]
  rfl

theorem ofPayload?_bind (payload : Bytes) :
    ((.ok payload : Except DumpFault Bytes) >>= ofPayload?) = ofPayload? payload := rfl

/-- **The text of a machine is read as its dump with its data read again**, if the times of its
history fit. -/
theorem ofBytes?_text (fit : ∀ record ∈ machine.history, record.TimeFits) {datamodel : Datamodel}
    (read : Dump.reread? machine.datamodel = some datamodel) :
    Dump.ofBytes? (utf8 machine.text) = some { Dump.ofMachine machine with datamodel } := by
  have fit : ∀ record ∈ (Dump.ofMachine machine).history, record.TimeFits := fit
  unfold Dump.ofBytes? text
  rw [symbols_utf8, ofSymbols?_render (spells _), Option.bind_eq_bind, Option.bind_some,
    Dump.ofTree?_tree, if_pos fit]
  exact congrArg (Option.map fun datamodel => { Dump.ofMachine machine with datamodel }) read

/-- **What is decoded is told by how the text is read**, if the header of its frame can tell its
length. -/
theorem Placed.decode?_encode_of_ofBytes? (placed : machine.Placed) {datamodel : Datamodel}
    (read : Dump.ofBytes? (utf8 machine.text) = some { Dump.ofMachine machine with datamodel })
    {format : DumpFormat} (small : format = .binary → (utf8 machine.text).length < Nat.pow 2 32) :
    decode? (machine.encode format) = .ok { machine with datamodel } := by
  have given : ofPayload? (utf8 machine.text) = .ok { machine with datamodel } := by
    unfold ofPayload?
    rw [read]
    exact placed.toMachine?_ofMachine datamodel
  unfold decode? encode DumpFormat.detect
  cases format with
  | json =>
    have bare : Frame.isFrame (utf8 machine.text) = false := Frame.isFrame_brace _
    dsimp only
    rw [bare, if_neg Bool.false_ne_true]
    exact given
  | binary =>
    dsimp only
    rw [Frame.isFrame_encode, if_pos rfl]
    have read := (Frame.decode?_encode_eq (utf8 machine.text)).trans (if_pos (small rfl))
    have framed := congrArg (· >>= ofPayload?) read
    exact framed.trans ((ofPayload?_bind _).trans given)

/-- **A machine is decoded as itself with its data read again**, if the times of its history fit and
the header of its frame can tell the length of its text. -/
theorem Placed.decode?_encode (placed : machine.Placed)
    (fit : ∀ record ∈ machine.history, record.TimeFits) {datamodel : Datamodel}
    (read : Dump.reread? machine.datamodel = some datamodel) {format : DumpFormat}
    (small : format = .binary → (utf8 machine.text).length < Nat.pow 2 32) :
    decode? (machine.encode format) = .ok { machine with datamodel } :=
  placed.decode?_encode_of_ofBytes? (ofBytes?_text fit read) small

/-- **A machine is decoded exactly if its data are read again** and, where its text stands in a
frame, the header can tell the length. -/
theorem Placed.exists_decode?_encode_iff (placed : machine.Placed)
    (fit : ∀ record ∈ machine.history, record.TimeFits) (format : DumpFormat) :
    (∃ found, decode? (machine.encode format) = .ok found) ↔
      (Dump.reread? machine.datamodel).isSome ∧
        (format = .binary → (utf8 machine.text).length < Nat.pow 2 32) := by
  constructor
  · rintro ⟨found, decoded⟩
    obtain ⟨datamodel, read, -⟩ := of_decode?_encode decoded
    refine ⟨read ▸ rfl, fun framed => ?_⟩
    subst framed
    by_contra large
    unfold decode? encode DumpFormat.detect at decoded
    dsimp only at decoded
    rw [Frame.isFrame_encode, if_pos rfl] at decoded
    dsimp only at decoded
    rw [Frame.decode?_encode_eq, if_neg large] at decoded
    cases decoded
  · rintro ⟨read, small⟩
    obtain ⟨datamodel, read⟩ := Option.isSome_iff_exists.1 read
    exact ⟨_, placed.decode?_encode fit read small⟩

end Machine

end Statechart
