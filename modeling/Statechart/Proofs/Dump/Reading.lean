/-
**Reading parts of dumps back.**

States, routes and records of transitions are read as they were written. A time that does not fit
64 bits is not read at all.

* `State.ofTree?_tree`: a state is read as itself.
* `HistoryRecord.ofTree?_tree`: a record is read as itself if its time fits.
* `Dump.ofTree?_tree`: a dump is read as itself, but for its data.
* `Dump.owner?_of_reread?`: data that are read again belong to the same owner.
-/

import Statechart.Proofs.Json.Fields
import Statechart.Dump.Reading

namespace Statechart

open Json

namespace Hooks

/-- The fields of the declared hooks of some kinds. -/
def fieldOf (hooks : Hooks) (kind : HookKind) : List (String × Value) :=
  match hooks.get kind with
  | none => []
  | some identifier => [(kind.name, .string identifier)]

theorem fields_eq (hooks : Hooks) : hooks.fields = HookKind.all.flatMap hooks.fieldOf := rfl

theorem get?_fieldOf (hooks : Hooks) (kind : HookKind) (name : String) :
    Entries.get? name (hooks.fieldOf kind) =
      if kind.name = name then (hooks.get kind).map .string else none := by
  unfold fieldOf
  cases hooks.get kind with
  | none => simp [Entries.get?]
  | some identifier => rfl

/-- The names of declared hooks stand in the order of all kinds. -/
theorem names_sublist (hooks : Hooks) (kinds : List HookKind) :
    ((kinds.flatMap hooks.fieldOf).map Prod.fst).Sublist (kinds.map HookKind.name) := by
  induction kinds with
  | nil => exact List.Sublist.refl _
  | cons kind kinds ih =>
    rw [List.flatMap_cons, List.map_append, List.map_cons]
    unfold fieldOf
    cases hooks.get kind with
    | none => exact ih.cons _
    | some identifier => exact ih.cons_cons _

/-- **The hook of a kind stands at the name of the kind.** -/
theorem get?_fields (hooks : Hooks) (kind : HookKind) :
    Entries.get? kind.name hooks.fields = (hooks.get kind).map .string := by
  rw [fields_eq]
  cases kind <;>
    simp [HookKind.all, List.flatMap_cons, Entries.get?_append, get?_fieldOf, HookKind.name]

/-- Nothing stands at a name that is none of a kind. -/
theorem get?_fields_eq_none (hooks : Hooks) {name : String}
    (other : ∀ kind ∈ HookKind.all, kind.name ≠ name) : Entries.get? name hooks.fields = none := by
  refine Entries.get?_eq_none fun field member same => ?_
  obtain ⟨kind, among, same'⟩ := List.mem_map.1
    ((hooks.names_sublist HookKind.all).subset (List.mem_map_of_mem member))
  exact other kind among (same'.trans same)

end Hooks

namespace State

/-- The fields of a state in order. -/
def fields (state : State) : List (String × Value) :=
  [("name", .string state.name), ("events", eventsValue state.events)] ++ state.hooks.fields ++
    [("is_initial", .bool state.isInitial), ("is_final", .bool state.isFinal)]

theorem nodup_fields (state : State) : (state.fields.map Prod.fst).Nodup := by
  have known : ("name" :: "events" :: HookKind.all.map HookKind.name ++
      ["is_initial", "is_final"]).Nodup := by decide
  refine List.Sublist.nodup ?_ known
  unfold fields
  rw [List.map_append, List.map_append]
  refine List.Sublist.append (List.Sublist.append (List.Sublist.refl _) ?_) (List.Sublist.refl _)
  exact state.hooks.names_sublist HookKind.all

/-- The hook of a kind stands at the name of the kind. -/
theorem get?_fields_hook (state : State) (kind : HookKind) :
    Entries.get? kind.name state.fields = (state.hooks.get kind).map .string := by
  unfold fields
  rw [Entries.get?_append, Entries.get?_append, state.hooks.get?_fields]
  cases kind <;> simp [HookKind.name, Entries.get?]

/-- Behind the hooks, whose names are others, the flags stand at their names. -/
theorem get?_fields_isInitial (state : State) :
    Entries.get? "is_initial" state.fields = some (.bool state.isInitial) := by
  unfold fields
  rw [Entries.get?_append, Entries.get?_append, state.hooks.get?_fields_eq_none (by decide)]
  rfl

theorem get?_fields_isFinal (state : State) :
    Entries.get? "is_final" state.fields = some (.bool state.isFinal) := by
  unfold fields
  rw [Entries.get?_append, Entries.get?_append, state.hooks.get?_fields_eq_none (by decide)]
  rfl

theorem field?_hook (state : State) (kind : HookKind) (position : Nat)
    (stands : fieldNames[position]? = some kind.name) :
    Tree.field? (Tree.placed fieldNames state.fields) position (Tree.nullable? Tree.text?)
      (some none) = some (state.hooks.get kind) := by
  rw [Tree.field?_placed kind.name stands, get?_fields_hook]
  cases state.hooks.get kind with
  | none => rfl
  | some identifier => exact Tree.nullable?_text?_tree (some identifier)

/-- **A state is read as itself.** -/
theorem ofTree?_tree (state : State) : ofTree? state.toValue.tree = some state := by
  have name : Tree.field? (Tree.placed fieldNames state.fields) 0 Tree.text? none =
      some state.name := by
    rw [Tree.field?_placed "name" rfl]
    exact Tree.text?_tree state.name
  have events : Tree.field? (Tree.placed fieldNames state.fields) 1 (Tree.dict? Tree.text?)
      (some ∅) = some state.events := by
    rw [Tree.field?_placed "events" rfl]
    exact Tree.dict?_tree state.events
  have isInitial : Tree.field? (Tree.placed fieldNames state.fields) 7 Tree.truth? (some false) =
      some state.isInitial := by
    rw [Tree.field?_placed "is_initial" rfl, get?_fields_isInitial]
    rfl
  have isFinal : Tree.field? (Tree.placed fieldNames state.fields) 8 Tree.truth? (some false) =
      some state.isFinal := by
    rw [Tree.field?_placed "is_final" rfl, get?_fields_isFinal]
    rfl
  have whole : Tree.fields? fieldNames 1 state.toValue.tree =
      some (Tree.placed fieldNames state.fields) :=
    Tree.fields?_record (by decide) 1 state.nodup_fields
  unfold ofTree?
  simp only [whole, name, events, isInitial, isFinal, state.field?_hook .onEnter 2 rfl,
    state.field?_hook .onExit 3 rfl, state.field?_hook .onChange 4 rfl,
    state.field?_hook .trigger 5 rfl, state.field?_hook .action 6 rfl,
    Option.bind_eq_bind, Option.bind_some]
  rfl

end State

/-! ### Records of transitions -/

theorem Status.ofTree?_tree (status : Status) :
    ofTree? (Value.string status.name).tree = some status := by
  cases status <;> rfl

namespace HistoryRecord

/-- The fields of a record in order. -/
def fields (record : HistoryRecord) : List (String × Value) :=
  [("timestamp", .integer record.timestamp), ("event", .optionalString record.event),
   ("src", .optionalString record.source), ("state", .string record.state),
   ("status", .string record.status.name)]

/-- The time of a record fits 64 bits. -/
def TimeFits (record : HistoryRecord) : Prop :=
  -(Nat.pow 2 63 : Int) ≤ record.timestamp ∧ record.timestamp < (Nat.pow 2 63 : Int)

instance (record : HistoryRecord) : Decidable record.TimeFits := by
  unfold TimeFits
  infer_instance

theorem timestamp?_tree (record : HistoryRecord) :
    timestamp? (Value.integer record.timestamp).tree =
      if record.TimeFits then some record.timestamp else none := by
  have word : Literal.wordMax = 18446744073709551615 := rfl
  have half : Nat.pow 2 63 = 9223372036854775808 := rfl
  unfold timestamp?
  rw [Tree.whole?_tree]
  by_cases fits : record.TimeFits
  · have range : -(Nat.pow 2 63 : Int) ≤ record.timestamp ∧ record.timestamp ≤ Literal.wordMax := by
      unfold TimeFits at fits
      omega
    rw [if_pos range, if_pos fits]
    exact if_pos fits
  · rw [if_neg fits]
    by_cases range : -(Nat.pow 2 63 : Int) ≤ record.timestamp ∧ record.timestamp ≤ Literal.wordMax
    · rw [if_pos range]
      exact if_neg fits
    · rw [if_neg range]
      rfl

/-- **A record is read as itself if its time fits, and else not at all.** -/
theorem ofTree?_tree (record : HistoryRecord) :
    ofTree? record.toValue.tree = if record.TimeFits then some record else none := by
  have whole : Tree.fields? fieldNames 5 record.toValue.tree =
      some (Tree.placed fieldNames record.fields) :=
    Tree.fields?_record (by decide) 5
      (show ["timestamp", "event", "src", "state", "status"].Nodup by decide)
  have timestamp : Tree.field? (Tree.placed fieldNames record.fields) 0 timestamp? none =
      if record.TimeFits then some record.timestamp else none := by
    rw [Tree.field?_placed "timestamp" rfl]
    exact record.timestamp?_tree
  have event : Tree.field? (Tree.placed fieldNames record.fields) 1 (Tree.nullable? Tree.text?)
      (some none) = some record.event := by
    rw [Tree.field?_placed "event" rfl]
    exact Tree.nullable?_text?_tree record.event
  have source : Tree.field? (Tree.placed fieldNames record.fields) 2 (Tree.nullable? Tree.text?)
      (some none) = some record.source := by
    rw [Tree.field?_placed "src" rfl]
    exact Tree.nullable?_text?_tree record.source
  have state : Tree.field? (Tree.placed fieldNames record.fields) 3 Tree.text? none =
      some record.state := by
    rw [Tree.field?_placed "state" rfl]
    exact Tree.text?_tree record.state
  have status : Tree.field? (Tree.placed fieldNames record.fields) 4 Status.ofTree? none =
      some record.status := by
    rw [Tree.field?_placed "status" rfl]
    exact Status.ofTree?_tree record.status
  unfold ofTree?
  simp only [whole, timestamp, event, source, state, status, Option.bind_eq_bind, Option.bind_some]
  by_cases fits : record.TimeFits
  · rw [if_pos fits, if_pos fits]
    rfl
  · rw [if_neg fits, if_neg fits]
    rfl

end HistoryRecord

/-! ### Dumps -/

namespace Dump

theorem triple?_tree (triple : Chart.Triple) : triple? (tripleValue triple).tree = some triple := by
  have written : (tripleValue triple).tree = .list [(Value.string triple.event).tree,
      .list [(Value.string triple.source).tree, (Value.string triple.target).tree]] := rfl
  unfold triple?
  rw [written]
  simp only [Tree.pair?, Tree.text?_tree]
  rfl

/-- The data that are read of written data. -/
def reread? (datamodel : Datamodel) : Option Datamodel := datamodel? (Value.ofDict datamodel).tree

/-- Reread data hold what is read of each datum. -/
theorem get?_of_reread? {datamodel found : Datamodel} (read : reread? datamodel = some found)
    (name : String) : (found.get? name).map some =
      (datamodel.get? name).map fun value => value.tree.toValue? dataLevels := by
  have members : (Value.ofDict datamodel).tree =
      .record (membersOf Value.tree datamodel.entries) := by
    rw [Value.ofDict, Value.tree, Value.treesOfFields_eq]
  unfold reread? at read
  rw [members, datamodel?] at read
  obtain ⟨fields, each, rfl⟩ := Option.map_eq_some_iff.1 read
  obtain ⟨names, answers⟩ := Tree.get?_of_toFields? each
  have distinct : (fields.map Prod.fst).Nodup := by
    rw [names]
    exact datamodel.nodup_keys
  rw [Dict.get?_ofList distinct]
  exact answers name

/-- Reread data belong to the same owner. -/
theorem owner?_of_reread? {datamodel found : Datamodel} (read : reread? datamodel = some found) :
    found.owner? = datamodel.owner? := by
  have here := get?_of_reread? read ownerKey
  unfold Datamodel.owner?
  cases before : datamodel.get? ownerKey with
  | none =>
    cases after : found.get? ownerKey with
    | none => rfl
    | some value' => rw [before, after] at here; cases here
  | some value =>
    cases after : found.get? ownerKey with
    | none => rw [before, after] at here; cases here
    | some value' =>
      rw [before, after] at here
      exact Tree.string?_of_toValue? (Option.some.inj here).symm

-- A number with a point may change in its last place: 4.506081447933664e-25 does.
example : (reread? (Dict.empty.insert "x" (.number (.float ⟨4242793937549689206⟩)))).bind
    (Dict.get? · "x") = some (.number (.float ⟨4242793937549689205⟩)) := by
  rfl

/-- The fields of a dump in order. -/
def fields (dump : Dump) : List (String × Value) :=
  [("chart_id", .string dump.chartId), ("name", .string dump.name),
   ("current_state", .optionalString dump.current), ("initial_state", .string dump.initial),
   ("final_states", .list (dump.finals.map .string)),
   ("states", .list (dump.states.map State.toValue)),
   ("transitions", .list (dump.transitions.map tripleValue)),
   ("history", .list (dump.history.map HistoryRecord.toValue)),
   ("datamodel", .ofDict dump.datamodel)]

/-- **A dump is read as itself but for its data**, if the times of its history fit. -/
theorem ofTree?_tree (dump : Dump) :
    ofTree? dump.toValue.tree =
      if ∀ record ∈ dump.history, record.TimeFits then
        (reread? dump.datamodel).map fun datamodel => { dump with datamodel }
      else none := by
  have whole : Tree.fields? fieldNames 7 dump.toValue.tree =
      some (Tree.placed fieldNames dump.fields) :=
    Tree.fields?_record (by decide) 7 (show fieldNames.Nodup by decide)
  have chartId : Tree.field? (Tree.placed fieldNames dump.fields) 0 Tree.text? none =
      some dump.chartId := by
    rw [Tree.field?_placed "chart_id" rfl]
    exact Tree.text?_tree dump.chartId
  have name : Tree.field? (Tree.placed fieldNames dump.fields) 1 Tree.text? (some "") =
      some dump.name := by
    rw [Tree.field?_placed "name" rfl]
    exact Tree.text?_tree dump.name
  have current : Tree.field? (Tree.placed fieldNames dump.fields) 2 (Tree.nullable? Tree.text?)
      (some none) = some dump.current := by
    rw [Tree.field?_placed "current_state" rfl]
    exact Tree.nullable?_text?_tree dump.current
  have initial : Tree.field? (Tree.placed fieldNames dump.fields) 3 Tree.text? none =
      some dump.initial := by
    rw [Tree.field?_placed "initial_state" rfl]
    exact Tree.text?_tree dump.initial
  have finals : Tree.field? (Tree.placed fieldNames dump.fields) 4 (Tree.list? Tree.text?) none =
      some dump.finals := by
    rw [Tree.field?_placed "final_states" rfl]
    refine Tree.list?_tree.trans ?_
    exact Tree.mapM_eq_some fun name _ => Tree.text?_tree name
  have states : Tree.field? (Tree.placed fieldNames dump.fields) 5 (Tree.list? State.ofTree?)
      none = some dump.states := by
    rw [Tree.field?_placed "states" rfl]
    refine Tree.list?_tree.trans ?_
    exact Tree.mapM_eq_some fun state _ => state.ofTree?_tree
  have transitions : Tree.field? (Tree.placed fieldNames dump.fields) 6 (Tree.list? triple?)
      none = some dump.transitions := by
    rw [Tree.field?_placed "transitions" rfl]
    refine Tree.list?_tree.trans ?_
    exact Tree.mapM_eq_some fun triple _ => triple?_tree triple
  have history : Tree.field? (Tree.placed fieldNames dump.fields) 7
      (Tree.list? HistoryRecord.ofTree?) (some []) =
        if ∀ record ∈ dump.history, record.TimeFits then some dump.history else none := by
    rw [Tree.field?_placed "history" rfl]
    refine Tree.list?_tree.trans ?_
    simp only [HistoryRecord.ofTree?_tree]
    exact Tree.mapM_ite dump.history
  have datamodel : Tree.field? (Tree.placed fieldNames dump.fields) 8 datamodel? (some ∅) =
      reread? dump.datamodel := by
    rw [Tree.field?_placed "datamodel" rfl]
    rfl
  unfold ofTree?
  simp only [whole, chartId, name, current, initial, finals, states, transitions, history,
    datamodel, Option.bind_eq_bind, Option.bind_some]
  by_cases fit : ∀ record ∈ dump.history, record.TimeFits
  · rw [if_pos fit, if_pos fit]
    cases reread? dump.datamodel <;> rfl
  · rw [if_neg fit, if_neg fit]
    rfl

end Dump

end Statechart
