/-
**What a chart keeps beside its states.**

A chart keeps several things that follow from its states: an index, a table, positions of states
with a flag, and an identifier. Looking up relies on their being in step, for it takes a position
from one of them and looks for a state there. They are in step in every chart that building gives,
be it of a description or of what a dump records, and nothing that is done with a machine changes
its chart or leads it to a position where no state stands.

* `Chart.Represented`: the parts of a chart are in step with its states.
* `Chart.Built.chart_represented`: building gives such charts.
* `Machine.Arises`: the machines that come about by building, decoding and using them.
* `Machine.Arises.represented`: their charts are in step, and they are nowhere or in a state.
-/

import Statechart.Proofs.Runner.Queries

namespace Statechart

namespace Chart

/-! ### Representation -/

/-- The positions that a chart keeps. -/
inductive Keeps (chart : Chart) : Nat → Prop
  | index {name : String} {position : Nat} (found : chart.index.get? name = some position) :
      chart.Keeps position
  | source {event : String} {source destination : Nat}
      (leads : chart.lookup event source = some destination) : chart.Keeps source
  | destination {event : String} {source destination : Nat}
      (leads : chart.lookup event source = some destination) : chart.Keeps destination
  | initial : chart.Keeps chart.initial
  | final {position : Nat} (among : position ∈ chart.finals) : chart.Keeps position

/-- **The parts of a chart are in step with its states.** -/
structure Represented (chart : Chart) : Prop where
  named : ∀ state ∈ chart.states, state.name ≠ ""
  ascending : (chart.states.map State.name).Pairwise (· < ·)
  /-- The index gives exactly the names of the states, and their positions. -/
  index_iff : ∀ name position, chart.index.get? name = some position ↔
    ∃ state, chart.states[position]? = some state ∧ state.name = name
  /-- The table leads where the states say that their events lead. -/
  lookup_iff : ∀ event source destination, chart.lookup event source = some destination ↔
    ∃ state target, chart.states[source]? = some state ∧
      chart.states[destination]? = some target ∧ state.events.get? event = some target.name
  /-- No event of the table is without a source. -/
  sourced : ∀ event routes, chart.table.get? event = some routes →
    ∃ source destination, routes.get? source = some destination
  initial_iff : ∀ position, position = chart.initial ↔
    ∃ state, chart.states[position]? = some state ∧ state.isInitial
  finals_iff : ∀ position, position ∈ chart.finals ↔
    ∃ state, chart.states[position]? = some state ∧ state.isFinal
  finals_ascending : chart.finals.Pairwise (· < ·)
  id_eq : chart.id = contentId chart.states
  /-- A state stands at every position that the chart keeps. -/
  inside : ∀ position, chart.Keeps position → position < chart.states.length
  state?_iff : ∀ name state, chart.state? name = some state ↔
    state ∈ chart.states ∧ state.name = name
  /-- An event leads from a state to what its events say, and to a state of the chart. -/
  transition?_eq : ∀ event source, (chart.transition? event source).map State.name =
    (chart.state? source).bind fun state => state.events.get? event
  transition?_mem : ∀ event source target, chart.transition? event source = some target →
    target ∈ chart.states
  events_ascending : chart.events.Pairwise (· < ·)
  /-- The events of the chart are those of its states. -/
  mem_events_iff : ∀ event, event ∈ chart.events ↔
    ∃ state ∈ chart.states, event ∈ state.events.keys

theorem mem_positionsOf_iff {property : State → Bool} {states : List State} {position : Nat} :
    position ∈ positionsOf property states ↔
      ∃ state, states[position]? = some state ∧ property state := by
  unfold positionsOf
  rw [List.mem_filter, List.mem_range, Option.any_eq_true]
  constructor
  · exact And.right
  · rintro ⟨state, stands, holds⟩
    exact ⟨(List.getElem?_eq_some_iff.1 stands).1, state, stands, holds⟩

namespace Built

variable {chart : Chart}

theorem index_get?_iff (built : chart.Built) {name : String} {position : Nat} :
    chart.index.get? name = some position ↔
      ∃ state, chart.states[position]? = some state ∧ state.name = name := by
  constructor
  · exact built.state_of_index_get?
  · rintro ⟨state, stands, rfl⟩
    exact built.index_get? stands

/-- An event leads from one position to another as the state there declares. -/
theorem lookup_iff (built : chart.Built) {event : String} {source destination : Nat} :
    chart.lookup event source = some destination ↔
      ∃ state target, chart.states[source]? = some state ∧
        chart.states[destination]? = some target ∧ state.events.get? event = some target.name := by
  rw [built.lookup_eq_some_iff]
  constructor
  · rintro ⟨state, name, stands, declared, found⟩
    obtain ⟨target, there, rfl⟩ := built.state_of_index_get? found
    exact ⟨state, target, stands, there, declared⟩
  · rintro ⟨state, target, stands, there, declared⟩
    exact ⟨state, target.name, stands, declared, built.index_get? there⟩

theorem sourced (built : chart.Built) {event : String} {routes : Routes}
    (found : chart.table.get? event = some routes) :
    ∃ source destination, routes.get? source = some destination := by
  have registered : chart.isRegistered event = true := by
    unfold isRegistered Dict.contains
    rw [found]
    rfl
  obtain ⟨state, member, declared⟩ := built.isRegistered_iff.1 registered
  obtain ⟨name, declared⟩ := Option.ne_none_iff_exists'.1 declared
  obtain ⟨source, stands⟩ := List.mem_iff_getElem?.1 member
  obtain ⟨destination, known⟩ := built.index_of_declared member declared
  have leads : chart.lookup event source = some destination :=
    built.lookup_eq_some_iff.2 ⟨state, name, stands, declared, known⟩
  unfold lookup at leads
  rw [found] at leads
  exact ⟨source, destination, leads⟩

theorem initial_iff (built : chart.Built) {position : Nat} :
    position = chart.initial ↔
      ∃ state, chart.states[position]? = some state ∧ state.isInitial := by
  rw [← mem_positionsOf_iff, built.ofStates.initial, List.mem_singleton]

theorem mem_finals_iff (built : chart.Built) {position : Nat} :
    position ∈ chart.finals ↔ ∃ state, chart.states[position]? = some state ∧ state.isFinal := by
  rw [built.ofStates.finals, mem_positionsOf_iff]

theorem finals_ascending (built : chart.Built) : chart.finals.Pairwise (· < ·) := by
  rw [built.ofStates.finals]
  exact List.pairwise_lt_range.filter _

/-- **A state stands at every position that a built chart keeps.** -/
theorem lt_of_keeps (built : chart.Built) {position : Nat} (keeps : chart.Keeps position) :
    position < chart.states.length := by
  cases keeps with
  | index found => exact built.lt_of_index_get? found
  | source leads => exact (built.lt_of_lookup leads).1
  | destination leads => exact (built.lt_of_lookup leads).2
  | initial => exact chart.initial_lt
  | final among =>
    obtain ⟨state, stands, -⟩ := built.mem_finals_iff.1 among
    exact (List.getElem?_eq_some_iff.1 stands).1

theorem mem_of_transition? {event source : String} {target : State}
    (leads : chart.transition? event source = some target) : target ∈ chart.states := by
  obtain ⟨position, -, further⟩ := Option.bind_eq_some_iff.1 leads
  obtain ⟨place, reached, same⟩ := Option.bind_eq_some_iff.1 further
  cases same
  exact mem_of_place? (place?_of_destination? reached)

/-- **The events of a built chart are those of its states.** -/
theorem mem_events_iff (built : chart.Built) {event : String} :
    event ∈ chart.events ↔ ∃ state ∈ chart.states, event ∈ state.events.keys := by
  have registered : event ∈ chart.events ↔ chart.isRegistered event = true :=
    Dict.mem_keys_iff.trans Option.isSome_iff_exists.symm
  rw [registered, built.isRegistered_iff]
  simp only [Dict.mem_keys_iff, Option.ne_none_iff_exists']

/-- **Building gives charts whose parts are in step.** -/
theorem chart_represented (built : chart.Built) : chart.Represented where
  named := built.ofStates.named
  ascending := built.ascending
  index_iff _ _ := built.index_get?_iff
  lookup_iff _ _ _ := built.lookup_iff
  sourced _ _ := built.sourced
  initial_iff _ := built.initial_iff
  finals_iff _ := built.mem_finals_iff
  finals_ascending := built.finals_ascending
  id_eq := built.ofStates.id
  inside _ := built.lt_of_keeps
  state?_iff _ _ := built.state?_eq_some_iff
  transition?_eq := built.map_name_transition?
  transition?_mem _ _ _ := mem_of_transition?
  events_ascending := List.pairwise_map.2 chart.table.ascending
  mem_events_iff _ := built.mem_events_iff

end Built

end Chart

/-! ### Machines -/

namespace Machine

/-- **The machines that come about**: one is assembled of states or decoded, its data are changed,
and whatever is done with a runner that holds it may leave another one. -/
inductive Arises : Machine → Prop
  /-- States are put together, as they are for every description. -/
  | assembled {name : String} {states : List State} {datamodel : Datamodel} {machine : Machine}
      (built : ofStates? name states datamodel = .ok machine) : Arises machine
  | decoded {bytes : Bytes} {machine : Machine} (decoded : decode? bytes = .ok machine) :
      Arises machine
  /-- The data are changed, be it by giving the machine an owner. -/
  | changed {machine : Machine} (arises : Arises machine) (datamodel : Datamodel) :
      Arises { machine with datamodel }
  /-- A runner that holds the machine goes on with it. -/
  | operated {σ : Type} [Clocked σ] {runner : Runner σ} {machine finish : Machine}
      (arises : Arises machine) (loaded : runner.machine = some machine) {operation : Operation σ}
      (going : operation.Continues) {world : σ}
      (kept : (operation.perform runner world).1.machine = some finish) : Arises finish

/-- **The chart of a machine is in step, and the machine is nowhere or in one of its states.** -/
structure Represented (machine : Machine) : Prop where
  chart : machine.chart.Represented
  current : ∀ position, machine.current = some position → position < machine.chart.states.length
  /-- Every call that is made leads between places of the chart. -/
  within : ∀ {σ : Type} [Clocked σ] (runner : Runner σ), runner.machine = some machine →
    ∀ call payload world blocks outcome,
      runner.Conducts call payload world blocks outcome →
        ∀ deed ∈ blocks.flatten, deed.move.Within machine.chart

variable {machine : Machine}

theorem placed_of_ofStates? {name : String} {states : List State} {datamodel : Datamodel}
    (built : ofStates? name states datamodel = .ok machine) : machine.Placed := by
  unfold ofStates? at built
  cases charted : Chart.ofStates? states with
  | error fault => rw [charted] at built; cases built
  | ok chart =>
    rw [charted] at built
    cases built
    exact ⟨Chart.built_of_ofStates? charted, fun position nowhere => nomatch nowhere⟩

/-- A machine that comes about has a built chart and is nowhere or in one of its states. -/
theorem Arises.placed (arises : machine.Arises) : machine.Placed := by
  induction arises with
  | assembled built => exact placed_of_ofStates? built
  | decoded decoded => exact placed_of_decode? decoded
  | changed _ datamodel ih => exact ⟨ih.built, ih.inside⟩
  | operated _ loaded going kept ih => exact Operation.placed going loaded ih kept

/-- **In every machine that comes about all is in step**: the chart with its states, and the machine
and its transitions with the chart. -/
theorem Arises.represented (arises : machine.Arises) : machine.Represented where
  chart := arises.placed.built.chart_represented
  current := arises.placed.inside
  within := by
    intro σ _ runner loaded call payload world blocks outcome conducts deed member
    cases conducts with
    | declined _ => cases member
    | conducted begins course =>
      cases loaded.symm.trans begins.loaded
      exact (course.visits begins.within deed member).1

/-! #### Where machines come from -/

/-- What is built of a description or decoded comes about. -/
theorem Obtained.arises (obtained : machine.Obtained) : machine.Arises := by
  cases obtained with
  | @built description _ described =>
    unfold Description.build at described
    cases flat : description.states.mapM StateDescription.flatten with
    | error fault => rw [flat] at described; cases described
    | ok states =>
      rw [flat] at described
      exact .assembled described
  | decoded decoded => exact .decoded decoded

end Machine

/-- **The machine of a runner that came about is one that comes about.** -/
theorem Runner.Reached.arises {σ : Type} [Clocked σ] {runner : Runner σ} (reached : runner.Reached)
    {machine : Machine} (loaded : runner.machine = some machine) : machine.Arises := by
  induction reached generalizing machine with
  | fresh setup => cases loaded
  | equipped _ setup ih => exact ih loaded
  | passed _ _ held _ ih =>
    rw [← Operation.eq_of_machine_load loaded]
    exact ih held
  | operated _ brings world ih =>
    rcases goes_on_or_obtained brings loaded with ⟨going, old, before⟩ | obtained
    · exact .operated (ih before) before going loaded
    · exact obtained.arises

/-- In the door that was pushed open all is in step. -/
theorem Machine.Arises.represented_door :
    let opened := (Operation.call (.send "push") .null).perform Runner.shutting 1
    ∃ now, opened.1.machine = some now ∧ now.current = some 1 ∧ now.Arises ∧ now.Represented := by
  intro opened
  obtain ⟨now, kept, wide⟩ := Option.map_eq_some_iff.1
    (show opened.1.machine.map Machine.current = some (some 1) by decide +kernel)
  have brings : (Operation.call (.send "push") .null : Operation Nat).Brings := trivial
  have arises := (Runner.reached_shutting.operated brings 1).arises kept
  exact ⟨now, kept, wide, arises, Machine.Arises.represented arises⟩

end Statechart
