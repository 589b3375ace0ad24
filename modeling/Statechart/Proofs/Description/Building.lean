/-
**What is built of a description.**

A record describes a state: sub-states become destinations of events that are made up for them, and
where nothing is said of an end, the state is one if no event leads on. A description gives a
machine exactly if the states that it describes make a chart, and then the machine is at rest and
has these states. If they do not, it is told what is wrong with them, a state without a name coming
first. So in which order the records and their sub-states are listed is no matter.

* `StateDescription.Describes`: the state of a record.
* `Description.Gives`: the machine of a description.
* `Description.build_described`: what building answers, for every description.
* `Description.Rearranges`: the same description in another order.
* `Description.build_rearranged`: it gives the same.
-/

import Statechart.Description.Basic
import Statechart.Proofs.Chart.Validity

namespace Statechart

open Chart

/-! ### Records -/

namespace StateDescription

variable {record record' : StateDescription}

/-- **Where the events of a record lead**: as it says, and for the others to its sub-states. -/
inductive Leads (record : StateDescription) : String → String → Prop
  | said {event target : String} (given : record.events.get? event = some target) :
      Leads record event target
  | madeUp {name : String} (listed : name ∈ record.subStates)
      (unsaid : record.events.get? (subStateEvent name) = none) :
      Leads record (subStateEvent name) name

/-- **The state of a record.** A record without an identifier describes a state without a name. -/
structure Describes (record : StateDescription) (state : State) : Prop where
  name : state.name = record.identifier.getD ""
  events : ∀ event target, state.events.get? event = some target ↔ record.Leads event target
  hooks : state.hooks = record.hooks
  isInitial : state.isInitial = record.isInitial
  isFinal : state.isFinal = record.isFinal.getD state.events.isEmpty

theorem subStateEvent_injective : Function.Injective subStateEvent := by
  intro first second same
  exact (String.append_right_inj _).1 same

/-- An event made up for one of some names leads there, if it did not lead elsewhere. -/
theorem get?_foldl_subStates (names : List String) (events : Dict String String)
    (event target : String) :
    (names.foldl (fun events name => events.insertNew (subStateEvent name) name) events).get?
        event = some target ↔
      events.get? event = some target ∨
        events.get? event = none ∧ target ∈ names ∧ event = subStateEvent target := by
  induction names generalizing events with
  | nil => simp
  | cons name names ih =>
    rw [List.foldl_cons, ih, Dict.get?_insertNew, List.mem_cons]
    by_cases here : subStateEvent name = event
    · subst here
      have one : subStateEvent name = subStateEvent target ↔ target = name :=
        ⟨fun same => (subStateEvent_injective same).symm, fun same => same ▸ rfl⟩
      cases known : events.get? (subStateEvent name) with
      | none => grind
      | some old => simp
    · rw [if_neg here]
      have elsewhere : event = subStateEvent target → target ≠ name := by
        rintro rfl rfl
        exact here rfl
      grind

/-- **The events of the flattened record lead where the record says.** -/
theorem get?_flatEvents {event target : String} :
    record.flatEvents.get? event = some target ↔ record.Leads event target := by
  unfold flatEvents
  rw [get?_foldl_subStates]
  constructor
  · rintro (given | ⟨unsaid, listed, rfl⟩)
    · exact .said given
    · exact .madeUp listed unsaid
  · rintro (given | ⟨listed, unsaid⟩)
    · exact .inl given
    · exact .inr ⟨unsaid, listed, rfl⟩

/-- The state that a record describes, be it named or not. -/
def flattened (record : StateDescription) : State where
  name := record.identifier.getD ""
  events := record.flatEvents
  hooks := record.hooks
  isInitial := record.isInitial
  isFinal := record.isFinal.getD record.flatEvents.isEmpty

/-- **A record describes one state.** -/
theorem describes_iff {state : State} : record.Describes state ↔ state = record.flattened := by
  constructor
  · intro describes
    obtain ⟨name, stateEvents, hooks, isInitial, isFinal⟩ := state
    have events : stateEvents = record.flatEvents := by
      refine Dict.ext_get? fun event => Option.ext fun target => ?_
      rw [get?_flatEvents]
      exact describes.events event target
    have final : isFinal = record.isFinal.getD stateEvents.isEmpty := describes.isFinal
    cases describes.name
    cases describes.hooks
    cases describes.isInitial
    rw [final, events]
    rfl
  · rintro rfl
    exact ⟨rfl, fun _ _ => get?_flatEvents, rfl, rfl, rfl⟩

theorem flatten_of_named (named : record.flattened.name ≠ "") :
    record.flatten = .ok record.flattened := by
  obtain ⟨identifier, isInitial, isFinal, events, hooks, subStates⟩ := record
  cases identifier with
  | none => exact absurd rfl named
  | some name => exact if_neg fun empty => named (String.isEmpty_iff.1 empty)

theorem flatten_of_unnamed (unnamed : record.flattened.name = "") :
    record.flatten = .error (.malformed .missingIdentifier) := by
  obtain ⟨identifier, isInitial, isFinal, events, hooks, subStates⟩ := record
  cases identifier with
  | none => rfl
  | some name => exact if_pos (String.isEmpty_iff.2 unnamed)

/-- **The same record with its sub-states in another order.** -/
structure Rearranges (first second : StateDescription) : Prop where
  identifier : first.identifier = second.identifier
  isInitial : first.isInitial = second.isInitial
  isFinal : first.isFinal = second.isFinal
  events : first.events = second.events
  hooks : first.hooks = second.hooks
  subStates : first.subStates.Perm second.subStates

theorem Rearranges.symm (rearranges : record.Rearranges record') : record'.Rearranges record :=
  ⟨rearranges.identifier.symm, rearranges.isInitial.symm, rearranges.isFinal.symm,
    rearranges.events.symm, rearranges.hooks.symm, rearranges.subStates.symm⟩

theorem Rearranges.leads (rearranges : record.Rearranges record') {event target : String}
    (leads : record.Leads event target) : record'.Leads event target := by
  cases leads with
  | said given => exact .said (rearranges.events ▸ given)
  | madeUp listed unsaid =>
    exact .madeUp (rearranges.subStates.mem_iff.1 listed) (rearranges.events ▸ unsaid)

/-- It describes the same state. -/
theorem Rearranges.flattened (rearranges : record.Rearranges record') :
    record.flattened = record'.flattened := by
  have events : record.flatEvents = record'.flatEvents := by
    refine Dict.ext_get? fun event => Option.ext fun target => ?_
    rw [get?_flatEvents, get?_flatEvents]
    exact ⟨rearranges.leads, rearranges.symm.leads⟩
  unfold StateDescription.flattened
  rw [rearranges.identifier, events, rearranges.hooks, rearranges.isInitial, rearranges.isFinal]

end StateDescription

namespace Description

variable {description first second : Description} {machine : Machine} {fault : ChartFault}

/-! ### Building -/

/-- The states that a description describes. -/
def flattened (description : Description) : List State :=
  description.states.map StateDescription.flattened

/-- **The machine of a description**, which is at rest and has the described states. -/
structure Gives (description : Description) (declared : List State) (machine : Machine) : Prop where
  built : machine.chart.Built
  states : declared.Perm machine.chart.states
  ascending : (machine.chart.states.map State.name).Pairwise (· < ·)
  name : machine.name = description.name.getD ""
  datamodel : machine.datamodel = description.datamodel
  current : machine.current = none
  history : machine.history = []

theorem build_of_named (named : ∀ state ∈ description.flattened, state.name ≠ "") :
    description.build =
      Machine.ofStates? (description.name.getD "") description.flattened description.datamodel := by
  have each : description.states.mapM StateDescription.flatten = .ok description.flattened := by
    unfold flattened at named ⊢
    generalize description.states = records at named ⊢
    induction records with
    | nil => rfl
    | cons record records ih =>
      have here := StateDescription.flatten_of_named (named _ List.mem_cons_self)
      have rest := ih fun state member => named state (List.mem_cons_of_mem _ member)
      rw [List.mapM_cons, here, rest]
      rfl
  unfold build
  rw [each]
  rfl

theorem build_of_unnamed {state : State} (member : state ∈ description.flattened)
    (unnamed : state.name = "") : description.build = .error (.malformed .missingIdentifier) := by
  have fails : description.states.mapM StateDescription.flatten =
      .error (.malformed .missingIdentifier) := by
    unfold flattened at member
    generalize description.states = records at member ⊢
    induction records with
    | nil => cases member
    | cons record records ih =>
      rw [List.mapM_cons]
      by_cases here : record.flattened.name = ""
      · rw [StateDescription.flatten_of_unnamed here]
        rfl
      · rcases List.mem_cons.1 member with rfl | later
        · exact absurd unnamed here
        · rw [StateDescription.flatten_of_named here, ih later]
          rfl
  unfold build
  rw [fails]
  rfl

/-- **A machine is built if the description gives it**, and only then. -/
theorem build_eq_ok_iff :
    description.build = .ok machine ↔ description.Gives description.flattened machine := by
  by_cases unnamed : ∃ state ∈ description.flattened, state.name = ""
  · obtain ⟨state, member, empty⟩ := unnamed
    rw [build_of_unnamed member empty]
    constructor
    · intro built
      cases built
    · intro gives
      exact absurd empty (gives.built.ofStates.named state (gives.states.mem_iff.1 member))
  · rw [build_of_named fun state member empty => unnamed ⟨state, member, empty⟩]
    unfold Machine.ofStates?
    constructor
    · intro built
      cases made : ofStates? description.flattened with
      | error fault => rw [made] at built; cases built
      | ok chart =>
        rw [made] at built
        cases built
        obtain ⟨whole, perm⟩ := ofStates?_eq_ok_iff_perm.1 made
        exact ⟨whole, perm, whole.ascending, rfl, rfl, rfl, rfl⟩
    · intro gives
      obtain ⟨chart, name, current, history, datamodel⟩ := machine
      rw [ofStates?_eq_ok_iff_perm.2 ⟨gives.built, gives.states⟩]
      cases gives.name
      cases gives.datamodel
      cases gives.current
      cases gives.history
      rfl

/-- **Building fails with what is wrong with the described states.** -/
theorem build_eq_error_iff : description.build = .error fault ↔
    Rejects .missingIdentifier description.flattened fault := by
  by_cases unnamed : ∃ state ∈ description.flattened, state.name = ""
  · obtain ⟨state, member, empty⟩ := unnamed
    rw [build_of_unnamed member empty]
    constructor
    · intro told
      cases told
      exact .unnamed member empty
    · intro rejects
      rw [rejects.unique (.unnamed member empty)]
  · have named : ∀ state ∈ description.flattened, state.name ≠ "" :=
      fun state member empty => unnamed ⟨state, member, empty⟩
    have told : ofStates? description.flattened = .error fault ↔
        Rejects .missingIdentifier description.flattened fault :=
      ofStates?_eq_error_iff.trans ⟨.of_named named, .of_named named⟩
    rw [build_of_named named, ← told]
    unfold Machine.ofStates?
    cases ofStates? description.flattened with
    | error other => exact ⟨fun same => by cases same; rfl, fun same => by cases same; rfl⟩
    | ok chart => exact ⟨fun same => (nomatch same), fun same => (nomatch same)⟩

/-- The records of a description describe one list of states. -/
theorem describes_iff {declared : List State} :
    List.Forall₂ StateDescription.Describes description.states declared ↔
      declared = description.flattened := by
  have same : StateDescription.Describes = fun record state => record.flattened = state := by
    funext record state
    exact propext (StateDescription.describes_iff.trans eq_comm)
  rw [same, ← List.forall₂_map_left_iff, List.forall₂_eq_eq_eq]
  exact eq_comm

/-- **What building answers.** The records describe one list of states. A machine is built exactly
if these make a chart, and it is the one that the description gives. Otherwise it is told which
condition fails first, and what comes first among the offenders. -/
theorem build_described (description : Description) :
    ∃ declared, (∀ states, List.Forall₂ StateDescription.Describes description.states states ↔
        states = declared) ∧
      ((∃ machine, description.build = .ok machine) ↔ Coherent declared) ∧
      (∀ machine, description.build = .ok machine ↔ description.Gives declared machine) ∧
      ∀ fault, description.build = .error fault ↔ Rejects .missingIdentifier declared fault := by
  refine ⟨description.flattened, fun _ => describes_iff, ?_, fun _ => build_eq_ok_iff,
    fun _ => build_eq_error_iff⟩
  constructor
  · rintro ⟨machine, built⟩
    have gives := build_eq_ok_iff.1 built
    exact coherent_of_ofStates? (ofStates?_eq_ok_iff_perm.2 ⟨gives.built, gives.states⟩)
  · intro coherent
    cases answer : description.build with
    | ok machine => exact ⟨machine, rfl⟩
    | error fault => exact absurd (build_eq_error_iff.1 answer) coherent.not_rejects

/-! ### Order -/

/-- **The same description in another order**, of its records and of the sub-states of each. -/
structure Rearranges (first second : Description) : Prop where
  name : first.name = second.name
  datamodel : first.datamodel = second.datamodel
  states : ∃ records, first.states.Perm records ∧
    List.Forall₂ StateDescription.Rearranges records second.states

/-- It describes the same states. -/
theorem Rearranges.flattened (rearranges : first.Rearranges second) :
    first.flattened.Perm second.flattened := by
  obtain ⟨records, perm, each⟩ := rearranges.states
  have same : records.map StateDescription.flattened =
      second.states.map StateDescription.flattened := by
    rw [← List.forall₂_eq_eq_eq, List.forall₂_map_left_iff, List.forall₂_map_right_iff]
    exact each.imp fun _ _ rearranged => rearranged.flattened
  unfold Description.flattened
  rw [← same]
  exact perm.map _

/-- **In which order a description lists its records and their sub-states is no matter.** The same
machine is built, or the same is told. -/
theorem build_rearranged (rearranges : first.Rearranges second) : first.build = second.build := by
  symm
  cases answer : first.build with
  | ok machine =>
    have gives := build_eq_ok_iff.1 answer
    exact build_eq_ok_iff.2
      { gives with
        states := rearranges.flattened.symm.trans gives.states
        name := rearranges.name ▸ gives.name
        datamodel := rearranges.datamodel ▸ gives.datamodel }
  | error fault =>
    exact build_eq_error_iff.2 ((build_eq_error_iff.1 answer).perm rearranges.flattened)

/-! ### A house -/

/-- A hall from which one enters an attic and a cellar. -/
def hall : StateDescription :=
  { StateDescription.new "hall" with isInitial := true, subStates := ["attic", "cellar"] }

/-- The house of that hall. -/
def house : Description where
  states := [hall, .new "attic", .new "cellar"]

/-- The house described from below. -/
def houseFromBelow : Description where
  states := [.new "cellar", .new "attic", { hall with subStates := ["cellar", "attic"] }]

/-- From below and from above the same house is built. -/
theorem build_rearranged_house : house.Rearranges houseFromBelow ∧
    ∃ machine, house.build = .ok machine ∧ houseFromBelow.build = .ok machine := by
  have kept : ∀ record : StateDescription, record.Rearranges record :=
    fun record => ⟨rfl, rfl, rfl, rfl, rfl, .refl _⟩
  have turned : hall.Rearranges { hall with subStates := ["cellar", "attic"] } :=
    ⟨rfl, rfl, rfl, rfl, rfl, .swap "cellar" "attic" []⟩
  have rearranges : house.Rearranges houseFromBelow :=
    ⟨rfl, rfl, [.new "cellar", .new "attic", hall], List.reverse_perm _ |>.symm,
      .cons (kept _) (.cons (kept _) (.cons turned .nil))⟩
  have coherent : Coherent house.flattened := by decide
  refine ⟨rearranges, ?_⟩
  cases answer : house.build with
  | ok machine => exact ⟨machine, rfl, (build_rearranged rearranges).symm.trans answer⟩
  | error fault => exact absurd (build_eq_error_iff.1 answer) coherent.not_rejects

end Description

end Statechart
