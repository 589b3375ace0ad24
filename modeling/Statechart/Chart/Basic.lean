/-
**Charts.**

A chart is a set of states that belong together: one of them is initial, and every event leads to a
declared state. Its states stand in order of name, and a state is known by its position among them.
Names are looked up in an index, and an event and a position in a table of destinations.

* `ofStates?` builds the chart of some states, or says what is wrong with them.
* `contentId` names a chart by its states alone.
-/

import Statechart.Chart.State
import Statechart.Chart.Fault
import Statechart.Json.Printer
import Statechart.Digest.Sha256

namespace Statechart

open Json Text Digest

/-- The destinations of one event: from the position of a state to that of another. -/
abbrev Routes := Dict Nat Nat

/-- A validated chart. -/
structure Chart where
  /-- The identifier of the definition. -/
  id : String
  /-- The states in ascending order of name. -/
  states : List State
  /-- The position of each name. -/
  index : Dict String Nat
  /-- The routes of each event. -/
  table : Dict String Routes
  /-- The position of the initial state. -/
  initial : Nat
  initial_lt : initial < states.length
  /-- The positions of the final states, ascending. -/
  finals : List Nat

/-- A state of a chart together with its position. -/
structure Place where
  position : Nat
  state : State
  deriving DecidableEq

namespace Chart

/-! ### Building -/

/-- States in ascending order of name. -/
def sorted (states : List State) : List State :=
  states.mergeSort fun first second => first.name ≤ second.name

/-- The first of several ascending names that occurs again. -/
def firstRepeated? : List String → Option String
  | first :: second :: rest =>
    if first = second then some first else firstRepeated? (second :: rest)
  | _ => none

/-- The positions of the states with a property, ascending. -/
def positionsOf (property : State → Bool) (states : List State) : List Nat :=
  (List.range states.length).filter fun position => states[position]?.any property

/-- The position of each name. -/
def indexOf (states : List State) : Dict String Nat :=
  Dict.ofList (states.zipIdx.map fun (state, position) => (state.name, position))

/-- One declared event: where it is answered, its name, and the name of its destination. -/
structure Arrow where
  source : Nat
  event : String
  target : String
  deriving DecidableEq

/-- Every declared event, in order of states and of events within a state. -/
def arrows (states : List State) : List Arrow :=
  states.zipIdx.flatMap fun (state, source) =>
    state.events.entries.map fun (event, target) => { source, event, target }

/-- The first declared event that leads to no declared state. -/
def unknownTarget? (states : List State) (index : Dict String Nat) : Option ChartFault :=
  states.findSome? fun state =>
    state.events.entries.findSome? fun (event, target) =>
      if index.contains target then none else some (.unknownTarget state.name event target)

/-- A table with one more route. -/
def addRoute (table : Dict String Routes) (event : String) (source destination : Nat) :
    Dict String Routes :=
  table.insert event (((table.get? event).getD ∅).insert source destination)

/-- The routes of every declared event. -/
def tableOf (states : List State) (index : Dict String Nat) : Dict String Routes :=
  (arrows states).foldl (fun table arrow =>
    match index.get? arrow.target with
    | some destination => addRoute table arrow.event arrow.source destination
    | none => table) ∅

/-- The identifier of states in order: the hash of their canonical text. -/
def contentId (states : List State) : String :=
  hex (sha256 (utf8 (Value.list (states.map State.toValue)).render))

theorem lt_of_mem_positionsOf {property : State → Bool} {states : List State} {position : Nat}
    (member : position ∈ positionsOf property states) : position < states.length :=
  List.mem_range.1 (List.mem_filter.1 member).1

/-- The chart of some states in any order. -/
def ofStates? (declared : List State) : Except ChartFault Chart :=
  let states := sorted declared
  if states.any fun state => state.name.isEmpty then .error (.malformed .emptyIdentifier)
  else
    match firstRepeated? (states.map State.name) with
    | some name => .error (.malformed (.duplicateState name))
    | none =>
      match initials : positionsOf State.isInitial states with
      | [] => .error .noInitialState
      | _ :: _ :: _ =>
        .error (.ambiguousInitialState ((states.filter State.isInitial).map State.name))
      | [initial] =>
        let index := indexOf states
        match unknownTarget? states index with
        | some fault => .error fault
        | none =>
          .ok {
            id := contentId states
            states
            index
            table := tableOf states index
            initial
            initial_lt := lt_of_mem_positionsOf (by rw [initials]; exact List.mem_singleton_self _)
            finals := positionsOf State.isFinal states }

/-! ### Looking up -/

/-- The place at a position. -/
def place? (chart : Chart) (position : Nat) : Option Place :=
  chart.states[position]?.map fun state => { position, state }

/-- The place of a name. -/
def placeOf? (chart : Chart) (name : String) : Option Place := do
  let position ← chart.index.get? name
  chart.place? position

/-- The state of a name. -/
def state? (chart : Chart) (name : String) : Option State := (chart.placeOf? name).map Place.state

/-- The position to which an event leads from a position. -/
def lookup (chart : Chart) (event : String) (source : Nat) : Option Nat := do
  let routes ← chart.table.get? event
  routes.get? source

/-- The place to which an event leads from a position. -/
def destination? (chart : Chart) (event : String) (source : Nat) : Option Place := do
  let position ← chart.lookup event source
  chart.place? position

/-- The state to which an event leads from the state of a name. -/
def transition? (chart : Chart) (event source : String) : Option State := do
  let position ← chart.index.get? source
  let place ← chart.destination? event position
  return place.state

/-- The declared events, ascending. -/
def events (chart : Chart) : List String := chart.table.keys

/-- Whether any state declares an event. -/
def isRegistered (chart : Chart) (event : String) : Bool := chart.table.contains event

/-- The initial state with its position. -/
def initialPlace (chart : Chart) : Place :=
  { position := chart.initial, state := chart.states.get ⟨chart.initial, chart.initial_lt⟩ }

/-- The final states, in order of name. -/
def finalStates (chart : Chart) : List State :=
  chart.finals.filterMap fun position => chart.states[position]?

/-- Whether the state at a position is final. -/
def isFinalAt (chart : Chart) (position : Nat) : Bool := chart.finals.contains position

/-- The name at a position, which is empty outside the chart. -/
def nameAt (chart : Chart) (position : Nat) : String :=
  (chart.states[position]?.map State.name).getD ""

/-- One route of a chart by names. -/
structure Triple where
  event : String
  source : String
  target : String
  deriving DecidableEq

/-- Every route by names, in order of event and source. -/
def triples (chart : Chart) : List Triple :=
  chart.table.entries.flatMap fun (event, routes) =>
    routes.entries.map fun (source, destination) =>
      { event, source := chart.nameAt source, target := chart.nameAt destination }

/-- Equality of the identifiers of two charts. -/
def sameDefinition (first second : Chart) : Bool := first.id = second.id

end Chart

end Statechart
