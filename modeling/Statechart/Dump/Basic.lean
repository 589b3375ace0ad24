/-
**Dumps.**

A dump says all of a machine in names: the states of its chart, what follows from them, and where
the machine is. `toMachine?` builds the chart again from the states alone and then holds the rest of
the dump against it, so a dump is accepted only if it describes one chart throughout.
-/

import Statechart.Machine
import Statechart.Error

namespace Statechart

open Json

/-- What is recorded of a machine. -/
structure Dump where
  chartId : String
  /-- The type of the machine. -/
  name : String
  /-- The state the machine is in. -/
  current : Option String
  initial : String
  finals : List String
  states : List State
  transitions : List Chart.Triple
  history : List HistoryRecord
  datamodel : Datamodel

namespace Dump

/-- The dump of a machine. -/
def ofMachine (machine : Machine) : Dump where
  chartId := machine.chart.id
  name := machine.name
  current := machine.currentState?.map State.name
  initial := machine.chart.initialPlace.state.name
  finals := machine.chart.finalStates.map State.name
  states := machine.chart.states
  transitions := machine.chart.triples
  history := machine.history
  datamodel := machine.datamodel

/-- Names in ascending order. -/
def sortedNames (names : List String) : List String :=
  names.mergeSort fun first second => first ≤ second

/-- Whether a route stands before another or is the same, by event, source and target. -/
def precedes (first second : Chart.Triple) : Bool :=
  if first.event = second.event then
    if first.source = second.source then first.target ≤ second.target
    else first.source ≤ second.source
  else first.event ≤ second.event

/-- Routes in ascending order. -/
def sortedTriples (triples : List Chart.Triple) : List Chart.Triple := triples.mergeSort precedes

/-- The position of the state that a dump calls current. -/
def position? (chart : Chart) : Option String → Except DumpFault (Option Nat)
  | none => .ok none
  | some name =>
    match chart.index.get? name with
    | some position => .ok (some position)
    | none => .error (.currentState name)

/-- The machine that a dump describes. -/
def toMachine? (dump : Dump) : Except DumpFault Machine :=
  match Chart.ofStates? dump.states with
  | .error fault => .error (.chart fault)
  | .ok chart =>
    if chart.id ≠ dump.chartId then .error (.identifier dump.chartId chart.id)
    else if chart.initialPlace.state.name ≠ dump.initial then
      .error (.initialState dump.initial chart.initialPlace.state.name)
    else if sortedNames dump.finals ≠ chart.finalStates.map State.name then .error .finalStates
    else if sortedTriples dump.transitions ≠ chart.triples then .error .transitions
    else do
      let current ← position? chart dump.current
      let history := dump.history
      return { chart, name := dump.name, current, history, datamodel := dump.datamodel }

/-- A route as a value. -/
def tripleValue (triple : Chart.Triple) : Value :=
  .list [.string triple.event, .list [.string triple.source, .string triple.target]]

/-- The names of the fields of a dump, in order. -/
def fieldNames : List String :=
  ["chart_id", "name", "current_state", "initial_state", "final_states", "states", "transitions",
   "history", "datamodel"]

/-- A dump as a value. -/
def toValue (dump : Dump) : Value :=
  .record <| fieldNames.zip
    [.string dump.chartId, .string dump.name, .optionalString dump.current, .string dump.initial,
     .list (dump.finals.map .string), .list (dump.states.map State.toValue),
     .list (dump.transitions.map tripleValue), .list (dump.history.map HistoryRecord.toValue),
     .ofDict dump.datamodel]

end Dump

end Statechart
