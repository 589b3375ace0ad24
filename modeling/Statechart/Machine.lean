/-
**Machines.**

A machine is a chart in motion: the state it is in, the transitions that brought it there, and the
data it carries. Its owner is a datum among the others.
-/

import Statechart.Chart.Basic

namespace Statechart

open Json

/-- The data of a machine. -/
abbrev Datamodel := Dict String Value

/-- The name under which a machine's owner is kept. -/
def ownerKey : String := "owner"

namespace Datamodel

/-- The owner, if the datum of that name is a text. -/
def owner? (datamodel : Datamodel) : Option String := do
  let value ← datamodel.get? ownerKey
  value.string?

/-- Equality of data that may be missing, numbers being compared as numbers. -/
def sameDatum : Option Value → Option Value → Bool
  | none, none => true
  | some first, some second => first.equal second
  | _, _ => false

/-- Changed data with the owner that they had before the change. -/
def keepOwner (before after : Datamodel) : Datamodel :=
  if sameDatum (before.get? ownerKey) (after.get? ownerKey) then after
  else
    match before.get? ownerKey with
    | some owner => after.insert ownerKey owner
    | none => after.erase ownerKey

/-- Data with the fields of a payload put in their places. The owner is no field of a payload. -/
def merge (datamodel : Datamodel) : Value → Datamodel
  | .record fields =>
    fields.foldl (fun data field =>
      if field.1 = ownerKey then data else data.insert field.1 field.2) datamodel
  | _ => datamodel

end Datamodel

/-- How a transition came about. -/
inductive Status
  /-- The first transition, to the initial state. -/
  | initial
  /-- An event that was sent. -/
  | event
  /-- An event that a trigger produced. -/
  | trigger
  deriving DecidableEq, Repr, Inhabited

/-- The name of a status in dumps. -/
def Status.name : Status → String
  | .initial => "initial"
  | .event => "event"
  | .trigger => "trigger"

/-- The status of a name. -/
def Status.ofName? (name : String) : Option Status :=
  [Status.initial, .event, .trigger].find? fun status => status.name = name

/-- One transition that was made. -/
structure HistoryRecord where
  /-- The time in milliseconds. -/
  timestamp : Int
  /-- The event that caused it, none for the first one. -/
  event : Option String
  /-- The state that was left, none for the first one. -/
  source : Option String
  /-- The state that was entered. -/
  state : String
  status : Status
  deriving DecidableEq, Inhabited

/-- A record as a value. -/
def HistoryRecord.toValue (record : HistoryRecord) : Value :=
  .record
    [("timestamp", .integer record.timestamp), ("event", .optionalString record.event),
     ("src", .optionalString record.source), ("state", .string record.state),
     ("status", .string record.status.name)]

/-- A chart in motion. -/
structure Machine where
  chart : Chart
  /-- The type of the machine. -/
  name : String
  /-- The position of the state it is in, none before it is started. -/
  current : Option Nat
  history : List HistoryRecord
  datamodel : Datamodel

namespace Machine

/-- A machine at rest, with the chart of some states. -/
def ofStates? (name : String) (states : List State) (datamodel : Datamodel) :
    Except ChartFault Machine := do
  let chart ← Chart.ofStates? states
  return { chart, name, current := none, history := [], datamodel }

/-- The owner of a machine. -/
def owner? (machine : Machine) : Option String := machine.datamodel.owner?

/-- The machine with an owner. -/
def withOwner (machine : Machine) (owner : String) : Machine :=
  { machine with datamodel := machine.datamodel.insert ownerKey (.string owner) }

/-- The place the machine is in. -/
def currentPlace? (machine : Machine) : Option Place := do
  let position ← machine.current
  machine.chart.place? position

/-- The state the machine is in. -/
def currentState? (machine : Machine) : Option State := machine.currentPlace?.map Place.state

/-- Whether the machine was started. -/
def isStarted (machine : Machine) : Bool := machine.current.isSome

/-- The machine after a transition. -/
def commit (machine : Machine) (position : Nat) (record : HistoryRecord) : Machine :=
  { machine with current := some position, history := machine.history ++ [record] }

/-- Equality of machines: the same definition, type, position, history and data. -/
def equal (first second : Machine) : Bool :=
  first.chart.id = second.chart.id && first.name = second.name &&
    first.chart.states = second.chart.states && first.chart.initial = second.chart.initial &&
    first.chart.finals = second.chart.finals && first.current = second.current &&
    first.history = second.history &&
    Value.equalFields first.datamodel.entries second.datamodel.entries

instance : BEq Machine := ⟨equal⟩

end Machine

end Statechart
