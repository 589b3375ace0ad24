/-
**Descriptions of charts.**

A description is a list of state records, with a name and the data that machines start with. A
record may list sub-states: each of them becomes the destination of an event made up for it, and
nothing else remains of the nesting when the chart is built.

* `StateDescription.flatten` turns a record into a state.
* `Description.build` builds a machine at rest, or says what is wrong.
-/

import Statechart.Machine

namespace Statechart

open Json

/-- The start of the names of events made up for sub-states. -/
def subStateEventStart : String := "~do_goto_"

/-- The name of the event made up for a sub-state. -/
def subStateEvent (name : String) : String := subStateEventStart ++ name

/-- One state record of a description. -/
structure StateDescription where
  identifier : Option String := none
  isInitial : Bool := false
  /-- Whether a machine ends there; if this is not said, it ends where no event leads on. -/
  isFinal : Option Bool := none
  events : Dict String String := ∅
  hooks : Hooks := {}
  /-- The names of the sub-states. -/
  subStates : List String := []
  deriving DecidableEq, Inhabited

namespace StateDescription

/-- The record of a state of which only the identifier is known. -/
def new (identifier : String) : StateDescription := { identifier := some identifier }

/-- The record with one more event. -/
def on (description : StateDescription) (event target : String) : StateDescription :=
  { description with events := description.events.insert event target }

/-- The record with one more sub-state. -/
def subState (description : StateDescription) (name : String) : StateDescription :=
  { description with subStates := description.subStates ++ [name] }

/-- The record with an identifier for a hook. -/
def hook (description : StateDescription) (kind : HookKind) (identifier : String) :
    StateDescription :=
  let hooks := description.hooks
  { description with
    hooks :=
      match kind with
      | .onEnter => { hooks with onEnter := some identifier }
      | .onExit => { hooks with onExit := some identifier }
      | .onChange => { hooks with onChange := some identifier }
      | .trigger => { hooks with trigger := some identifier }
      | .action => { hooks with action := some identifier } }

/-- The events of a record and those made up for its sub-states, the former winning. -/
def flatEvents (description : StateDescription) : Dict String String :=
  description.subStates.foldl (fun events name => events.insertNew (subStateEvent name) name)
    description.events

/-- The state that a record describes. -/
def flatten (description : StateDescription) : Except ChartFault State :=
  match description.identifier with
  | none => .error (.malformed .missingIdentifier)
  | some name =>
    if name.isEmpty then .error (.malformed .missingIdentifier)
    else
      let events := description.flatEvents
      .ok {
        name
        events
        hooks := description.hooks
        isInitial := description.isInitial
        isFinal := description.isFinal.getD events.isEmpty }

/-- A record as a value; what is not said is left out. -/
def toValue (description : StateDescription) : Value :=
  let optional {α : Type} (name : String) (write : α → Value) : Option α → List (String × Value)
    | none => []
    | some value => [(name, write value)]
  .record <|
    optional "id" .string description.identifier ++ [("initial", .bool description.isInitial)] ++
      optional "final" .bool description.isFinal ++
      [("events", State.eventsValue description.events)] ++ description.hooks.fields ++
      if description.subStates.isEmpty then []
      else [("substates", .list (description.subStates.map .string))]

end StateDescription

/-- A description of a chart. -/
structure Description where
  /-- The type of the machines. -/
  name : Option String := none
  states : List StateDescription := []
  /-- The data that machines start with. -/
  datamodel : Datamodel := ∅
  deriving Inhabited

namespace Description

/-- Equality of descriptions, numbers being compared as numbers. -/
def equal (first second : Description) : Bool :=
  first.name = second.name && first.states = second.states &&
    Value.equalFields first.datamodel.entries second.datamodel.entries

instance : BEq Description := ⟨equal⟩

/-- A description as a value; a missing name and empty data are left out. -/
def toValue (description : Description) : Value :=
  let name :=
    match description.name with
    | none => []
    | some name => [("name", Value.string name)]
  let datamodel :=
    if description.datamodel.isEmpty then []
    else [("datamodel", Value.ofDict description.datamodel)]
  let states := Value.list (description.states.map StateDescription.toValue)
  .record (name ++ [("states", states)] ++ datamodel)

/-- The machine at rest that a description gives. -/
def build (description : Description) : Except ChartFault Machine := do
  let states ← description.states.mapM StateDescription.flatten
  Machine.ofStates? (description.name.getD "") states description.datamodel

end Description

end Statechart
