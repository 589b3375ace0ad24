/-
**Transitions.**

Every transition goes through the same steps: the source is left, the destination is entered, the
machine moves, the flush hook is told, and the destination is told of the change, acts and triggers.
The event of a trigger is sent next, so transitions form a chain of bounded length.

* `apply`: the steps of one transition up to the action.
* `nextMove?`: the transition that a trigger asks for.
* `transition`: a transition and those that follow from it.
-/

import Statechart.Runner.Options
import Statechart.Callback.Registry
import Statechart.Callback.Overrides

namespace Statechart

open Json

/-- A world with a clock. Reading the time may change the world. -/
class Clocked (σ : Type) where
  /-- The time in milliseconds. -/
  now : σ → Int × σ

/-- What is told of every move. It may refuse. -/
abbrev FlushHook (σ : Type) := Machine → σ → Except FlushFault Unit × σ

/-- What the engine is given besides the machine. -/
structure Setup (σ : Type) where
  resolver : Resolver σ
  overrides : Overrides σ := ∅
  options : RunnerOptions := {}
  flushHook : Option (FlushHook σ) := none
  /-- Whether every move is flushed. -/
  autosave : Bool := true

/-- One transition before it is made. -/
structure Move where
  event : Option String
  source : Option Place
  destination : Place
  status : Status

namespace Move

/-- The first transition of a chart. -/
def initial (chart : Chart) : Move where
  event := none
  source := none
  destination := chart.initialPlace
  status := .initial

/-- A transition on an event. -/
def between (status : Status) (event : String) (source destination : Place) : Move where
  event := some event
  source := some source
  destination := destination
  status := status

/-- What a callable is shown of a transition. -/
def view (move : Move) (machine : Machine) (payload : Value) : View where
  chartId := machine.chart.id
  name := machine.name
  event := move.event
  payload := payload
  source := move.source.map Place.state
  destination := move.destination.state

/-- The record of a transition made at a time. -/
def record (move : Move) (timestamp : Int) : HistoryRecord where
  timestamp := timestamp
  event := move.event
  source := move.source.map fun place => place.state.name
  state := move.destination.state.name
  status := move.status

end Move

/-- A machine and the world around it. -/
structure Motion (σ : Type) where
  machine : Machine
  world : σ

/-- A step of the engine. What was done before a failure stays done. -/
abbrev Engine (σ α : Type) := ExceptT Error (StateM (Motion σ)) α

namespace Engine

variable {σ α : Type}

/-- Calls a callable for a transition. The owner stays what it was. -/
def call (callable : Callable σ α) (move : Move) (payload : Value) : Engine σ α := do
  let { machine, world } ← get
  let reply := callable (move.view machine payload) machine.datamodel world
  let datamodel := machine.datamodel.keepOwner reply.datamodel
  set ({ machine := { machine with datamodel }, world := reply.world } : Motion σ)
  MonadExcept.ofExcept reply.result

/-- The callback of a kind for a state, if there is one. -/
def callback? (setup : Setup σ) (state : State) (kind : HookKind) :
    Except Error (Option (Callback σ)) :=
  match setup.overrides.callback? state.name kind with
  | some callback => .ok (some callback)
  | none =>
    match state.hooks.get kind with
    | none => .ok none
    | some identifier =>
      match setup.resolver.callback? identifier state.name kind with
      | some callback => .ok (some callback)
      | none => .error (undefinedHook state.name kind identifier)

/-- The trigger for a state, if there is one. -/
def trigger? (setup : Setup σ) (state : State) : Except Error (Option (Trigger σ)) :=
  match setup.overrides.trigger? state.name with
  | some trigger => .ok (some trigger)
  | none =>
    match state.hooks.trigger with
    | none => .ok none
    | some identifier =>
      match setup.resolver.trigger? identifier state.name with
      | some trigger => .ok (some trigger)
      | none => .error (undefinedHook state.name .trigger identifier)

/-- Calls the callback of a kind for a state, if there is one. -/
def fire (setup : Setup σ) (kind : HookKind) (state : State) (move : Move) (payload : Value) :
    Engine σ Unit := do
  match ← MonadExcept.ofExcept (callback? setup state kind) with
  | none => return ()
  | some callback => call callback move payload

/-- Tells the flush hook of the machine as it is. -/
def flush (setup : Setup σ) : Engine σ Unit := do
  match setup.flushHook with
  | none => return ()
  | some hook =>
    let { machine, world } ← get
    let (result, world) := hook machine world
    set ({ machine, world } : Motion σ)
    match result with
    | .ok () => return ()
    | .error fault => throw (.flush fault)

/-- Moves the machine, and puts the fields of the payload into its data if that is asked for. -/
def commit [Clocked σ] (setup : Setup σ) (move : Move) (payload : Value) : Engine σ Unit := do
  let { machine, world } ← get
  let (timestamp, world) := Clocked.now world
  let machine := machine.commit move.destination.position (move.record timestamp)
  let datamodel :=
    if setup.options.mergePayload then machine.datamodel.merge payload else machine.datamodel
  set ({ machine := { machine with datamodel }, world } : Motion σ)

/-- Leaves the source of a transition. -/
def leave (setup : Setup σ) (move : Move) (payload : Value) : Engine σ Unit := do
  match move.source with
  | none => return ()
  | some source =>
    fire setup .onExit source.state move payload
    if setup.options.sourceOnChange then fire setup .onChange source.state move payload

/-- Makes a transition, up to the action of its destination. -/
def apply [Clocked σ] (setup : Setup σ) (move : Move) (payload : Value) : Engine σ Unit := do
  let destination := move.destination.state
  leave setup move payload
  fire setup .onEnter destination move payload
  commit setup move payload
  if setup.autosave then flush setup
  fire setup .onChange destination move payload
  fire setup .action destination move payload

/-- The event that the trigger of a transition's destination asks for, and where it leads. -/
def nextMove? (setup : Setup σ) (move : Move) (payload : Value) :
    Engine σ (Option (String × Place)) := do
  match ← MonadExcept.ofExcept (trigger? setup move.destination.state) with
  | none => return none
  | some trigger =>
    let event ← call trigger move payload
    let { machine, .. } ← get
    match machine.chart.destination? event move.destination.position with
    | some place => return some (event, place)
    | none => throw (.wrongTrigger event move.destination.state.name)

/-- Makes a transition and then those that its triggers ask for, of which so many are left, and
which may not repeat one of those that were sent before. -/
def chain [Clocked σ] (setup : Setup σ) (payload : Value) :
    Nat → List (Nat × String) → Move → Engine σ Unit
  | left, sent, move => do
    apply setup move payload
    match ← nextMove? setup move payload with
    | none => return ()
    | some (event, destination) =>
      let source := move.destination
      match left with
      | 0 => throw (.triggerChainTooLong setup.options.maxTriggerDepth)
      | left + 1 =>
        if setup.options.detectTriggerCycles && sent.contains (source.position, event) then
          throw (.triggerCycle source.state.name event)
        chain setup payload left ((source.position, event) :: sent)
          (.between .trigger event source destination)

/-- Makes a transition and all those that follow from it. -/
def transition [Clocked σ] (setup : Setup σ) (move : Move) (payload : Value) : Engine σ Unit :=
  chain setup payload setup.options.maxTriggerDepth [] move

end Engine

end Statechart
