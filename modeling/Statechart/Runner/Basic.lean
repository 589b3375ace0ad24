/-
**Runners.**

A runner holds at most one machine and drives it. It is unloaded, or loaded, or loaded with a
machine that was started.

* `load` and its kin replace the machine. If they fail, the runner is left unloaded.
* `start` makes the first transition, and `send` one for an event.
* The others only look.
-/

import Statechart.Runner.Engine
import Statechart.Description.Basic
import Statechart.Dump.Codec

namespace Statechart

open Json Text

/-- A machine or none, and what is needed to drive it. -/
structure Runner (σ : Type) extends Setup σ where
  machine : Option Machine := none

namespace Runner

variable {σ : Type}

/-- An unloaded runner. -/
def new (resolver : Resolver σ) (options : RunnerOptions) : Runner σ := { resolver, options }

/-! ### Loading -/

/-- The runner without a machine. -/
def clear (runner : Runner σ) : Runner σ := { runner with machine := none }

/-- The error of a state's hook, if the state declares one that stands for nothing. -/
def hookFault? (setup : Setup σ) (state : State) (kind : HookKind) : Option Error :=
  match state.hooks.get kind with
  | none => none
  | some identifier =>
    if setup.overrides.covers state.name kind then none
    else if setup.resolver.canResolve identifier state.name kind then none
    else some (undefinedHook state.name kind identifier)

/-- The error of the first declared hook that stands for nothing, by state and kind. -/
def firstFault? (setup : Setup σ) (chart : Chart) : Option Error :=
  chart.states.findSome? fun state => HookKind.all.findSome? (hookFault? setup state)

/-- Loads a machine, wherever it is. -/
def load (runner : Runner σ) (machine : Machine) : Except Error Unit × Runner σ :=
  let fault? :=
    if runner.options.verifyCallbacksOnLoad then firstFault? runner.toSetup machine.chart else none
  match fault? with
  | some error => (.error error, runner.clear)
  | none => (.ok (), { runner with machine := some machine })

/-- Loads the machine of a dump in either form. -/
def loadDump (runner : Runner σ) (bytes : Bytes) : Except Error Unit × Runner σ :=
  match Machine.decode? bytes with
  | .error fault => (.error (.invalidModel fault), runner.clear)
  | .ok machine => runner.load machine

/-- Loads the machine of a description. -/
def loadDescription (runner : Runner σ) (description : Description) :
    Except Error Unit × Runner σ :=
  match description.build with
  | .error fault => (.error (.chart fault), runner.clear)
  | .ok machine => runner.load machine

/-! ### Looking -/

/-- Whether there is a machine. -/
def isLoaded (runner : Runner σ) : Bool := runner.machine.isSome

/-- Whether there is a machine that was started. -/
def isStarted (runner : Runner σ) : Bool := runner.machine.any Machine.isStarted

/-- The machine. -/
def loaded (runner : Runner σ) : Except Error Machine :=
  match runner.machine with
  | some machine => .ok machine
  | none => .error .notLoaded

/-- The machine and where it is. -/
def started (runner : Runner σ) : Except Error (Machine × Place) := do
  let machine ← runner.loaded
  match machine.currentPlace? with
  | some place => return (machine, place)
  | none => throw .notStarted

/-- Whether the machine is of a type and belongs to an owner. -/
def isOccupiedBy (runner : Runner σ) (owner name : String) : Bool :=
  runner.machine.any fun machine => machine.name = name && machine.owner? = some owner

/-- Whether an event leads on from the current state. -/
def canSend (runner : Runner σ) (event : String) : Except Error Bool := do
  let machine ← runner.loaded
  match machine.current with
  | none => return false
  | some position => return (machine.chart.lookup event position).isSome

/-- The events that lead on from the current state, with their destinations. -/
def possibleTransitions (runner : Runner σ) : Except Error (Dict String String) := do
  let (_, place) ← runner.started
  return place.state.events

/-- The current state. -/
def currentState (runner : Runner σ) : Except Error State := do
  let (_, place) ← runner.started
  return place.state

/-- Whether the current state has a name. -/
def isIn (runner : Runner σ) (name : String) : Except Error Bool := do
  let (_, place) ← runner.started
  return place.state.name = name

/-- Whether the current state is final. -/
def isFinished (runner : Runner σ) : Except Error Bool := do
  let (machine, place) ← runner.started
  return machine.chart.isFinalAt place.position

/-- Whether the current state is the initial one. -/
def isInitial (runner : Runner σ) : Except Error Bool := do
  let (machine, place) ← runner.started
  return place.position = machine.chart.initial

/-- The transitions that were made. -/
def history (runner : Runner σ) : Except Error (List HistoryRecord) := do
  let machine ← runner.loaded
  return machine.history

/-- The bytes of the machine's dump. -/
def dump (runner : Runner σ) (format : DumpFormat) : Except Error Bytes := do
  let machine ← runner.loaded
  return machine.encode format

/-! ### Driving -/

/-- The runner with changed data. -/
def modifyData (runner : Runner σ) (change : Datamodel → Datamodel) :
    Except Error Unit × Runner σ :=
  match runner.machine with
  | none => (.error .notLoaded, runner)
  | some machine =>
    (.ok (), { runner with machine := some { machine with datamodel := change machine.datamodel } })

/-- Runs a step of the engine on a machine. -/
def drive {α : Type} (runner : Runner σ) (machine : Machine) (step : Engine σ α) (world : σ) :
    Except Error α × Runner σ × σ :=
  let (result, motion) := (ExceptT.run step).run { machine, world }
  (result, { runner with machine := some motion.machine }, motion.world)

/-- Tells the flush hook of the machine. -/
def flush (runner : Runner σ) (world : σ) : Except Error Unit × Runner σ × σ :=
  match runner.machine with
  | none => (.error .notLoaded, runner, world)
  | some machine => runner.drive machine (Engine.flush runner.toSetup) world

/-- Makes the first transition, and says whether it was not made before. -/
def start [Clocked σ] (runner : Runner σ) (payload : Value) (world : σ) :
    Except Error Bool × Runner σ × σ :=
  match runner.machine with
  | none => (.error .notLoaded, runner, world)
  | some machine =>
    if machine.isStarted then (.ok false, runner, world)
    else
      let step := Engine.transition runner.toSetup (.initial machine.chart) payload
      runner.drive machine (do step; return true) world

/-- The transition on an event from the current state. -/
def moveOn (runner : Runner σ) (event : String) : Except Error (Machine × Move) := do
  let (machine, place) ← runner.started
  match machine.chart.destination? event place.position with
  | some destination => return (machine, .between .event event place destination)
  | none =>
    if machine.chart.isRegistered event then throw (.impossibleEvent event place.state.name)
    else throw (.unregisteredEvent event)

/-- Makes the transition on an event. -/
def send [Clocked σ] (runner : Runner σ) (event : String) (payload : Value) (world : σ) :
    Except Error Bool × Runner σ × σ :=
  match runner.moveOn event with
  | .error error => (.error error, runner, world)
  | .ok (machine, move) =>
    let step := Engine.transition runner.toSetup move payload
    runner.drive machine (do step; return true) world

end Runner

end Statechart
