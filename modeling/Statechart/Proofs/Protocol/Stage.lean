/-
**The stages of a transition.**

A transition goes through a fixed list of stages. At each of them something is called, the machine
moves, or the flush hook is told. This module says which stages a transition has and what each of
them does, without the engine that goes through them.

* `Assigned.of`: what is called for a hook: the override of the state, else what the declared
  identifier stands for, else nothing.
* `Move.stages`: the stages of a transition in their order.
* `Stage.perform`: what one stage does, and whether it fails.
-/

import Statechart.Runner.Engine

namespace Statechart

open Json

variable {σ α : Type}

/-! ### Who is called -/

/-- What stands at a hook of a state. -/
inductive Assigned (σ α : Type)
  | nothing
  | known (callable : Callable σ α)
  /-- An identifier is declared and stands for nothing. -/
  | undefined (identifier : String)

/-- What stands at a hook, given what the overrides bind to it, the identifier that the state
declares, and what identifiers stand for. -/
def Assigned.of (bound : Option (Callable σ α)) (declared : Option String)
    (resolve : String → Option (Callable σ α)) : Assigned σ α :=
  match bound, declared with
  | some callable, _ => .known callable
  | none, none => .nothing
  | none, some identifier =>
    match resolve identifier with
    | some callable => .known callable
    | none => .undefined identifier

/-- What stands at the callback of a kind of a state. -/
def Setup.callbackOf (setup : Setup σ) (state : State) (kind : HookKind) : Assigned σ Unit :=
  .of (setup.overrides.callback? state.name kind) (state.hooks.get kind) fun identifier =>
    setup.resolver.callback? identifier state.name kind

/-- What stands at the trigger of a state. -/
def Setup.triggerOf (setup : Setup σ) (state : State) : Assigned σ String :=
  .of (setup.overrides.trigger? state.name) (state.hooks.get .trigger) fun identifier =>
    setup.resolver.trigger? identifier state.name

/-! ### What is done -/

namespace Motion

/-- What a call for a transition gives and leaves. The owner stays what it was. -/
def call (motion : Motion σ) (callable : Callable σ α) (move : Move) (payload : Value) :
    Except Error α × Motion σ :=
  let { machine, world } := motion
  let reply := callable (move.view machine payload) machine.datamodel world
  let datamodel := machine.datamodel.keepOwner reply.datamodel
  (reply.result, { machine := { machine with datamodel }, world := reply.world })

/-- The motion after a transition is made, the payload being merged if that is asked for. -/
def commit [Clocked σ] (motion : Motion σ) (merges : Bool) (move : Move) (payload : Value) :
    Motion σ :=
  let { machine, world } := motion
  let (timestamp, world) := Clocked.now world
  let moved := machine.commit move.destination.position (move.record timestamp)
  let datamodel := if merges then machine.datamodel.merge payload else machine.datamodel
  { machine := { moved with datamodel }, world }

/-- What a flush hook says of the machine, and the motion afterwards. -/
def tell (motion : Motion σ) (hook : FlushHook σ) : Except Error Unit × Motion σ :=
  let (result, world) := hook motion.machine motion.world
  (result.mapError .flush, { motion with world })

end Motion

/-! ### Stages -/

/-- One place of a transition at which something may be done. -/
inductive Stage
  /-- The callback of a kind of a state. -/
  | hook (kind : HookKind) (state : State)
  /-- The machine moves. -/
  | commit
  /-- The flush hook is told. -/
  | flush
  /-- The trigger of a state. -/
  | trigger (state : State)

/-- The stages at the source of a transition. -/
def Move.departure (options : RunnerOptions) (move : Move) : List Stage :=
  match move.source with
  | none => []
  | some source =>
    .hook .onExit source.state ::
      if options.sourceOnChange then [.hook .onChange source.state] else []

/-- The stages of a transition in their order. -/
def Move.stages (setup : Setup σ) (move : Move) : List Stage :=
  let destination := move.destination.state
  move.departure setup.options ++ [.hook .onEnter destination, .commit] ++
    (if setup.autosave && setup.flushHook.isSome then [.flush] else []) ++
    [.hook .onChange destination, .hook .action destination, .trigger destination]

theorem Move.stages_ne_nil (move : Move) (setup : Setup σ) : move.stages setup ≠ [] := by
  unfold Move.stages
  simp

/-- An error, or else the event that a stage asks for, of which only triggers have one. -/
abbrev StageReply := Except Error (Option String)

namespace Stage

/-- What a call at a stage gives, an undefined identifier being an error. -/
def callAssigned (assigned : Assigned σ α) (undefined : String → Error) (event : α → Option String)
    (move : Move) (payload : Value) (motion : Motion σ) : StageReply × Motion σ :=
  match assigned with
  | .nothing => (.ok none, motion)
  | .undefined identifier => (.error (undefined identifier), motion)
  | .known callable =>
    let (result, motion) := motion.call callable move payload
    (result.map event, motion)

/-- What a stage of a transition gives and leaves. -/
def perform [Clocked σ] (setup : Setup σ) (move : Move) (payload : Value) :
    Stage → Motion σ → StageReply × Motion σ
  | .hook kind state, motion =>
    callAssigned (setup.callbackOf state kind) (undefinedHook state.name kind) (fun () => none)
      move payload motion
  | .commit, motion => (.ok none, motion.commit setup.options.mergePayload move payload)
  | .flush, motion =>
    match setup.flushHook with
    | none => (.ok none, motion)
    | some flushHook =>
      let (result, motion) := motion.tell flushHook
      (result.map fun () => none, motion)
  | .trigger state, motion =>
    callAssigned (setup.triggerOf state) (undefinedHook state.name .trigger) some move payload
      motion

end Stage

end Statechart
