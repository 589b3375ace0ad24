/-
**The protocol of starting and sending.**

Starting a runner and sending an event to it are the two calls that make transitions. A call either
declines and leaves everything alone, or it begins with a transition and takes its course.

* `Runner.Declines`: when a call makes no transition, and what it answers then.
* `Runner.Begins`: the transition that a call begins with.
* `Runner.Conducts`: the protocol of a call, from the blocks of its course to what is left.
* `Runner.conducts_iff`: every call keeps the protocol, which fixes its blocks and its outcome.
-/

import Statechart.Proofs.Protocol.Engine
import Statechart.Runner.Basic

namespace Statechart

open Json

variable {σ : Type}

/-- A call that makes transitions. -/
inductive Call
  | start
  | send (event : String)
  deriving DecidableEq

namespace Runner

/-! ### How a call begins -/

/-- The answer of a call that makes no transition. -/
inductive Declines (runner : Runner σ) : Call → Except Error Bool → Prop
  | unloaded {call : Call} (unloaded : runner.machine = none) :
      Declines runner call (.error .notLoaded)
  | started {machine : Machine} (loaded : runner.machine = some machine)
      (started : machine.isStarted = true) : Declines runner .start (.ok false)
  | unstarted {machine : Machine} {event : String} (loaded : runner.machine = some machine)
      (nowhere : machine.currentPlace? = none) : Declines runner (.send event) (.error .notStarted)
  | impossible {machine : Machine} {source : Place} {event : String}
      (loaded : runner.machine = some machine) (here : machine.currentPlace? = some source)
      (nowhere : machine.chart.destination? event source.position = none)
      (registered : machine.chart.isRegistered event = true) :
      Declines runner (.send event) (.error (.impossibleEvent event source.state.name))
  | unregistered {machine : Machine} {source : Place} {event : String}
      (loaded : runner.machine = some machine) (here : machine.currentPlace? = some source)
      (nowhere : machine.chart.destination? event source.position = none)
      (unknown : machine.chart.isRegistered event = false) :
      Declines runner (.send event) (.error (.unregisteredEvent event))

/-- The machine that a call moves, and its first transition. -/
inductive Begins (runner : Runner σ) : Call → Machine → Move → Prop
  | start {machine : Machine} (loaded : runner.machine = some machine)
      (fresh : machine.isStarted = false) :
      Begins runner .start machine (.initial machine.chart)
  | send {machine : Machine} {source destination : Place} {event : String}
      (loaded : runner.machine = some machine) (here : machine.currentPlace? = some source)
      (leads : machine.chart.destination? event source.position = some destination) :
      Begins runner (.send event) machine (.between .event event source destination)

section Beginning

variable {runner : Runner σ} {call : Call} {machine : Machine}

/-- A call that begins with a transition does not decline. -/
theorem Begins.not_declines {move : Move} {answer : Except Error Bool}
    (begins : runner.Begins call machine move) : ¬ runner.Declines call answer := by
  intro declines
  cases begins with
  | start loaded fresh =>
    cases declines with
    | unloaded unloaded => cases loaded.symm.trans unloaded
    | started loaded' started =>
      cases loaded.symm.trans loaded'
      cases fresh.symm.trans started
  | send loaded here leads =>
    cases declines with
    | unloaded unloaded => cases loaded.symm.trans unloaded
    | unstarted loaded' nowhere =>
      cases loaded.symm.trans loaded'
      cases here.symm.trans nowhere
    | impossible loaded' here' nowhere _ =>
      cases loaded.symm.trans loaded'
      cases here.symm.trans here'
      cases leads.symm.trans nowhere
    | unregistered loaded' here' nowhere _ =>
      cases loaded.symm.trans loaded'
      cases here.symm.trans here'
      cases leads.symm.trans nowhere

/-- A call begins with one transition only. -/
theorem Begins.unique {machine' : Machine} {move move' : Move}
    (first : runner.Begins call machine move) (second : runner.Begins call machine' move') :
    machine = machine' ∧ move = move' := by
  cases first with
  | start loaded fresh =>
    cases second with
    | start loaded' _ =>
      cases loaded.symm.trans loaded'
      exact ⟨rfl, rfl⟩
  | send loaded here leads =>
    cases second with
    | send loaded' here' leads' =>
      cases loaded.symm.trans loaded'
      cases here.symm.trans here'
      cases leads.symm.trans leads'
      exact ⟨rfl, rfl⟩

/-- A call declines or begins with a transition. -/
theorem declines_or_begins (runner : Runner σ) (call : Call) :
    (∃ answer, runner.Declines call answer) ∨ ∃ machine move, runner.Begins call machine move := by
  cases loaded : runner.machine with
  | none => exact .inl ⟨_, .unloaded loaded⟩
  | some machine =>
    cases call with
    | start =>
      cases started : machine.isStarted with
      | true => exact .inl ⟨_, .started loaded started⟩
      | false => exact .inr ⟨_, _, .start loaded started⟩
    | send event =>
      cases here : machine.currentPlace? with
      | none => exact .inl ⟨_, .unstarted loaded here⟩
      | some source =>
        cases leads : machine.chart.destination? event source.position with
        | some destination => exact .inr ⟨_, _, .send loaded here leads⟩
        | none =>
          cases registered : machine.chart.isRegistered event with
          | true => exact .inl ⟨_, .impossible loaded here leads registered⟩
          | false => exact .inl ⟨_, .unregistered loaded here leads registered⟩

/-! ### The first transition of an event -/

theorem started_eq (loaded : runner.machine = some machine) :
    runner.started =
      match machine.currentPlace? with
      | some place => .ok (machine, place)
      | none => .error .notStarted := by
  unfold Runner.started Runner.loaded
  rw [loaded]
  cases here : machine.currentPlace? with
  | none => simp only [bind, Except.bind, here, throw, throwThe, MonadExceptOf.throw]
  | some place => simp only [bind, Except.bind, here, pure, Except.pure]

theorem moveOn_eq {source : Place} {event : String} (loaded : runner.machine = some machine)
    (here : machine.currentPlace? = some source) :
    runner.moveOn event =
      match machine.chart.destination? event source.position with
      | some destination => .ok (machine, .between .event event source destination)
      | none =>
        if machine.chart.isRegistered event then .error (.impossibleEvent event source.state.name)
        else .error (.unregisteredEvent event) := by
  unfold moveOn
  rw [started_eq loaded, here]
  rfl

theorem moveOn_of_unstarted {event : String} (loaded : runner.machine = some machine)
    (nowhere : machine.currentPlace? = none) : runner.moveOn event = .error .notStarted := by
  unfold moveOn
  rw [started_eq loaded, nowhere]
  rfl

theorem moveOn_of_unloaded {event : String} (unloaded : runner.machine = none) :
    runner.moveOn event = .error .notLoaded := by
  unfold moveOn Runner.started Runner.loaded
  rw [unloaded]
  rfl

end Beginning

/-! ### The protocol -/

/-- What a call gives, the runner afterwards, and the world afterwards. -/
abbrev Outcome (σ : Type) := Except Error Bool × Runner σ × σ

variable [Clocked σ]

/-- Makes a call. -/
def make (runner : Runner σ) (call : Call) (payload : Value) (world : σ) : Outcome σ :=
  match call with
  | .start => runner.start payload world
  | .send event => runner.send event payload world

/-- **The protocol of a call.** A call that makes no transition leaves the runner and the world as
they were. Every other one takes its course: it succeeds or fails as the course does, and leaves
what the course left, whether it failed or not. -/
inductive Conducts (runner : Runner σ) (call : Call) (payload : Value) (world : σ) :
    List (List (Deed σ)) → Outcome σ → Prop
  | declined {answer : Except Error Bool} (declines : runner.Declines call answer) :
      Conducts runner call payload world [] (answer, runner, world)
  | conducted {machine : Machine} {move : Move} {blocks : List (List (Deed σ))}
      {result : Except Error Unit} {finish : Motion σ} (begins : runner.Begins call machine move)
      (course : Course runner.toSetup payload [] move { machine, world } blocks result finish) :
      Conducts runner call payload world blocks
        (result.map fun () => true, { runner with machine := some finish.machine }, finish.world)

/-- What a call leaves that ended with a result and a motion. -/
def ended (runner : Runner σ) (result : Except Error Unit × Motion σ) : Outcome σ :=
  (result.1.map fun () => true, { runner with machine := some result.2.machine }, result.2.world)

section Calls

variable {runner : Runner σ} {call : Call} {payload : Value} {world : σ}

/-- A call that declines leaves everything as it was. -/
theorem make_of_declines {answer : Except Error Bool} (declines : runner.Declines call answer) :
    runner.make call payload world = (answer, runner, world) := by
  cases declines with
  | @unloaded call unloaded =>
    cases call with
    | start => simp only [make, start, unloaded]
    | send event => simp only [make, send, moveOn_of_unloaded unloaded]
  | started loaded started => simp only [make, start, loaded, started, if_true]
  | unstarted loaded nowhere => simp only [make, send, moveOn_of_unstarted loaded nowhere]
  | impossible loaded here nowhere registered =>
    simp only [make, send, moveOn_eq loaded here, nowhere, registered, if_true]
  | unregistered loaded here nowhere unknown =>
    simp only [make, send, moveOn_eq loaded here, nowhere, unknown, Bool.false_eq_true, if_false]

/-- Driving a machine through a transition leaves what the engine leaves. -/
theorem drive_transition (runner : Runner σ) (machine : Machine) (move : Move) (payload : Value)
    (world : σ) :
    runner.drive machine (do Engine.transition runner.toSetup move payload; return true) world =
      runner.ended (Engine.on (.transition runner.toSetup move payload) { machine, world }) := by
  have both : Engine.on (do Engine.transition runner.toSetup move payload; return true)
      { machine, world } =
      ((Engine.on (.transition runner.toSetup move payload) { machine, world }).1.map fun _ => true,
        (Engine.on (.transition runner.toSetup move payload) { machine, world }).2) := by
    rw [Engine.on_bind]
    rcases Engine.on (.transition runner.toSetup move payload) { machine, world } with ⟨_ | _, _⟩
    · rfl
    · rfl
  unfold drive ended
  rw [show ∀ (step : Engine σ Bool) (motion : Motion σ),
    (ExceptT.run step).run motion = step.on motion from fun _ _ => rfl, both]

/-- A call that begins with a transition does what the engine does for it. -/
theorem make_of_begins {machine : Machine} {move : Move}
    (begins : runner.Begins call machine move) :
    runner.make call payload world =
      runner.ended (Engine.on (.transition runner.toSetup move payload) { machine, world }) := by
  cases begins with
  | start loaded fresh =>
    simp only [make, start, loaded, fresh, Bool.false_eq_true, if_false]
    exact drive_transition ..
  | send loaded here leads =>
    simp only [make, send, moveOn_eq loaded here, leads]
    exact drive_transition ..

/-- **Every call keeps the protocol.** The protocol of a call fixes its blocks and its outcome, and
the outcome is that of the call. -/
theorem conducts_iff (runner : Runner σ) (call : Call) (payload : Value) (world : σ) :
    ∃ blocks, ∀ (blocks' : List (List (Deed σ))) (outcome : Outcome σ),
      runner.Conducts call payload world blocks' outcome ↔
        blocks' = blocks ∧ outcome = runner.make call payload world := by
  rcases runner.declines_or_begins call with ⟨answer, declines⟩ | ⟨machine, move, begins⟩
  · refine ⟨[], fun blocks' outcome => ⟨fun conducts => ?_, ?_⟩⟩
    · cases conducts with
      | declined declines' => exact ⟨rfl, (make_of_declines declines').symm⟩
      | conducted begins' _ => exact absurd declines begins'.not_declines
    · rintro ⟨rfl, rfl⟩
      rw [make_of_declines declines]
      exact .declined declines
  · obtain ⟨blocks, course⟩ := Engine.transition_course runner.toSetup payload move
      { machine, world }
    refine ⟨blocks, fun blocks' outcome => ⟨fun conducts => ?_, ?_⟩⟩
    · cases conducts with
      | declined declines => exact absurd declines begins.not_declines
      | conducted begins' course' =>
        obtain ⟨rfl, rfl⟩ := begins.unique begins'
        obtain ⟨rfl, rfl, rfl⟩ := course'.unique course
        exact ⟨rfl, (make_of_begins begins).symm⟩
    · rintro ⟨rfl, rfl⟩
      rw [make_of_begins begins]
      exact .conducted begins course

end Calls

end Runner

end Statechart
