/-
**What can be sent.**

A runner can be asked what can be sent before anything is sent. The answers are read off the events
of the current state, or off the table of the chart, and sending looks into the table too. In every
state that a runner can come to they agree: sending an event is refused exactly if the queries say
so, nothing is done then, and else the first transition goes where the queries say.

* `Runner.Reached`: the runners that can come about.
* `Runner.Refuses`: a call is answered before anything is done.
* `Runner.Agrees`: what the queries say of an event, and what sending it does.
* `Runner.Reached.agrees`: in every runner that can come about they agree.
-/

import Statechart.Proofs.Chart.Table
import Statechart.Proofs.Protocol.Blame
import Statechart.Proofs.Runner.Resuming

namespace Statechart

open Json

variable {σ : Type}

/-- A placed machine has no place exactly if it was not started. -/
theorem Machine.Placed.currentPlace?_eq_none_iff {machine : Machine} (placed : machine.Placed) :
    machine.currentPlace? = none ↔ machine.isStarted = false := by
  unfold Machine.isStarted
  cases here : machine.current with
  | none =>
    unfold Machine.currentPlace?
    rw [here]
    exact ⟨fun _ => rfl, fun _ => rfl⟩
  | some position =>
    obtain ⟨place, found, -⟩ := placed.currentPlace? here
    rw [found]
    exact ⟨nofun, nofun⟩

/-- A course begins with a deed of its transition. -/
theorem Course.begins_with [Clocked σ] {setup : Setup σ} {payload : Value}
    {sent : List (Nat × String)} {move : Move} {start finish : Motion σ}
    {blocks : List (List (Deed σ))} {result : Except Error Unit}
    (course : Course setup payload sent move start blocks result finish) :
    ∃ deed deeds rest, blocks = (deed :: deeds) :: rest ∧ deed.move = move := by
  have of_block : ∀ {stages : List Stage} {start finish : Motion σ} {deeds : List (Deed σ)}
      {reply : StageReply}, Block setup payload move stages start deeds reply finish →
        ∃ deed rest, deeds = deed :: rest ∧ deed.move = move := by
    intro stages start finish deeds reply block
    cases block with
    | last _ => exact ⟨_, _, rfl, rfl⟩
    | failed _ => exact ⟨_, _, rfl, rfl⟩
    | next _ _ => exact ⟨_, _, rfl, rfl⟩
  cases course with
  | failed block | settled block | refused block _ =>
    obtain ⟨deed, rest, rfl, moved⟩ := of_block block
    exact ⟨deed, rest, [], rfl, moved⟩
  | onward block _ _ =>
    obtain ⟨deed, rest, rfl, moved⟩ := of_block block
    exact ⟨deed, rest, _, rfl, moved⟩

/-! ### Runners that can come about -/

/-- An operation that brings no machine but one that was built or decoded. -/
def Operation.Brings : Operation σ → Prop
  | load machine => machine.Obtained
  | _ => True

namespace Runner

/-- **The runners that can come about.** -/
inductive Reached [Clocked σ] : Runner σ → Prop
  /-- A new runner has no machine. -/
  | fresh (setup : Setup σ) : Reached { setup with machine := none }
  /-- A runner is given other callables, options or another hook. -/
  | equipped {runner : Runner σ} (reached : Reached runner) (setup : Setup σ) :
      Reached { setup with machine := runner.machine }
  /-- A runner is loaded with the machine of another one. -/
  | passed {runner giver : Runner σ} {machine : Machine} (reached : Reached runner)
      (given : Reached giver) (held : giver.machine = some machine) :
      Reached (runner.load machine).2
  /-- An operation is done, whatever comes of it. -/
  | operated {runner : Runner σ} {operation : Operation σ} (reached : Reached runner)
      (brings : operation.Brings) (world : σ) : Reached (operation.perform runner world).1

variable [Clocked σ] {runner : Runner σ}

/-- The machine after an operation was there before, or it was built or decoded. -/
theorem goes_on_or_obtained {operation : Operation σ} (brings : operation.Brings) {world : σ}
    {machine : Machine} (loaded : (operation.perform runner world).1.machine = some machine) :
    (operation.Continues ∧ ∃ old, runner.machine = some old) ∨ machine.Obtained := by
  by_cases going : operation.Continues
  · cases before : runner.machine with
    | none => cases (Operation.unloaded_perform going before world).symm.trans loaded
    | some old => exact .inl ⟨going, old, rfl⟩
  · right
    cases operation with
    | load found =>
      rw [← Operation.eq_of_machine_load loaded]
      exact brings
    | loadDump bytes =>
      unfold Operation.perform loadDump at loaded
      dsimp only at loaded
      cases decoded : Machine.decode? bytes with
      | error fault => rw [decoded] at loaded; cases loaded
      | ok found =>
        rw [decoded] at loaded
        rw [← Operation.eq_of_machine_load loaded]
        exact .decoded decoded
    | loadDescription description =>
      unfold Operation.perform loadDescription at loaded
      dsimp only at loaded
      cases described : description.build with
      | error fault => rw [described] at loaded; cases loaded
      | ok found =>
        rw [described] at loaded
        rw [← Operation.eq_of_machine_load loaded]
        exact .built described
    | clear => cases loaded
    | _ => exact absurd trivial going

/-- **The machine of a runner that came about is nowhere or in one of its states.** -/
theorem Reached.placed (reached : runner.Reached) {machine : Machine}
    (loaded : runner.machine = some machine) : machine.Placed := by
  induction reached generalizing machine with
  | fresh setup => cases loaded
  | equipped _ setup ih => exact ih loaded
  | passed _ _ held _ ih =>
    rw [← Operation.eq_of_machine_load loaded]
    exact ih held
  | operated _ brings world ih =>
    rcases goes_on_or_obtained brings loaded with ⟨going, old, before⟩ | obtained
    · exact Operation.placed going before (ih before) loaded
    · exact obtained.regular.toPlaced

/-! ### Refusals -/

/-- A call is answered before anything is done, and leaves everything as it was. -/
structure Refuses (runner : Runner σ) (call : Call) (payload : Value) (world : σ)
    (answer : Except Error Bool) : Prop where
  make_eq : runner.make call payload world = (answer, runner, world)
  conducts : runner.Conducts call payload world [] (answer, runner, world)

/-- The first transition that is made on an event goes from one place to another. -/
def GoesFirst (runner : Runner σ) (event : String) (payload : Value) (world : σ)
    (source destination : Place) : Prop :=
  ∃ deed deeds blocks, runner.Conducts (.send event) payload world ((deed :: deeds) :: blocks)
      (runner.make (.send event) payload world) ∧
    deed.move = .between .event event source destination

/-- **What the queries say of an event agrees with what sending it does.** -/
structure Agrees (runner : Runner σ) (event : String) (payload : Value) (world : σ) : Prop where
  notLoaded_iff : runner.Refuses (.send event) payload world (.error .notLoaded) ↔
    runner.machine = none
  notStarted_iff : runner.Refuses (.send event) payload world (.error .notStarted) ↔
    ∃ machine, runner.machine = some machine ∧ machine.isStarted = false
  unregistered_iff :
    runner.Refuses (.send event) payload world (.error (.unregisteredEvent event)) ↔
      ∃ machine, runner.machine = some machine ∧ machine.isStarted = true ∧
        ∀ state ∈ machine.chart.states, state.events.get? event = none
  impossible_iff : ∀ name,
    runner.Refuses (.send event) payload world (.error (.impossibleEvent event name)) ↔
      ∃ machine current, runner.machine = some machine ∧ machine.currentState? = some current ∧
        current.name = name ∧ current.events.get? event = none ∧
        ∃ state ∈ machine.chart.states, state.events.get? event ≠ none
  /-- There are no other refusals. -/
  refused : ∀ answer, runner.Refuses (.send event) payload world answer →
    answer = .error .notLoaded ∨ answer = .error .notStarted ∨
      answer = .error (.unregisteredEvent event) ∨
      ∃ name, answer = .error (.impossibleEvent event name)
  /-- An error of these kinds that is no refusal is raised by what is called. -/
  raised : ∀ error, (runner.make (.send event) payload world).1 = .error error →
    error.kind = .precondition ∨ error.kind = .event →
      runner.Refuses (.send event) payload world (.error error) ∨
        ∃ blocks, runner.Conducts (.send event) payload world blocks
            (runner.make (.send event) payload world) ∧
          ∃ deed ∈ blocks.flatten, deed.Raises runner.toSetup payload error
  /-- An event can be sent exactly if sending it is not refused. -/
  canSend_iff : runner.canSend event = .ok true ↔
    ¬ ∃ answer, runner.Refuses (.send event) payload world answer
  /-- Exactly the events that can be sent are possible. -/
  possible_iff : runner.canSend event = .ok true ↔
    ∃ possible target, runner.possibleTransitions = .ok possible ∧
      possible.get? event = some target
  /-- Exactly the events that can be sent lead on in the chart. -/
  transition_iff : runner.canSend event = .ok true ↔
    ∃ machine current state, runner.machine = some machine ∧
      machine.currentState? = some current ∧
      machine.chart.transition? event current.name = some state
  /-- Exactly the events that can be sent bring about a transition. -/
  goes_iff : runner.canSend event = .ok true ↔
    ∃ source destination, runner.GoesFirst event payload world source destination
  /-- The first transition goes to the state of which the queries tell. -/
  leads : ∀ source destination, runner.GoesFirst event payload world source destination →
    ∃ machine possible, runner.machine = some machine ∧
      machine.currentPlace? = some source ∧ runner.possibleTransitions = .ok possible ∧
      possible.get? event = some destination.state.name ∧
      machine.chart.transition? event source.state.name = some destination.state
  /-- Starting what was started is refused. -/
  started_iff : runner.Refuses .start payload world (.ok false) ↔
    ∃ machine, runner.machine = some machine ∧ machine.isStarted = true

/-! ### Sending -/

section Sending

variable {call : Call} {event : String} {payload : Value} {world : σ}

/-- A call is refused exactly if it declines. -/
theorem refuses_iff {answer : Except Error Bool} :
    runner.Refuses call payload world answer ↔ runner.Declines call answer := by
  constructor
  · intro refuses
    have conducts := refuses.conducts
    generalize left : (answer, runner, world) = outcome at conducts
    cases conducts with
    | declined declines =>
      obtain ⟨rfl, -⟩ := Prod.mk.inj left
      exact declines
    | conducted _ course =>
      obtain ⟨_, _, _, nothing, -⟩ := course.begins_with
      cases nothing
  · intro declines
    exact ⟨make_of_declines declines, .declined declines⟩

/-- What goes first is the transition with which sending begins. -/
theorem goesFirst_iff {source destination : Place} :
    runner.GoesFirst event payload world source destination ↔ ∃ machine,
      runner.Begins (.send event) machine (.between .event event source destination) := by
  constructor
  · rintro ⟨deed, deeds, blocks, conducts, moved⟩
    generalize runner.make (.send event) payload world = outcome at conducts
    cases conducts with
    | conducted begins course =>
      obtain ⟨_, _, _, same, moved'⟩ := course.begins_with
      cases same
      rw [← moved, moved']
      exact ⟨_, begins⟩
  · rintro ⟨machine, begins⟩
    obtain ⟨blocks, unique⟩ := runner.conducts_iff (.send event) payload world
    have conducts := (unique blocks _).2 ⟨rfl, rfl⟩
    unfold GoesFirst
    generalize runner.make (.send event) payload world = outcome at conducts ⊢
    cases conducts with
    | declined declines => exact absurd declines begins.not_declines
    | conducted begins' course =>
      obtain ⟨deed, deeds, rest, rfl, moved⟩ := course.begins_with
      refine ⟨deed, deeds, rest, .conducted begins' course, ?_⟩
      rw [moved, (begins.unique begins').2]

omit [Clocked σ] in
/-- Sending begins from the current place, where the table of the chart leads. -/
theorem begins_send_iff {machine : Machine} {source destination : Place} :
    runner.Begins (.send event) machine (.between .event event source destination) ↔
      runner.machine = some machine ∧ machine.currentPlace? = some source ∧
        machine.chart.destination? event source.position = some destination := by
  constructor
  · intro begins
    generalize moved : Move.between .event event source destination = move at begins
    cases begins with
    | send loaded here leads =>
      cases moved
      exact ⟨loaded, here, leads⟩
  · rintro ⟨loaded, here, leads⟩
    exact .send loaded here leads

/-- Sending is refused, or it begins with a transition. -/
theorem not_refuses_iff : (¬ ∃ answer, runner.Refuses (.send event) payload world answer) ↔
    ∃ source destination machine,
      runner.Begins (.send event) machine (.between .event event source destination) := by
  constructor
  · intro willing
    rcases runner.declines_or_begins (.send event) with ⟨answer, declines⟩ | ⟨machine, move, begins⟩
    · exact absurd ⟨answer, refuses_iff.2 declines⟩ willing
    · cases begins with
      | send loaded here leads => exact ⟨_, _, machine, .send loaded here leads⟩
  · rintro ⟨source, destination, machine, begins⟩ ⟨answer, refuses⟩
    exact begins.not_declines (refuses_iff.1 refuses)

end Sending

/-! ### Asking -/

section Asking

omit [Clocked σ]

variable {event : String} {machine : Machine} {source destination : Place}

theorem possibleTransitions_eq (loaded : runner.machine = some machine)
    (here : machine.currentPlace? = some source) :
    runner.possibleTransitions = .ok source.state.events := by
  unfold possibleTransitions
  rw [started_eq loaded, here]
  rfl

theorem canSend_eq (loaded : runner.machine = some machine) :
    runner.canSend event =
      .ok (machine.current.any fun position => (machine.chart.lookup event position).isSome) := by
  unfold canSend Runner.loaded
  rw [loaded]
  dsimp only [bind, Except.bind]
  cases machine.current with
  | none => rfl
  | some position => rfl

/-! ### Reasons to refuse -/

theorem declines_notLoaded_iff :
    runner.Declines (.send event) (.error .notLoaded) ↔ runner.machine = none := by
  constructor
  · intro declines
    cases declines with
    | unloaded unloaded => exact unloaded
  · exact .unloaded

/-- Sending is refused for one of four reasons. -/
theorem of_declines_send {answer : Except Error Bool}
    (declines : runner.Declines (.send event) answer) :
    answer = .error .notLoaded ∨ answer = .error .notStarted ∨
      answer = .error (.unregisteredEvent event) ∨
      ∃ name, answer = .error (.impossibleEvent event name) := by
  cases declines with
  | unloaded _ => exact .inl rfl
  | unstarted _ _ => exact .inr (.inl rfl)
  | unregistered _ _ _ _ => exact .inr (.inr (.inl rfl))
  | impossible _ _ _ _ => exact .inr (.inr (.inr ⟨_, rfl⟩))

theorem declines_started_iff : runner.Declines .start (.ok false) ↔
    ∃ machine, runner.machine = some machine ∧ machine.isStarted = true := by
  constructor
  · intro declines
    cases declines with
    | started loaded started => exact ⟨_, loaded, started⟩
  · rintro ⟨machine, loaded, started⟩
    exact .started loaded started

/-! ### Placed machines -/

section Placed

variable (placed : ∀ {machine : Machine}, runner.machine = some machine → machine.Placed)

include placed

theorem declines_notStarted_iff :
    runner.Declines (.send event) (.error .notStarted) ↔
      ∃ machine, runner.machine = some machine ∧ machine.isStarted = false := by
  constructor
  · intro declines
    cases declines with
    | unstarted loaded nowhere =>
      exact ⟨_, loaded, (placed loaded).currentPlace?_eq_none_iff.1 nowhere⟩
  · rintro ⟨machine, loaded, fresh⟩
    exact .unstarted loaded ((placed loaded).currentPlace?_eq_none_iff.2 fresh)

theorem declines_unregistered_iff :
    runner.Declines (.send event) (.error (.unregisteredEvent event)) ↔
      ∃ machine, runner.machine = some machine ∧ machine.isStarted = true ∧
        ∀ state ∈ machine.chart.states, state.events.get? event = none := by
  constructor
  · intro declines
    cases declines with
    | @unregistered machine source _ loaded here nowhere unknown =>
      refine ⟨machine, loaded, ?_, fun state member => ?_⟩
      · unfold Machine.isStarted
        rw [(Machine.current_of_currentPlace? here).1]
        rfl
      · by_contra declared
        have registered := (placed loaded).built.isRegistered_iff.2 ⟨state, member, declared⟩
        cases unknown.symm.trans registered
  · rintro ⟨machine, loaded, started, undeclared⟩
    cases here : machine.currentPlace? with
    | none =>
      cases ((placed loaded).currentPlace?_eq_none_iff.1 here).symm.trans started
    | some source =>
      have stands := (Machine.current_of_currentPlace? here).2
      have built := (placed loaded).built
      refine .unregistered loaded here ?_ ?_
      · exact (built.destination?_eq_none_iff stands).2
          (undeclared source.state (Chart.mem_of_place? stands))
      · by_contra registered
        obtain ⟨state, member, declared⟩ :=
          built.isRegistered_iff.1 (Bool.eq_true_of_not_eq_false registered)
        exact declared (undeclared state member)

theorem declines_impossible_iff (name : String) :
    runner.Declines (.send event) (.error (.impossibleEvent event name)) ↔
      ∃ machine current, runner.machine = some machine ∧ machine.currentState? = some current ∧
        current.name = name ∧ current.events.get? event = none ∧
        ∃ state ∈ machine.chart.states, state.events.get? event ≠ none := by
  constructor
  · intro declines
    cases declines with
    | @impossible machine source _ loaded here nowhere registered =>
      have stands := (Machine.current_of_currentPlace? here).2
      have built := (placed loaded).built
      refine ⟨machine, source.state, loaded, ?_, rfl,
        (built.destination?_eq_none_iff stands).1 nowhere, built.isRegistered_iff.1 registered⟩
      unfold Machine.currentState?
      rw [here]
      rfl
  · rintro ⟨machine, current, loaded, here, rfl, undeclared, declared⟩
    obtain ⟨source, found, rfl⟩ := Option.map_eq_some_iff.1 here
    have stands := (Machine.current_of_currentPlace? found).2
    have built := (placed loaded).built
    exact .impossible loaded found ((built.destination?_eq_none_iff stands).2 undeclared)
      (built.isRegistered_iff.2 declared)

/-- What can be sent leads on from the current place. -/
theorem canSend_eq_true_iff :
    runner.canSend event = .ok true ↔ ∃ source destination machine,
      runner.Begins (.send event) machine (.between .event event source destination) := by
  cases loaded : runner.machine with
  | none =>
    have refused : runner.canSend event = .error .notLoaded := by
      unfold canSend Runner.loaded
      rw [loaded]
      rfl
    rw [refused]
    refine ⟨nofun, ?_⟩
    rintro ⟨source, destination, machine, begins⟩
    cases loaded.symm.trans begins.loaded
  | some machine =>
    cases here : machine.currentPlace? with
    | none =>
      have stopped : machine.current = none := by
        have fresh := (placed loaded).currentPlace?_eq_none_iff.1 here
        unfold Machine.isStarted at fresh
        exact Option.isNone_iff_eq_none.1 (Option.isSome_eq_false_iff.1 fresh)
      rw [canSend_eq loaded, stopped, Option.any_none]
      refine ⟨nofun, ?_⟩
      rintro ⟨source, destination, machine', begins⟩
      obtain ⟨loaded', here', -⟩ := begins_send_iff.1 begins
      cases loaded.symm.trans loaded'
      cases here.symm.trans here'
    | some source =>
      rw [canSend_eq loaded, (Machine.current_of_currentPlace? here).1, Option.any_some,
        Except.ok.injEq, Option.isSome_iff_exists]
      constructor
      · rintro ⟨position, leads⟩
        have inside := ((placed loaded).built.lt_of_lookup leads).2
        refine ⟨source, ⟨position, machine.chart.states[position]⟩, machine,
          begins_send_iff.2 ⟨loaded, here, Option.bind_eq_some_iff.2 ⟨position, leads, ?_⟩⟩⟩
        unfold Chart.place?
        rw [List.getElem?_eq_getElem inside]
        rfl
      · rintro ⟨source', destination, machine', begins⟩
        obtain ⟨loaded', here', leads⟩ := begins_send_iff.1 begins
        cases loaded.symm.trans loaded'
        cases here.symm.trans here'
        obtain ⟨position, routed, -⟩ := Option.bind_eq_some_iff.1 leads
        exact ⟨position, routed⟩

/-- What is possible leads on from the current place. -/
theorem exists_possible_iff :
    (∃ possible target, runner.possibleTransitions = .ok possible ∧
      possible.get? event = some target) ↔ ∃ source destination machine,
      runner.Begins (.send event) machine (.between .event event source destination) := by
  constructor
  · rintro ⟨possible, target, answered, found⟩
    cases loaded : runner.machine with
    | none =>
      unfold possibleTransitions started Runner.loaded at answered
      rw [loaded] at answered
      cases answered
    | some machine =>
      cases here : machine.currentPlace? with
      | none =>
        unfold possibleTransitions at answered
        rw [started_eq loaded, here] at answered
        cases answered
      | some source =>
        cases (possibleTransitions_eq loaded here).symm.trans answered
        cases leads : machine.chart.destination? event source.position with
        | none =>
          have stands := (Machine.current_of_currentPlace? here).2
          have undeclared := ((placed loaded).built.destination?_eq_none_iff stands).1 leads
          cases undeclared.symm.trans found
        | some destination => exact ⟨source, destination, machine, .send loaded here leads⟩
  · rintro ⟨source, destination, machine, begins⟩
    obtain ⟨loaded, here, leads⟩ := begins_send_iff.1 begins
    have stands := (Machine.current_of_currentPlace? here).2
    have declared := ((placed loaded).built.destination?_eq_some_iff stands).1 leads
    exact ⟨_, _, possibleTransitions_eq loaded here, declared.1⟩

/-- What leads on by name leads on from the current place. -/
theorem exists_transition_iff :
    (∃ machine current state, runner.machine = some machine ∧
      machine.currentState? = some current ∧
      machine.chart.transition? event current.name = some state) ↔
    ∃ source destination machine,
      runner.Begins (.send event) machine (.between .event event source destination) := by
  constructor
  · rintro ⟨machine, current, state, loaded, here, leads⟩
    obtain ⟨source, found, rfl⟩ := Option.map_eq_some_iff.1 here
    have stands := (Machine.current_of_currentPlace? found).2
    rw [(placed loaded).built.transition?_eq stands] at leads
    obtain ⟨destination, reached, -⟩ := Option.map_eq_some_iff.1 leads
    exact ⟨source, destination, machine, .send loaded found reached⟩
  · rintro ⟨source, destination, machine, begins⟩
    obtain ⟨loaded, here, leads⟩ := begins_send_iff.1 begins
    have stands := (Machine.current_of_currentPlace? here).2
    refine ⟨machine, source.state, destination.state, loaded, ?_, ?_⟩
    · unfold Machine.currentState?
      rw [here]
      rfl
    · rw [(placed loaded).built.transition?_eq stands, leads]
      rfl

end Placed

end Asking

/-! ### Agreement -/

/-- **Queries and sending agree.** In every runner that can come about, and for every event, sending
is refused exactly for one of four reasons, each told by the machine, and does nothing then. In all
other cases, and only then, the event can be sent, is possible, and leads on in the chart, and the
first transition goes where they say. -/
theorem Reached.agrees (reached : runner.Reached) (event : String) (payload : Value) (world : σ) :
    runner.Agrees event payload world where
  notLoaded_iff := refuses_iff.trans declines_notLoaded_iff
  notStarted_iff := refuses_iff.trans (declines_notStarted_iff reached.placed)
  unregistered_iff := refuses_iff.trans (declines_unregistered_iff reached.placed)
  impossible_iff name := refuses_iff.trans (declines_impossible_iff reached.placed name)
  refused _ refuses := of_declines_send (refuses_iff.1 refuses)
  raised := by
    intro error failed early
    obtain ⟨blocks, unique⟩ := runner.conducts_iff (.send event) payload world
    have conducts := (unique blocks _).2 ⟨rfl, rfl⟩
    rcases conducts.blamed failed with declines | blamed
    · exact .inl (refuses_iff.2 declines)
    · exact .inr ⟨blocks, conducts, blamed.raises early⟩
  canSend_iff := (canSend_eq_true_iff reached.placed).trans not_refuses_iff.symm
  possible_iff :=
    (canSend_eq_true_iff reached.placed).trans (exists_possible_iff reached.placed).symm
  transition_iff :=
    (canSend_eq_true_iff reached.placed).trans (exists_transition_iff reached.placed).symm
  goes_iff := by
    simp only [goesFirst_iff]
    exact canSend_eq_true_iff reached.placed
  leads := by
    intro source destination goes
    obtain ⟨machine, begins⟩ := goesFirst_iff.1 goes
    obtain ⟨loaded, here, leads⟩ := begins_send_iff.1 begins
    have stands := (Machine.current_of_currentPlace? here).2
    have built := (reached.placed loaded).built
    have declared := ((built.destination?_eq_some_iff stands).1 leads).1
    refine ⟨machine, source.state.events, loaded, here, possibleTransitions_eq loaded here,
      declared, ?_⟩
    rw [built.transition?_eq stands, leads]
    rfl
  started_iff := refuses_iff.trans declines_started_iff

/-! ### A door that is shut -/

/-- A runner that holds the door, which was started. -/
def shutting : Runner Nat :=
  (Operation.run [.load shutDoor, .call .start .null] { resolver := .none } 0).1

theorem reached_shutting : shutting.Reached := by
  have empty : Reached ({ resolver := .none } : Runner Nat) := .fresh { resolver := .none }
  have brings : (Operation.load shutDoor : Operation Nat).Brings := .built build_door
  have starts : (Operation.call .start .null : Operation Nat).Brings := trivial
  exact (empty.operated brings 0).operated starts 0

/-- The door can be pushed wide open, and it cannot be pulled. -/
theorem Reached.agrees_door : (∃ source destination,
    shutting.GoesFirst "push" .null 1 source destination ∧ destination.state.name = "wide") ∧
    shutting.Refuses (.send "pull") .null 1 (.error (.unregisteredEvent "pull")) := by
  have pushed := reached_shutting.agrees "push" .null 1
  have pulled := reached_shutting.agrees "pull" .null 1
  constructor
  · have can : shutting.canSend "push" = .ok true := by decide +kernel
    obtain ⟨source, destination, goes⟩ := pushed.goes_iff.1 can
    obtain ⟨machine, possible, -, -, answered, found, -⟩ := pushed.leads source destination goes
    have named : (shutting.possibleTransitions.map fun possible => possible.get? "push") =
        .ok (some "wide") := by
      decide +kernel
    rw [answered] at named
    refine ⟨source, destination, goes, ?_⟩
    exact Option.some.inj (found.symm.trans (Except.ok.inj named))
  · have here : shutting.machine.map (fun machine : Machine =>
        (machine.isStarted, machine.chart.states.all fun state =>
          (state.events.get? "pull").isNone)) = some (true, true) := by
      decide +kernel
    obtain ⟨machine, loaded, facts⟩ := Option.map_eq_some_iff.1 here
    obtain ⟨started, undeclared⟩ := Prod.mk.inj facts
    refine pulled.unregistered_iff.2 ⟨machine, loaded, started, fun state member => ?_⟩
    exact Option.isNone_iff_eq_none.1 (List.all_eq_true.1 undeclared state member)

end Runner

end Statechart
