/-
**Operations of runners.**

A runner is used by one operation after the other: calls, flushes, changes of data, new callables,
and a machine that is dumped and resumed. None of them, however it ends, brings position and history
of the machine apart.

* `Operation.perform`: what an operation leaves.
* `Operation.continues`: what an operation does to the history, if the machine is still there.
* `Operation.run_chronicled`: the history in any run that starts with a built machine.
-/

import Statechart.Proofs.Dump.Codec
import Statechart.Proofs.Protocol.Call
import Statechart.Proofs.Runner.Chronicle

namespace Statechart

open Json

variable {σ : Type}

/-- Something that is done with a runner. -/
inductive Operation (σ : Type)
  /-- The runner is started, or an event is sent to it. -/
  | call (call : Call) (payload : Value)
  /-- The flush hook is told of the machine. -/
  | flush
  /-- The data are changed. -/
  | modifyData (change : Datamodel → Datamodel)
  /-- Callables are bound to states in place of those that were. -/
  | override (overrides : Overrides σ)
  /-- The machine is dumped, and the runner is loaded with the dump. -/
  | resume (format : DumpFormat)
  /-- The machine is replaced. -/
  | load (machine : Machine)
  /-- The machine is replaced by that of a dump. -/
  | loadDump (bytes : Bytes)
  /-- The machine is replaced by that of a description. -/
  | loadDescription (description : Description)
  /-- The machine is dropped. -/
  | clear

namespace Operation

/-- The runner and the world after an operation. -/
def perform [Clocked σ] (operation : Operation σ) (runner : Runner σ) (world : σ) : Runner σ × σ :=
  match operation with
  | call made payload => (runner.make made payload world).2
  | flush => (runner.flush world).2
  | modifyData change => ((runner.modifyData change).2, world)
  | override overrides => ({ runner with overrides }, world)
  | resume format =>
    match runner.dump format with
    | .ok bytes => ((runner.loadDump bytes).2, world)
    | .error _ => (runner, world)
  | load machine => ((runner.load machine).2, world)
  | loadDump bytes => ((runner.loadDump bytes).2, world)
  | loadDescription description => ((runner.loadDescription description).2, world)
  | clear => (runner.clear, world)

/-- The runner and the world after several operations. -/
def run [Clocked σ] (operations : List (Operation σ)) (runner : Runner σ) (world : σ) :
    Runner σ × σ :=
  operations.foldl (fun state operation => operation.perform state.1 state.2) (runner, world)

/-- An operation that goes on with the machine that is there. -/
def Continues : Operation σ → Prop
  | load _ | loadDump _ | loadDescription _ | clear => False
  | _ => True

/-- The records that an operation may append to the history. -/
def Appends : Operation σ → List HistoryRecord → Prop
  | call .start _, added =>
    added = [] ∨ ∃ first later, added = first :: later ∧ first.status = .initial ∧
      ∀ record ∈ later, record.status = .trigger
  | call (.send event) _, added =>
    added = [] ∨ ∃ first later, added = first :: later ∧ first.status = .event ∧
      first.event = some event ∧ ∀ record ∈ later, record.status = .trigger
  | _, added => added = []

end Operation

/-! ### One operation -/

namespace Machine

variable {machine : Machine}

/-- A machine whose history tells where it is has a place there. -/
theorem Chronicled.placed (chronicled : machine.Chronicled) (built : machine.chart.Built) :
    machine.Placed := by
  refine ⟨built, fun position here => ?_⟩
  have started : machine.isStarted = true := by
    unfold isStarted
    rw [here]
    rfl
  have occupied : machine.history ≠ [] := fun empty => by
    rw [chronicled.empty_iff.1 empty] at started
    cases started
  obtain ⟨record, member⟩ := Option.ne_none_iff_exists'.1 (mt List.getLast?_eq_none_iff.1 occupied)
  have state := chronicled.last record member
  obtain ⟨found, same, -⟩ := Option.map_eq_some_iff.1 state
  obtain ⟨place, there, -⟩ := Option.map_eq_some_iff.1 same
  have stands := (current_of_currentPlace? there).2
  obtain ⟨current, _⟩ := current_of_currentPlace? there
  cases here.symm.trans current
  obtain ⟨_, inside, -⟩ := Option.map_eq_some_iff.1 stands
  exact (List.getElem?_eq_some_iff.1 inside).1

theorem Placed.of_alike {start finish : Machine} (placed : start.Placed)
    (alike : start.Alike finish) : finish.Placed := by
  obtain ⟨built, inside⟩ := placed
  refine ⟨?_, ?_⟩
  · rw [alike.chart]
    exact built
  · rw [alike.chart, alike.current]
    exact inside

/-- A fitting transition leads to one of the states. -/
theorem Placed.makes {start finish : Machine} {move : Move} (placed : start.Placed)
    (fits : move.Fits start) (makes : start.Makes move finish) : finish.Placed := by
  obtain ⟨timestamp, alike⟩ := makes
  have inside : move.destination.position < start.chart.states.length := by
    obtain ⟨state, stands, -⟩ := Option.map_eq_some_iff.1 fits.place?
    exact (List.getElem?_eq_some_iff.1 stands).1
  have committed :
      (start.commit move.destination.position (move.record timestamp)).Placed := by
    refine ⟨placed.built, fun position here => ?_⟩
    cases here
    exact inside
  exact committed.of_alike alike

theorem Continues.refl (chronicled : machine.Chronicled) : machine.Continues machine [] :=
  ⟨rfl, chronicled, (List.append_nil _).symm⟩

/-- Changed data leave the history as it is. -/
theorem Chronicled.withData (chronicled : machine.Chronicled) (datamodel : Datamodel) :
    machine.Continues { machine with datamodel } [] := by
  obtain ⟨empty_iff, first, joined, last⟩ := chronicled
  exact ⟨rfl, ⟨empty_iff, first, joined, last⟩, (List.append_nil _).symm⟩

end Machine

/-- A course leaves a machine in one of its states. -/
theorem Course.placed [Clocked σ] {setup : Setup σ} {payload : Value} {move : Move}
    {sent : List (Nat × String)} {start finish : Motion σ} {blocks : List (List (Deed σ))}
    {result : Except Error Unit}
    (course : Course setup payload sent move start blocks result finish)
    (placed : start.machine.Placed) (fits : move.Fits start.machine) :
    finish.machine.Placed := by
  have of_block : ∀ {move : Move} {start finish : Motion σ} {deeds : List (Deed σ)}
      {reply : StageReply},
      Block setup payload move (move.stages setup) start deeds reply finish →
        start.machine.Placed → move.Fits start.machine → finish.machine.Placed := by
    intro move start finish deeds reply block placed fits
    rcases block.makes_or_fails with makes | ⟨-, alike⟩
    · exact placed.makes fits makes
    · exact placed.of_alike alike
  induction course with
  | failed block => exact of_block block placed fits
  | settled block => exact of_block block placed fits
  | refused block _ => exact of_block block placed fits
  | onward block followed _ ih =>
    rcases block.makes_or_fails with makes | ⟨⟨_, failed⟩, -⟩
    · have leads := (Setup.of_follow followed).1
      exact ih (placed.makes fits makes) (.between (.inr rfl) (makes.currentPlace? fits) leads)
    · cases failed

/-- A described machine is at rest and has a built chart. -/
theorem Description.rest_of_build {description : Description} {machine : Machine}
    (described : description.build = .ok machine) :
    machine.chart.Built ∧ machine.history = [] ∧ machine.current = none ∧
      machine.datamodel = description.datamodel := by
  unfold build at described
  cases flat : description.states.mapM StateDescription.flatten with
  | error fault => rw [flat] at described; cases described
  | ok states =>
    rw [flat] at described
    change Machine.ofStates? (description.name.getD "") states description.datamodel = .ok machine
      at described
    unfold Machine.ofStates? at described
    cases built : Chart.ofStates? states with
    | error fault => rw [built] at described; cases described
    | ok chart =>
      rw [built] at described
      cases described
      exact ⟨Chart.built_of_ofStates? built, rfl, rfl, rfl⟩

theorem Description.of_build {description : Description} {machine : Machine}
    (described : description.build = .ok machine) :
    machine.chart.Built ∧ machine.Chronicled := by
  obtain ⟨built, empty, nowhere, -⟩ := rest_of_build described
  exact ⟨built, .of_rest empty nowhere⟩

/-- The first transition of a call fits the machine. -/
theorem Runner.Begins.fits {runner : Runner σ} {call : Call} {machine : Machine} {move : Move}
    (begins : runner.Begins call machine move) : move.Fits machine := by
  cases begins with
  | start loaded fresh =>
    refine .initial ?_
    unfold Machine.isStarted at fresh
    cases here : machine.current with
    | none => rfl
    | some position => rw [here] at fresh; cases fresh
  | send loaded here leads => exact .between (.inl rfl) here leads

theorem Runner.Begins.loaded {runner : Runner σ} {call : Call} {machine : Machine} {move : Move}
    (begins : runner.Begins call machine move) : runner.machine = some machine := by
  cases begins with
  | start loaded _ => exact loaded
  | send loaded _ _ => exact loaded

/-- What the first transition of a call lets the call append. -/
theorem Runner.Begins.appends {runner : Runner σ} {call : Call} {machine : Machine} {move : Move}
    (begins : runner.Begins call machine move) (payload : Value) {added : List HistoryRecord}
    (appends : move.Appends added) : (Operation.call call payload : Operation σ).Appends added := by
  cases begins with
  | start _ _ =>
    rcases appends with rfl | ⟨timestamp, later, rfl, triggers⟩
    · exact .inl rfl
    · exact .inr ⟨_, later, rfl, rfl, triggers⟩
  | send _ _ _ =>
    rcases appends with rfl | ⟨timestamp, later, rfl, triggers⟩
    · exact .inl rfl
    · exact .inr ⟨_, later, rfl, rfl, rfl, triggers⟩

/-- **A call leaves the runner as it is, or leaves what a course leaves.** -/
theorem Runner.make_cases [Clocked σ] {runner : Runner σ} {machine : Machine}
    (loaded : runner.machine = some machine) (made : Call) (payload : Value) (world : σ) :
    (runner.make made payload world).2 = (runner, world) ∨
      ∃ move blocks result finish, runner.Begins made machine move ∧
        Course runner.toSetup payload [] move { machine, world } blocks result finish ∧
        (runner.make made payload world).2.1.machine = some finish.machine ∧
        (runner.make made payload world).2.2 = finish.world := by
  rcases runner.declines_or_begins made with ⟨answer, declines⟩ | ⟨_, move, begins⟩
  · rw [make_of_declines declines]
    exact .inl rfl
  · cases loaded.symm.trans begins.loaded
    rw [make_of_begins begins]
    obtain ⟨blocks, course⟩ := Engine.transition_course runner.toSetup payload move
      { machine, world }
    exact .inr ⟨move, blocks, _, _, begins, course, rfl, rfl⟩

/-- A call leaves the callables and the hook of the runner. -/
theorem Runner.toSetup_make [Clocked σ] (runner : Runner σ) (call : Call) (payload : Value)
    (world : σ) :
    (runner.make call payload world).2.1.toSetup = runner.toSetup := by
  rcases runner.declines_or_begins call with ⟨answer, declines⟩ | ⟨_, move, begins⟩
  · rw [make_of_declines declines]
  · rw [make_of_begins begins]
    rfl

/-- A flush leaves the callables and the hook of the runner. -/
theorem Runner.toSetup_flush (runner : Runner σ) (world : σ) :
    (runner.flush world).2.1.toSetup = runner.toSetup := by
  unfold Runner.flush
  cases runner.machine <;> rfl

/-- What is dumped of a loaded runner. -/
theorem Runner.dump_eq {runner : Runner σ} {machine : Machine}
    (loaded : runner.machine = some machine) (format : DumpFormat) :
    runner.dump format = .ok (machine.encode format) := by
  unfold dump Runner.loaded
  rw [loaded]
  rfl

namespace Operation

theorem appends_nil (operation : Operation σ) : operation.Appends [] := by
  cases operation with
  | call made payload => cases made <;> exact .inl rfl
  | _ => exact rfl

variable {runner : Runner σ} {machine finish : Machine} {world : σ}

/-- A flush leaves the machine as it is. -/
theorem machine_flush (runner : Runner σ) (world : σ) :
    (runner.flush world).2.1.machine = runner.machine := by
  unfold Runner.flush
  cases loaded : runner.machine with
  | none => exact loaded
  | some machine =>
    show some (Engine.on (Engine.flush runner.toSetup) { machine, world }).2.machine = _
    rw [Engine.on_flush]
    cases runner.flushHook <;> rfl

/-- A machine that is there after a loading is the one that was loaded. -/
theorem eq_of_machine_load (kept : (runner.load machine).2.machine = some finish) :
    machine = finish := by
  unfold Runner.load at kept
  dsimp only at kept
  split at kept
  · cases kept
  · exact Option.some.inj kept

/-- A machine that is resumed has the history that was dumped. -/
theorem resume_continues {format : DumpFormat} (built : machine.chart.Built)
    (chronicled : machine.Chronicled)
    (kept : (runner.loadDump (machine.encode format)).2.machine = some finish) :
    machine.Continues finish [] := by
  unfold Runner.loadDump at kept
  cases decoded : Machine.decode? (machine.encode format) with
  | error fault => rw [decoded] at kept; cases kept
  | ok found =>
    rw [decoded] at kept
    have same := (chronicled.placed built).eq_of_decode?_encode decoded
    rw [← eq_of_machine_load kept, same]
    exact chronicled.withData _

variable [Clocked σ]

/-- A call goes on with the history. -/
theorem call_continues {made : Call} {payload : Value} (loaded : runner.machine = some machine)
    (built : machine.chart.Built) (chronicled : machine.Chronicled) (world : σ)
    (kept : (runner.make made payload world).2.1.machine = some finish) :
    ∃ added, (Operation.call made payload : Operation σ).Appends added ∧
      machine.Continues finish added := by
  rcases Runner.make_cases loaded made payload world with
    same | ⟨move, blocks, result, finish, begins, course, there, -⟩
  · rw [same] at kept
    cases loaded.symm.trans kept
    exact ⟨[], appends_nil _, .refl chronicled⟩
  · cases there.symm.trans kept
    obtain ⟨added, appends, continues⟩ := course.continues built chronicled begins.fits
    exact ⟨added, begins.appends payload appends, continues⟩

/-- An operation leaves a machine in one of its states, if the machine is still there. -/
theorem placed {operation : Operation σ} (going : operation.Continues)
    (loaded : runner.machine = some machine) (placed : machine.Placed)
    (kept : (operation.perform runner world).1.machine = some finish) : finish.Placed := by
  cases operation with
  | call made payload =>
    change (runner.make made payload world).2.1.machine = some finish at kept
    rcases Runner.make_cases loaded made payload world with
      same | ⟨move, blocks, result, finish, begins, course, there, -⟩
    · rw [same] at kept
      cases loaded.symm.trans kept
      exact placed
    · cases there.symm.trans kept
      exact course.placed placed begins.fits
  | flush =>
    cases (loaded.symm.trans (machine_flush runner world).symm).trans kept
    exact placed
  | modifyData change =>
    unfold perform Runner.modifyData at kept
    rw [loaded] at kept
    cases kept
    exact ⟨placed.built, placed.inside⟩
  | override overrides =>
    cases loaded.symm.trans kept
    exact placed
  | resume format =>
    unfold perform Runner.loadDump at kept
    dsimp only at kept
    rw [Runner.dump_eq loaded] at kept
    cases decoded : Machine.decode? (machine.encode format) with
    | error fault => simp only [decoded] at kept; cases kept
    | ok found =>
      simp only [decoded] at kept
      rw [← eq_of_machine_load kept]
      exact Machine.placed_of_decode? decoded
  | load _ => cases going
  | loadDump _ => cases going
  | loadDescription _ => cases going
  | clear => cases going

/-- **An operation goes on with the history**, if the machine is still there. -/
theorem continues {operation : Operation σ} (going : operation.Continues)
    (loaded : runner.machine = some machine) (built : machine.chart.Built)
    (chronicled : machine.Chronicled)
    (kept : (operation.perform runner world).1.machine = some finish) :
    ∃ added, operation.Appends added ∧ machine.Continues finish added := by
  cases operation with
  | call made payload => exact call_continues loaded built chronicled world kept
  | flush =>
    rw [show (perform .flush runner world).1.machine = runner.machine from
      machine_flush runner world, loaded] at kept
    cases kept
    exact ⟨[], rfl, .refl chronicled⟩
  | modifyData change =>
    unfold perform Runner.modifyData at kept
    rw [loaded] at kept
    cases kept
    exact ⟨[], rfl, chronicled.withData _⟩
  | override overrides =>
    cases loaded.symm.trans kept
    exact ⟨[], rfl, .refl chronicled⟩
  | resume format =>
    unfold perform at kept
    dsimp only at kept
    rw [Runner.dump_eq loaded] at kept
    exact ⟨[], rfl, resume_continues built chronicled kept⟩
  | load _ => cases going
  | loadDump _ => cases going
  | loadDescription _ => cases going
  | clear => cases going

/-- What is not loaded is not loaded by going on. -/
theorem unloaded_perform {operation : Operation σ} (going : operation.Continues)
    (unloaded : runner.machine = none) (world : σ) :
    (operation.perform runner world).1.machine = none := by
  cases operation with
  | call made payload =>
    show (runner.make made payload world).2.1.machine = none
    rw [Runner.make_of_declines (.unloaded unloaded)]
    exact unloaded
  | flush => exact (machine_flush runner world).trans unloaded
  | modifyData change =>
    unfold perform Runner.modifyData
    rw [unloaded]
    exact unloaded
  | override overrides => exact unloaded
  | resume format =>
    have missing : runner.dump format = .error .notLoaded := by
      unfold Runner.dump Runner.loaded
      rw [unloaded]
      rfl
    unfold perform
    dsimp only
    rw [missing]
    exact unloaded
  | load _ => cases going
  | loadDump _ => cases going
  | loadDescription _ => cases going
  | clear => cases going

/-- Only a resuming takes the machine away. -/
theorem loaded_perform {operation : Operation σ} (going : operation.Continues)
    (staying : ∀ format, operation ≠ .resume format) (loaded : runner.machine = some machine)
    (world : σ) : ∃ later, (operation.perform runner world).1.machine = some later := by
  cases operation with
  | call made payload =>
    show ∃ later, (runner.make made payload world).2.1.machine = some later
    rcases Runner.make_cases loaded made payload world with
      same | ⟨move, blocks, result, finish, begins, course, there, -⟩
    · rw [same]
      exact ⟨machine, loaded⟩
    · exact ⟨finish.machine, there⟩
  | flush => exact ⟨machine, (machine_flush runner world).trans loaded⟩
  | modifyData change =>
    unfold perform Runner.modifyData
    rw [loaded]
    exact ⟨_, rfl⟩
  | override overrides => exact ⟨machine, loaded⟩
  | resume format => exact absurd rfl (staying format)
  | load _ => cases going
  | loadDump _ => cases going
  | loadDescription _ => cases going
  | clear => cases going

/-! ### Runs -/

theorem unloaded_run {operations : List (Operation σ)}
    (going : ∀ operation ∈ operations, operation.Continues) (unloaded : runner.machine = none)
    (world : σ) : (run operations runner world).1.machine = none := by
  induction operations generalizing runner world with
  | nil => exact unloaded
  | cons operation operations ih =>
    exact ih (fun operation member => going operation (List.mem_cons_of_mem _ member))
      (unloaded_perform (going operation List.mem_cons_self) unloaded world) _

/-- A run goes on with the history, if the machine is still there. -/
theorem run_continues {operations : List (Operation σ)}
    (going : ∀ operation ∈ operations, operation.Continues) (loaded : runner.machine = some machine)
    (built : machine.chart.Built) (chronicled : machine.Chronicled)
    (kept : (run operations runner world).1.machine = some finish) :
    ∃ added, machine.Continues finish added := by
  induction operations generalizing runner world machine with
  | nil =>
    cases loaded.symm.trans kept
    exact ⟨[], .refl chronicled⟩
  | cons operation operations ih =>
    have further : ∀ operation ∈ operations, operation.Continues :=
      fun operation member => going operation (List.mem_cons_of_mem _ member)
    change (run operations (operation.perform runner world).1
      (operation.perform runner world).2).1.machine = some finish at kept
    cases middle : (operation.perform runner world).1.machine with
    | none =>
      rw [unloaded_run further middle] at kept
      cases kept
    | some next =>
      obtain ⟨first, -, before⟩ := continues (going operation List.mem_cons_self) loaded built
        chronicled middle
      obtain ⟨second, after⟩ := ih further middle (before.chart ▸ built) before.chronicled kept
      refine ⟨first ++ second, after.chart.trans before.chart, after.chronicled, ?_⟩
      rw [after.history, before.history, List.append_assoc]

/-- **The history of a machine in any run.** After every run of operations that go on with a built
machine, the history tells how the machine came where it is. Every further operation leaves the
history as a prefix, and appends what such an operation may append. Only a resuming may fail to
give the machine again. -/
theorem run_chronicled {description : Description} {machine : Machine}
    (described : description.build = .ok machine) {runner : Runner σ}
    (loaded : runner.machine = some machine) {operations : List (Operation σ)}
    (going : ∀ operation ∈ operations, operation.Continues) (world : σ) {now : Machine}
    (kept : (run operations runner world).1.machine = some now) :
    now.chart = machine.chart ∧ now.Chronicled ∧
      ∀ next : Operation σ, next.Continues →
        let after := next.perform (run operations runner world).1 (run operations runner world).2
        ((∀ format, next ≠ .resume format) → after.1.machine ≠ none) ∧
        ∀ later, after.1.machine = some later →
          ∃ added, next.Appends added ∧ later.history = now.history ++ added := by
  obtain ⟨built, chronicled⟩ := Description.of_build described
  obtain ⟨_, reached⟩ := run_continues going loaded built chronicled kept
  refine ⟨reached.chart, reached.chronicled, fun next onward => ⟨fun staying => ?_, ?_⟩⟩
  · obtain ⟨later, there⟩ := loaded_perform onward staying kept (run operations runner world).2
    rw [there]
    exact Option.some_ne_none later
  · intro later there
    obtain ⟨added, appends, continues⟩ := continues onward kept (reached.chart ▸ built)
      reached.chronicled there
    exact ⟨added, appends, continues.history⟩

end Operation

/-! ### A door -/

/-- A world that counts how often its clock is read. -/
instance : Clocked Nat where
  now count := (count, count + 1)

/-- A door that is shut until it is pushed. -/
def door : Description where
  states :=
    [{ (StateDescription.new "shut").on "push" "wide" with isInitial := true }, .new "wide"]

/-- The states of the door. -/
def doorStates : List State :=
  [{ State.new "shut" with
      events := Dict.empty.insert "push" "wide", isInitial := true, isFinal := false },
    State.new "wide"]

/-- The door before it is used. -/
def shutDoor : Machine where
  chart :=
    { id := Chart.contentId doorStates
      states := doorStates
      index := Chart.indexOf doorStates
      table := Chart.tableOf doorStates (Chart.indexOf doorStates)
      initial := 0
      initial_lt := by decide
      finals := Chart.positionsOf State.isFinal doorStates }
  name := ""
  current := none
  history := []
  datamodel := ∅

theorem build_door : door.build = .ok shutDoor := by
  have built : Chart.ofStates? doorStates = .ok shutDoor.chart := by
    refine Chart.ofStates?_eq_ok_iff.2 ⟨?_, by decide, rfl, rfl, rfl, rfl, rfl, rfl, rfl⟩
    exact (Chart.sorted_of_pairwise (by decide)).symm
  show Machine.ofStates? "" doorStates ∅ = _
  unfold Machine.ofStates?
  rw [built]
  rfl

namespace Operation

/-- The door is pushed. -/
def push : List (Operation Nat) := [.call .start .null, .call (.send "push") .null]

/-- The history of the door that was pushed. -/
theorem run_chronicled_door : ∃ now : Machine,
    (run push { resolver := .none, machine := some shutDoor } 0).1.machine = some now ∧
      now.history = [⟨0, none, none, "shut", .initial⟩,
        ⟨1, some "push", some "shut", "wide", .event⟩] ∧ now.Chronicled := by
  obtain ⟨now, kept, history⟩ := Option.map_eq_some_iff.1 (show
    (run push { resolver := .none, machine := some shutDoor } 0).1.machine.map Machine.history =
      some [⟨0, none, none, "shut", .initial⟩, ⟨1, some "push", some "shut", "wide", .event⟩]
    by decide +kernel)
  have going : ∀ operation ∈ push, operation.Continues := by simp [push, Continues]
  have chronicled := run_chronicled build_door rfl going 0 kept
  exact ⟨now, kept, history, chronicled.2.1⟩

end Operation

end Statechart
