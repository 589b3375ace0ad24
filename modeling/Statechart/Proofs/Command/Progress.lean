/-
**How a run goes on with its runner.**

A run that sends events has a runner without callables, whose machine is kept in the files of a
directory. What it does with an event is decided by the machine: it makes the transition, or the run
stops and leaves everything as it was. Two runs whose machines agree up to times stay abreast.

* `Progress.Holds`: a run has a machine, and the store has it too if all moves are written.
* `Progress.Holds.send_of_answer`, `Progress.Holds.send_of_refusal`: what a run does with an event.
* `Progress.Abreast.sendAll`: two runs that are sent the same events.
* `Progress.Holds.left`: what is stored when the runner is given back.
-/

import Statechart.Command.Run
import Statechart.Proofs.Pool.Opened
import Statechart.Proofs.Runner.Bare
import Statechart.Proofs.Runner.Untimed
import Statechart.Proofs.Store.Keeping

namespace Statechart.Command

open Json

/-! ### Workplaces -/

namespace Workplace

/-- The directory of a path is there, by the path of a directory. -/
def IsOpen (path directory : String) (workplace : Workplace) : Prop :=
  workplace.storage.files.createDirectories path = .ok (directory, workplace.storage.files)

/-- What a directory keeps under a key. -/
def dumpAt (directory : String) (workplace : Workplace) (key : MachineKey) : Option Bytes :=
  workplace.storage.dumpAt directory key

/-- The store of a directory. -/
abbrev storeOf (directory : String) : MachineStore Workplace :=
  workplaceStore (Storage.fileStore directory)

theorem storeOf_keeps (directory : String) : (storeOf directory).Keeps (dumpAt directory) :=
  (Storage.fileStore_keeps directory).within fun _ _ => rfl

/-- The workplace with other files in a directory. -/
def withDirectory (workplace : Workplace) (directory : String) (files : Directory) : Workplace :=
  { workplace with
    storage.files := workplace.storage.files.withDirectory directory files }

variable {path directory : String} {workplace : Workplace}

/-- A directory stays when it is given other files. -/
theorem IsOpen.withDirectory (opened : workplace.IsOpen path directory) (files : Directory) :
    (workplace.withDirectory directory files).IsOpen path directory :=
  FileTree.createDirectories_again opened fun _ => FileTree.isDirectory_withDirectory

/-- The files that a directory is given are what it keeps then. -/
theorem dumpAt_withDirectory (files : Directory) (key : MachineKey) :
    (workplace.withDirectory directory files).dumpAt directory key = files.get? key.fileName := by
  unfold dumpAt Storage.dumpAt withDirectory
  rw [FileTree.directoryAt_withDirectory_self]

end Workplace

/-! ### Runners of runs -/

/-- The runner of a run that holds a machine: it knows no identifiers, and writes the machine of a
key to a directory if every move is to be written. -/
def runnerOf (config : Config) (directory : String) (key : MachineKey) (machine : Machine) :
    Runner Workplace where
  resolver := .none
  options := config.runner
  flushHook :=
    if config.pool.autosave then some (Pool.autosaveHook (Workplace.storeOf directory) key)
    else none
  machine := some machine

/-- Some bytes are the dump of a machine, or are read as the machine. -/
def Dumps (machine : Machine) (bytes : Bytes) : Prop :=
  bytes = machine.encode .binary ∨ Machine.decode? bytes = .ok machine

/-- **A run has a machine**: a machine of its key that is in one of its states and has nothing to
call, and whose dump is kept if every move is written. -/
structure Progress.Holds (config : Config) (directory : String) (key : MachineKey)
    (progress : Progress) (machine : Machine) : Prop where
  runner : progress.runner = runnerOf config directory key machine
  bare : (runnerOf config directory key machine).toSetup.Bare machine.chart
  owned : machine.key? = some key
  placed : machine.Placed
  somewhere : machine.currentPlace?.isSome = true
  opened : progress.workplace.IsOpen config.storage.machinesDirectory directory
  kept : config.pool.autosave = true →
    ∃ bytes, progress.workplace.dumpAt directory key = some bytes ∧ Dumps machine bytes

section Saving

variable {config : Config} {directory : String} {key : MachineKey} {machine : Machine}
  {workplace : Workplace}

/-- The workplace after the dump of a machine is saved. -/
def Workplace.saved (directory : String) (key : MachineKey) (machine : Machine)
    (workplace : Workplace) : Workplace :=
  ((storeOf directory).save key (machine.encode .binary) workplace).2

theorem Workplace.save_eq (accepted : ∀ bytes files, (Directory.save key bytes files).1 = .ok ()) :
    (storeOf directory).save key (machine.encode .binary) workplace =
      (.ok (), workplace.saved directory key machine) :=
  Prod.ext (accepted _ _) rfl

theorem Workplace.IsOpen.saved {path : String} (opened : workplace.IsOpen path directory) :
    (workplace.saved directory key machine).IsOpen path directory :=
  opened.withDirectory _

/-- What is saved is kept. -/
theorem Workplace.dumpAt_saved
    (accepted : ∀ bytes files, (Directory.save key bytes files).1 = .ok ()) :
    (workplace.saved directory key machine).dumpAt directory key =
      some (machine.encode .binary) := by
  rw [(storeOf_keeps directory).saved (save_eq accepted), Function.update_self]

/-- The workplace after a move. -/
def Workplace.moved (config : Config) (directory : String) (key : MachineKey) (machine : Machine)
    (workplace : Workplace) : Workplace :=
  if config.pool.autosave then workplace.saved directory key machine else workplace

/-- The runner of a run tells of a move, and is not refused. -/
theorem flushed_runnerOf (accepted : ∀ bytes files, (Directory.save key bytes files).1 = .ok ())
    (other : Machine) :
    (runnerOf config directory key other).toSetup.flushed { machine, world := workplace } =
      (.ok (), { machine, world := workplace.moved config directory key machine }) := by
  unfold Setup.flushed Workplace.moved runnerOf
  by_cases written : config.pool.autosave = true
  · simp only [if_pos written, Motion.tell, Pool.autosaveHook, Workplace.save_eq accepted]
    rfl
  · simp only [if_neg written]

/-- **A runner of a run makes a transition**, whatever it is told with it. -/
theorem make_runnerOf (accepted : ∀ bytes files, (Directory.save key bytes files).1 = .ok ())
    (bare : (runnerOf config directory key machine).toSetup.Bare machine.chart) {call : Call}
    {move : Move} (begins : (runnerOf config directory key machine).Begins call machine move)
    (payload : Value) :
    let next := machine.moved config.runner.mergePayload move payload workplace.now
    (runnerOf config directory key machine).make call payload workplace =
      (.ok true, runnerOf config directory key next,
        workplace.moved config directory key next) :=
  Runner.make_of_bare begins bare (flushed_runnerOf accepted machine)

end Saving

/-! ### Starting and sending -/

section Sending

variable {config : Config} {directory : String} {key : MachineKey} {machine next : Machine}
  {workplace : Workplace} {progress : Progress} {payload : Value}

/-- A run has the machine that makes a transition. -/
theorem Progress.holds_of_moved
    (accepted : ∀ bytes files, (Directory.save key bytes files).1 = .ok ())
    (bare : (runnerOf config directory key machine).toSetup.Bare machine.chart)
    (owned : machine.key? = some key)
    (opened : workplace.IsOpen config.storage.machinesDirectory directory)
    (placed : machine.Placed) {move : Move} (fits : move.Fits machine)
    (moved : next = machine.moved config.runner.mergePayload move payload workplace.now)
    (runner : progress.runner = runnerOf config directory key next)
    (moved' : progress.workplace = workplace.moved config directory key next) :
    progress.Holds config directory key next where
  runner := runner
  bare := moved ▸ bare
  owned := by rw [moved, Machine.key?_moved, owned]
  placed := moved ▸ placed.moved fits
  somewhere := by rw [moved, Machine.currentPlace?_moved fits.place?, Option.isSome_some]
  opened := by
    rw [moved']
    unfold Workplace.moved
    split
    · exact opened.saved
    · exact opened
  kept := by
    intro written
    rw [moved']
    unfold Workplace.moved
    rw [if_pos written, Workplace.dumpAt_saved accepted]
    exact ⟨_, rfl, .inl rfl⟩

theorem currentState_runnerOf {place : Place} (here : machine.currentPlace? = some place) :
    (runnerOf config directory key machine).currentState = .ok place.state := by
  unfold Runner.currentState
  rw [Runner.started_eq rfl, here]
  rfl

/-- **An event that leads on is sent.** -/
theorem Progress.Holds.send_of_answer (holds : progress.Holds config directory key machine)
    (accepted : ∀ bytes files, (Directory.save key bytes files).1 = .ok ())
    (going : progress.succeeded = true) {event : String}
    (answers : machine.answer? config.runner.mergePayload payload progress.workplace.now event =
      some next) :
    (progress.send payload event).succeeded = true ∧
      (progress.send payload event).Holds config directory key next := by
  obtain ⟨move, moves, rfl⟩ := Option.map_eq_some_iff.1 answers
  obtain ⟨source, destination, here, leads, rfl⟩ := Machine.moveOn?_eq_some_iff.1 moves
  have begins : (runnerOf config directory key machine).Begins (.send event) machine
      (.between .event event source destination) := .send rfl here leads
  have there : (machine.moved config.runner.mergePayload (.between .event event source destination)
      payload progress.workplace.now).currentPlace? = some destination :=
    Machine.currentPlace?_moved begins.fits.place?
  have made : (runnerOf config directory key machine).send event payload progress.workplace =
      (.ok true, runnerOf config directory key _,
        progress.workplace.moved config directory key _) :=
    make_runnerOf accepted holds.bare begins payload
  unfold Progress.send
  rw [going, holds.runner, made]
  simp only [Bool.not_true, Bool.false_eq_true, if_false, currentState_runnerOf there]
  exact ⟨rfl, holds_of_moved accepted holds.bare holds.owned holds.opened holds.placed begins.fits
    rfl rfl rfl⟩

/-- **An event that does not lead on stops a run**, which leaves everything as it was. -/
theorem Progress.Holds.send_of_refusal (holds : progress.Holds config directory key machine)
    (going : progress.succeeded = true) {event : String} {time : Int}
    (refuses : machine.answer? config.runner.mergePayload payload time event = none) :
    (progress.send payload event).succeeded = false ∧
      (progress.send payload event).Holds config directory key machine := by
  obtain ⟨source, here⟩ := Option.isSome_iff_exists.1 holds.somewhere
  have nowhere : machine.chart.destination? event source.position = none := by
    apply Option.eq_none_iff_forall_ne_some.2
    simpa [Machine.answer?, Machine.moveOn?, here] using refuses
  obtain ⟨error, failed⟩ : ∃ error,
      (runnerOf config directory key machine).send event payload progress.workplace =
        (.error error, runnerOf config directory key machine, progress.workplace) := by
    cases registered : machine.chart.isRegistered event with
    | true => exact ⟨_, Runner.make_of_declines (.impossible rfl here nowhere registered)⟩
    | false => exact ⟨_, Runner.make_of_declines (.unregistered rfl here nowhere registered)⟩
  unfold Progress.send
  rw [going, holds.runner, failed]
  exact ⟨rfl, rfl, holds.bare, holds.owned, holds.placed, holds.somewhere, holds.opened,
    holds.kept⟩

/-- A run that has stopped sends nothing. -/
theorem Progress.send_of_stopped (stopped : progress.succeeded = false) (event : String) :
    progress.send payload event = progress := by
  unfold Progress.send
  rw [stopped]
  rfl

theorem Progress.sendAll_of_stopped (stopped : progress.succeeded = false) (events : List String) :
    events.foldl (Progress.send payload) progress = progress := by
  induction events with
  | nil => rfl
  | cons event events ih => rw [List.foldl_cons, send_of_stopped stopped, ih]

/-- **A run that stops at an event has the machine that it had before.** -/
theorem Progress.Holds.send_of_failure (holds : progress.Holds config directory key machine)
    (accepted : ∀ bytes files, (Directory.save key bytes files).1 = .ok ()) {event : String}
    (failed : (progress.send payload event).succeeded = false) :
    (progress.send payload event).Holds config directory key machine := by
  cases going : progress.succeeded with
  | false =>
    rw [send_of_stopped going]
    exact holds
  | true =>
    cases answered : machine.answer? config.runner.mergePayload payload progress.workplace.now
      event with
    | none => exact (holds.send_of_refusal going answered).2
    | some next =>
      cases failed.symm.trans (holds.send_of_answer accepted going answered).1

/-- What a run begins with: a machine that is started if it was not, which is told at once. -/
theorem Progress.start_holds
    (accepted : ∀ bytes files, (Directory.save key bytes files).1 = .ok ())
    (runner : progress.runner = runnerOf config directory key machine)
    (bare : (runnerOf config directory key machine).toSetup.Bare machine.chart)
    (owned : machine.key? = some key)
    (opened : progress.workplace.IsOpen config.storage.machinesDirectory directory)
    (placed : machine.Placed)
    (kept : machine.isStarted = true → config.pool.autosave = true →
      ∃ bytes, progress.workplace.dumpAt directory key = some bytes ∧ Dumps machine bytes) :
    (progress.start key payload).succeeded = progress.succeeded ∧
      (progress.start key payload).Holds config directory key
        (machine.begun config.runner.mergePayload payload progress.workplace.now) := by
  unfold Progress.start Machine.begun
  by_cases started : machine.isStarted = true
  · have declines : (runnerOf config directory key machine).Declines .start (.ok false) :=
      .started rfl started
    have declined : (runnerOf config directory key machine).start payload progress.workplace =
        (.ok false, runnerOf config directory key machine, progress.workplace) :=
      Runner.make_of_declines declines
    rw [runner, declined, if_pos started]
    obtain ⟨position, here⟩ := Option.isSome_iff_exists.1 started
    obtain ⟨place, there, -⟩ := placed.currentPlace? here
    exact ⟨rfl, rfl, bare, owned, placed, Option.isSome_iff_exists.2 ⟨place, there⟩, opened,
      kept started⟩
  · have begins : (runnerOf config directory key machine).Begins .start machine
        (.initial machine.chart) := .start rfl (Bool.eq_false_iff.2 started)
    have made : (runnerOf config directory key machine).start payload progress.workplace =
        (.ok true, runnerOf config directory key _,
          progress.workplace.moved config directory key _) :=
      make_runnerOf accepted bare begins payload
    rw [runner, made, if_neg started]
    exact ⟨rfl, holds_of_moved accepted bare owned opened placed begins.fits rfl rfl rfl⟩

/-- A run that has a machine can show where it is, and changes nothing by that. -/
theorem Progress.Holds.showPosition (holds : progress.Holds config directory key machine) :
    progress.showPosition.succeeded = progress.succeeded ∧
      progress.showPosition.runner = progress.runner ∧
      progress.showPosition.workplace = progress.workplace := by
  obtain ⟨place, here⟩ := Option.isSome_iff_exists.1 holds.somewhere
  obtain ⟨lines, shown⟩ : ∃ lines, positionLines progress.runner = .ok lines := by
    have started : progress.runner.started = .ok (machine, place) := by
      rw [holds.runner, Runner.started_eq rfl, here]
    unfold positionLines Runner.currentState Runner.isFinished Runner.possibleTransitions
    rw [started, holds.runner]
    exact ⟨_, rfl⟩
  unfold Progress.showPosition
  rw [shown]
  cases going : progress.succeeded with
  | false => exact ⟨going, rfl, rfl⟩
  | true => exact ⟨going, rfl, rfl⟩

/-- The workplace after the runner of a run is given back. -/
def Workplace.left (config : Config) (directory : String) (key : MachineKey) (machine : Machine)
    (workplace : Workplace) : Workplace :=
  if config.pool.flushOnRelease then workplace.saved directory key machine else workplace

/-- **What a run leaves**: its directory, and there the machine that it had. -/
theorem Progress.Holds.left (holds : progress.Holds config directory key machine)
    (accepted : ∀ bytes files, (Directory.save key bytes files).1 = .ok ())
    (writes : config.pool.flushOnRelease = true ∨ config.pool.autosave = true) :
    (progress.workplace.left config directory key machine).IsOpen
        config.storage.machinesDirectory directory ∧
      ∃ bytes, (progress.workplace.left config directory key machine).dumpAt directory key =
        some bytes ∧ Dumps machine bytes := by
  unfold Workplace.left
  by_cases flushes : config.pool.flushOnRelease = true
  · rw [if_pos flushes, Workplace.dumpAt_saved accepted]
    exact ⟨holds.opened.saved, _, rfl, .inl rfl⟩
  · rw [if_neg flushes]
    exact ⟨holds.opened, holds.kept (writes.resolve_left flushes)⟩

end Sending

/-! ### Two runs -/

/-- Two runs have come equally far: both go on or both have stopped, with machines that agree up to
times. -/
def Progress.Abreast (config : Config) (directory : String) (key : MachineKey)
    (first second : Progress) : Prop :=
  first.succeeded = second.succeeded ∧ ∃ machine machine', machine.untimed = machine'.untimed ∧
    first.Holds config directory key machine ∧ second.Holds config directory key machine'

namespace Progress.Abreast

variable {config : Config} {directory : String} {key : MachineKey} {first second : Progress}
  {payload : Value}

/-- **Runs that have come equally far do so again with the next event.** -/
theorem send (abreast : Abreast config directory key first second)
    (accepted : ∀ bytes files, (Directory.save key bytes files).1 = .ok ()) (event : String) :
    Abreast config directory key (first.send payload event) (second.send payload event) := by
  obtain ⟨alike, machine, machine', same, holds, holds'⟩ := abreast
  cases going : first.succeeded with
  | false =>
    rw [send_of_stopped going, send_of_stopped (alike ▸ going)]
    exact ⟨alike, machine, machine', same, holds, holds'⟩
  | true =>
    have going' : second.succeeded = true := alike ▸ going
    have answers : (machine.answer? config.runner.mergePayload payload first.workplace.now
          event).map Machine.untimed =
        (machine'.answer? config.runner.mergePayload payload second.workplace.now event).map
          Machine.untimed := Machine.untimed_answer? same event
    cases answered : machine.answer? config.runner.mergePayload payload first.workplace.now
      event with
    | none =>
      rw [answered, Option.map_none] at answers
      have refuses := Option.map_eq_none_iff.1 answers.symm
      obtain ⟨stopped, left⟩ := holds.send_of_refusal going answered
      obtain ⟨stopped', left'⟩ := holds'.send_of_refusal going' refuses
      exact ⟨stopped.trans stopped'.symm, machine, machine', same, left, left'⟩
    | some next =>
      rw [answered, Option.map_some] at answers
      obtain ⟨next', answered', same'⟩ := Option.map_eq_some_iff.1 answers.symm
      obtain ⟨goes, left⟩ := holds.send_of_answer accepted going answered
      obtain ⟨goes', left'⟩ := holds'.send_of_answer accepted going' answered'
      exact ⟨goes.trans goes'.symm, next, next', same'.symm, left, left'⟩

/-- **Runs that have come equally far do so again when both are sent the same events.** -/
theorem sendAll (abreast : Abreast config directory key first second)
    (accepted : ∀ bytes files, (Directory.save key bytes files).1 = .ok ())
    (events : List String) :
    Abreast config directory key (events.foldl (Progress.send payload) first)
      (events.foldl (Progress.send payload) second) := by
  induction events generalizing first second with
  | nil => exact abreast
  | cons event events ih => exact ih (abreast.send accepted event)

end Progress.Abreast

end Statechart.Command
