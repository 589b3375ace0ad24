/-
**Runs that send events.**

Such a run reads the chart, opens the store, and is lent a runner with the machine of the owner: the
stored one, or else a new one. It starts the machine or goes on with it, sends the events up to the
first that fails, and gives the runner back.

* `Sending.run`: a run.
* `Sending.reached?`: how far a run has come when it has sent some events.
* `Sending.Opens`: what it takes to be lent a runner, and with which machine.
* `Sending.Opens.run_eq`: what a run leaves that is lent one.
-/

import Statechart.Proofs.Command.Progress

namespace Statechart.Command

open Json

/-- What runs have in common that send events to one machine. -/
structure Sending where
  config : Config
  path : String
  owner : String
  payload : Option String

namespace Sending

/-- A run that sends events. -/
def run (sending : Sending) (events : List String) (files : FileTree) (now : Int) : Result :=
  (perform sending.config { files } now
    (.send sending.path sending.owner events sending.payload)).result

/-- The key of the owner's machine with a chart. -/
def key (sending : Sending) (chart : Machine) : MachineKey where
  owner := sending.owner
  chartType := chart.name

/-- The machine that is stored under a key. -/
def stored? (sending : Sending) (key : MachineKey) (files : FileTree) : Option Machine :=
  match sending.config.storage.openStore { files } with
  | (.error _, _) => none
  | (.ok store, storage) =>
    match store.load key storage with
    | (.ok (some bytes), _) => (Machine.decode? bytes).toOption
    | _ => none

/-- How far a run has come when it has sent some events, if a runner is lent to it. -/
def reached? (sending : Sending) (events : List String) (files : FileTree) (now : Int) :
    Option Progress :=
  match loadChart files sending.path, payloadOf? sending.payload with
  | .ok chart, some payload =>
    match sending.config.storage.openStore { files } with
    | (.error _, _) => none
    | (.ok store, storage) =>
      let pool := poolFor sending.config store chart
      match pool.acquire (sending.key chart) { storage, now } with
      | (.error _, _, _) => none
      | (.ok guard, _, workplace) =>
        let lent : Progress := { succeeded := true, lines := [], runner := guard.runner, workplace }
        some (events.foldl (Progress.send payload) (lent.start (sending.key chart) payload))
  | _, _ => none

/-- The machine that a run has when it has sent some events. -/
def machine? (sending : Sending) (events : List String) (files : FileTree) (now : Int) :
    Option Machine := do
  let progress ← sending.reached? events files now
  progress.runner.machine

/-! ### Opening -/

/-- The machine that is there for the owner and a chart: the stored one, else a copy of the
chart. -/
inductive Finds (sending : Sending) (chart : Machine) : Option Bytes → Machine → Prop
  | stored {bytes : Bytes} {machine : Machine} (decoded : Machine.decode? bytes = .ok machine)
      (owned : machine.key? = some (sending.key chart)) : Finds sending chart (some bytes) machine
  | new : Finds sending chart none (chart.withOwner sending.owner)

/-- **A run is lent a runner that holds a machine**: the chart, the payload and the directory are
there, there are runners, and the machine that is found can be loaded. -/
structure Opens (sending : Sending) (files : FileTree) (chart : Machine) (payload : Value)
    (directory : String) (made : FileTree) (machine : Machine) : Prop where
  read : loadChart files sending.path = .ok chart
  parsed : payloadOf? sending.payload = some payload
  opened : files.createDirectories sending.config.storage.machinesDirectory = .ok (directory, made)
  roomy : sending.config.pool.capacity ≠ 0
  found : sending.Finds chart (Storage.dumpAt directory { files := made } (sending.key chart))
    machine
  able : ((Runner.new .none sending.config.runner : Runner Workplace).load machine).1 = .ok ()

variable {sending : Sending} {files made : FileTree} {chart machine : Machine} {payload : Value}
  {directory : String}

/-- **What is fetched is what is found**, and nothing changes but that the directory is there. -/
theorem fetch_poolFor (sending : Sending) (chart : Machine) (directory : String)
    (workplace : Workplace) :
    let fetched := (poolFor sending.config (Storage.fileStore directory) chart).fetch
      (sending.key chart) workplace
    (∀ machine, fetched.1 = .ok machine ↔
      sending.Finds chart (workplace.dumpAt directory (sending.key chart)) machine) ∧
    fetched.2 = workplace.withDirectory directory
      (workplace.storage.files.directoryAt directory) := by
  have loaded : (Workplace.storeOf directory).load (sending.key chart) workplace =
      (.ok (workplace.dumpAt directory (sending.key chart)),
        workplace.withDirectory directory (workplace.storage.files.directoryAt directory)) := rfl
  have registered : (poolFor sending.config (Storage.fileStore directory) chart).newMachine
      (sending.key chart) = .ok (chart.withOwner sending.owner) := by
    unfold Pool.newMachine poolFor Pool.registerChart key
    dsimp only
    rw [Dict.get?_insert, if_pos rfl]
  have shared : (poolFor sending.config (Storage.fileStore directory) chart).store =
      Workplace.storeOf directory := rfl
  unfold Pool.fetch
  rw [shared, loaded]
  cases workplace.dumpAt directory (sending.key chart) with
  | none =>
    dsimp only
    rw [registered]
    refine ⟨fun machine => ⟨?_, ?_⟩, rfl⟩
    · rintro ⟨⟩
      exact .new
    · rintro ⟨⟩
      rfl
  | some bytes =>
    refine ⟨fun machine => ⟨fun found => ?_, ?_⟩, rfl⟩
    · change Pool.ofStored _ bytes = .ok machine at found
      unfold Pool.ofStored at found
      split at found
      · cases found
      · next decoded =>
        split at found
        · next owned =>
          cases found
          exact .stored decoded owned
        · cases found
    · rintro (⟨decoded, owned⟩ | _)
      show Pool.ofStored _ bytes = .ok machine
      unfold Pool.ofStored
      rw [decoded]
      exact if_pos owned

theorem fresh_poolFor (config : Config) (store : MachineStore Storage) (chart : Machine) :
    (poolFor config store chart).Fresh (.new .none config.runner) :=
  Pool.fresh_new ..

/-- **What it takes to be lent a runner.** -/
theorem opens_of_reached? (file : sending.config.storage.backend = .file)
    (read : loadChart files sending.path = .ok chart) {events : List String} {now : Int}
    {progress : Progress} (reached : sending.reached? events files now = some progress) :
    ∃ payload directory made machine, sending.Opens files chart payload directory made machine := by
  unfold reached? at reached
  rw [read] at reached
  cases parsed : payloadOf? sending.payload with
  | none =>
    rw [parsed] at reached
    cases reached
  | some payload =>
    rw [parsed] at reached
    dsimp only at reached
    unfold StorageOptions.openStore at reached
    rw [file] at reached
    rcases opened : files.createDirectories sending.config.storage.machinesDirectory with
      fault | ⟨directory, made⟩
    · dsimp only at reached
      rw [opened] at reached
      cases reached
    · dsimp only at reached
      rw [opened] at reached
      dsimp only at reached
      split at reached
      · cases reached
      · next lent =>
        obtain ⟨roomy, machine, fetched, able⟩ :=
          (fresh_poolFor sending.config (Storage.fileStore directory) chart).of_acquire
            (congrArg Prod.fst lent)
        have found := ((fetch_poolFor sending chart directory _).1 machine).1 fetched
        exact ⟨payload, directory, made, machine, read, parsed, opened, roomy, found, able⟩

/-- A run that goes well was lent a runner. -/
theorem reached?_of_exitCode {events : List String} {now : Int}
    (exits : (sending.run events files now).exitCode = 0) :
    ∃ progress, sending.reached? events files now = some progress ∧
      progress.showPosition.succeeded = true := by
  have succeeded : (send sending.config { files } now sending.path sending.owner events
      sending.payload).succeeded = true := by
    by_contra failed
    unfold run perform Outcome.result at exits
    dsimp only at exits
    rw [if_neg failed] at exits
    cases exits
  unfold send at succeeded
  unfold reached?
  cases read : loadChart files sending.path with
  | error error =>
    rw [read] at succeeded
    cases succeeded
  | ok chart =>
    cases parsed : payloadOf? sending.payload with
    | none =>
      rw [read, parsed] at succeeded
      cases succeeded
    | some payload =>
      rw [read, parsed] at succeeded
      dsimp only at succeeded ⊢
      rcases opened : sending.config.storage.openStore { files } with ⟨fault | store, storage⟩
      · rw [opened] at succeeded
        cases succeeded
      · rw [opened] at succeeded
        unfold driveIn at succeeded
        dsimp only at succeeded ⊢
        unfold key
        rcases lent : (poolFor sending.config store chart).acquire
            { owner := sending.owner, chartType := chart.name } { storage, now } with
          ⟨fault | guard, pool, workplace⟩
        · rw [lent] at succeeded
          cases succeeded
        · rw [lent] at succeeded
          exact ⟨_, rfl, succeeded⟩

/-- The chart of a file is built of a description. -/
theorem exists_build_of_loadChart {path : String} (read : loadChart files path = .ok chart) :
    ∃ description : Description, description.build = .ok chart := by
  unfold loadChart at read
  split at read
  · cases read
  · split at read
    · cases read
    · split at read
      · cases read
      · next described =>
        cases read
        exact ⟨_, described⟩

/-- What a run begins with that is lent a runner with a machine. -/
def beginning (sending : Sending) (chart : Machine) (payload : Value) (directory : String)
    (made : FileTree) (machine : Machine) (now : Int) : Progress :=
  let opened : Workplace := { storage := { files := made }, now }
  let lent : Progress := {
    succeeded := true
    lines := []
    runner := runnerOf sending.config directory (sending.key chart) machine
    workplace := opened.withDirectory directory (made.directoryAt directory) }
  lent.start (sending.key chart) payload

namespace Opens

variable (opens : sending.Opens files chart payload directory made machine)

include opens

theorem openStore_eq (file : sending.config.storage.backend = .file) :
    sending.config.storage.openStore { files } =
      (.ok (Storage.fileStore directory), { files := made }) := by
  unfold StorageOptions.openStore
  rw [file]
  dsimp only
  rw [opens.opened]

/-- The runner that is lent. -/
theorem acquire_eq (now : Int) :
    ∃ guard next, (poolFor sending.config (Storage.fileStore directory) chart).acquire
        (sending.key chart) { storage := { files := made }, now } =
      (.ok guard, next, (⟨{ files := made }, now⟩ : Workplace).withDirectory directory
        (made.directoryAt directory)) ∧ guard.key = some (sending.key chart) ∧
      guard.runner = runnerOf sending.config directory (sending.key chart) machine ∧
      next.options = sending.config.pool ∧ next.store = Workplace.storeOf directory := by
  have fetches := fetch_poolFor sending chart directory ⟨{ files := made }, now⟩
  have fetched : (poolFor sending.config (Storage.fileStore directory) chart).fetch
      (sending.key chart) ⟨{ files := made }, now⟩ = (.ok machine, _) :=
    Prod.ext ((fetches.1 machine).2 opens.found) fetches.2
  obtain ⟨guard, next, lent, keyed, runner, options, store⟩ :=
    (fresh_poolFor sending.config (Storage.fileStore directory) chart).acquire_ok opens.roomy
      fetched opens.able
  refine ⟨guard, next, lent, keyed, runner.trans ?_, options, store⟩
  unfold Pool.withAutosave runnerOf
  by_cases written : sending.config.pool.autosave = true
  · rw [if_pos written]
    exact if_pos written
  · rw [if_neg written]
    exact if_neg written

theorem reached?_eq (file : sending.config.storage.backend = .file) (events : List String)
    (now : Int) : sending.reached? events files now = some (events.foldl (Progress.send payload)
      (sending.beginning chart payload directory made machine now)) := by
  obtain ⟨guard, next, lent, -, runner, -⟩ := opens.acquire_eq now
  unfold reached?
  rw [opens.read, opens.parsed]
  dsimp only
  rw [opens.openStore_eq file]
  dsimp only
  rw [lent]
  dsimp only
  rw [runner]
  rfl

/-- **What a run leaves that is lent a runner**: it goes well if all events were sent, and its
machine is written as the runner is given back. -/
theorem run_eq (file : sending.config.storage.backend = .file) {events : List String} {now : Int}
    {left : Machine}
    (holds : Progress.Holds sending.config directory (sending.key chart)
      (events.foldl (Progress.send payload)
        (sending.beginning chart payload directory made machine now)) left) :
    let progress := events.foldl (Progress.send payload)
      (sending.beginning chart payload directory made machine now)
    (sending.run events files now).exitCode = (if progress.succeeded then 0 else 1) ∧
      (sending.run events files now).files = (progress.workplace.left sending.config directory
        (sending.key chart) left).storage.files := by
  obtain ⟨guard, next, lent, keyed, runner, options, store⟩ := opens.acquire_eq now
  obtain ⟨same, stays, there⟩ := holds.showPosition
  intro progress
  have driven : drive (sending.key chart) events payload guard.runner
      ((⟨{ files := made }, now⟩ : Workplace).withDirectory directory
        (made.directoryAt directory)) = progress.showPosition := by
    rw [runner]
    rfl
  have released : (next.release { guard with runner := progress.showPosition.runner }
      progress.showPosition.workplace).2 =
        progress.workplace.left sending.config directory (sending.key chart) left := by
    have loaded : progress.showPosition.runner.machine = some left := by
      rw [stays, holds.runner]
      rfl
    rw [Pool.release_of_same keyed loaded holds.owned, there, options, store]
    rfl
  have sent : send sending.config { files } now sending.path sending.owner events sending.payload =
      { succeeded := progress.succeeded, lines := progress.showPosition.lines,
        storage := (progress.workplace.left sending.config directory (sending.key chart)
          left).storage } := by
    unfold send
    rw [opens.read, opens.parsed]
    dsimp only
    rw [opens.openStore_eq file]
    dsimp only
    unfold driveIn
    unfold key at lent driven
    rw [lent]
    dsimp only
    rw [driven, released, same]
  unfold run perform
  dsimp only
  rw [sent]
  exact ⟨rfl, rfl⟩

/-- The machine of a run has nothing to call. -/
theorem bare (verifies : sending.config.runner.verifyCallbacksOnLoad = true) :
    (runnerOf sending.config directory (sending.key chart) machine).toSetup.Bare machine.chart := by
  have able := opens.able
  cases fault : Runner.firstFault?
    (Runner.new .none sending.config.runner : Runner Workplace).toSetup machine.chart with
  | some error =>
    rw [Runner.load_of_fault verifies fault] at able
    cases able
  | none =>
    obtain ⟨callbacks, triggers⟩ := (Runner.firstFault?_eq_none_iff.1 fault).bare rfl rfl
    exact ⟨callbacks, triggers⟩

theorem owned : machine.key? = some (sending.key chart) := by
  have found := opens.found
  generalize Storage.dumpAt _ _ _ = bytes at found
  cases found with
  | stored _ owned => exact owned
  | new => exact Machine.key?_withOwner ..

/-- The machine of a run is in one of its states, if it was started. -/
theorem placed : machine.Placed := by
  obtain ⟨read, -, -, -, found, -⟩ := opens
  generalize Storage.dumpAt _ _ _ = bytes at found
  cases found with
  | stored decoded _ => exact Machine.placed_of_decode? decoded
  | new =>
    obtain ⟨description, described⟩ := exists_build_of_loadChart read
    obtain ⟨built, -, nowhere, -⟩ := Description.rest_of_build described
    refine ⟨built, fun position here => ?_⟩
    cases nowhere.symm.trans here

/-- A machine that was started is stored. -/
theorem stored_of_started (started : machine.isStarted = true) :
    ∃ bytes, Storage.dumpAt directory { files := made } (sending.key chart) = some bytes ∧
      Machine.decode? bytes = .ok machine := by
  have found := opens.found
  generalize Storage.dumpAt _ _ _ = bytes at found
  cases found with
  | stored decoded _ => exact ⟨_, rfl, decoded⟩
  | new =>
    obtain ⟨description, described⟩ := exists_build_of_loadChart opens.read
    have rest : chart.isStarted = false :=
      congrArg Option.isSome (Description.rest_of_build described).2.2.1
    cases rest.symm.trans started

/-- **What a run begins with**: its machine, which is started if it was not. -/
theorem holds_beginning (verifies : sending.config.runner.verifyCallbacksOnLoad = true)
    (accepted : ∀ bytes files, (Directory.save (sending.key chart) bytes files).1 = .ok ())
    (now : Int) :
    (sending.beginning chart payload directory made machine now).succeeded = true ∧
      (sending.beginning chart payload directory made machine now).Holds sending.config directory
        (sending.key chart) (machine.begun sending.config.runner.mergePayload payload now) := by
  have opened : Workplace.IsOpen sending.config.storage.machinesDirectory directory
      ⟨{ files := made }, now⟩ :=
    FileTree.createDirectories_again opens.opened fun _ => id
  refine Progress.start_holds accepted rfl (opens.bare verifies) opens.owned
    (opened.withDirectory _) opens.placed fun started _ => ?_
  obtain ⟨bytes, known, decoded⟩ := opens.stored_of_started started
  exact ⟨bytes, (Workplace.dumpAt_withDirectory _ _).trans known, .inr decoded⟩

end Opens

end Sending

end Statechart.Command
