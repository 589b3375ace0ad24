/-
**Events that are sent by several runs.**

A run starts the machine of an owner or goes on with it, and leaves it where the next run finds it.
So it does not matter whether events are sent by one run or by several, and a run that stops at an
event leaves what a run leaves that is not sent it. Each run tells the times of its own moves, so
that all this holds up to the times of the history.

* `Sending.ReadsBack`: the dump that a run leaves is read as it was printed.
* `Sending.StoresAlike`: the same machine is stored up to times.
* `Sending.Stops`: a run stops at an event.
* `Sending.IsKept`: the configurations with which the machine is kept.
* `Sending.run_append_alike`: one run against two, and one that stops against one that is sent less.
-/

import Statechart.Proofs.Command.Sending
import Statechart.Proofs.Pool.Restoration
import Statechart.Proofs.Runner.Nesting

namespace Statechart.Command.Sending

open Json Text

/-- **The dump of the machine that a run has at the end is read as it was printed**, and the header
of a frame can tell its length. -/
def ReadsBack (sending : Sending) (events : List String) (files : FileTree) (now : Int) : Prop :=
  ∀ machine, sending.machine? events files now = some machine →
    Dump.ofBytes? (utf8 machine.text) = some (Dump.ofMachine machine) ∧
      (utf8 machine.text).length < Nat.pow 2 32

/-- **The same machine is stored under a key**, up to the times of its history. -/
def StoresAlike (sending : Sending) (key : MachineKey) (files files' : FileTree) : Prop :=
  ∃ machine machine', sending.stored? key files = some machine ∧
    sending.stored? key files' = some machine' ∧ machine.untimed = machine'.untimed

/-- **A run sends some events and stops at the next one.** -/
def Stops (sending : Sending) (before : List String) (event : String) (files : FileTree)
    (now : Int) : Prop :=
  (∃ progress, sending.reached? before files now = some progress ∧ progress.succeeded = true) ∧
    ∃ progress, sending.reached? (before ++ [event]) files now = some progress ∧
      progress.succeeded = false

/-- **What the runs have to be given**: machines are kept in files and written when they move or
when they are given back, callables are verified when a machine is loaded, and no dump of the key is
refused. -/
structure IsKept (sending : Sending) (key : MachineKey) : Prop where
  file : sending.config.storage.backend = .file
  verifies : sending.config.runner.verifyCallbacksOnLoad = true
  writes : sending.config.pool.flushOnRelease = true ∨ sending.config.pool.autosave = true
  accepted : ∀ bytes files, (Directory.save key bytes files).1 = .ok ()

variable {sending : Sending} {files made : FileTree} {chart machine left : Machine}
  {payload : Value} {directory : String} {events : List String} {now now' : Int}

/-- What is stored of a machine is loaded as the machine, if its dump is read as it was printed. -/
theorem decode?_of_dumps {bytes : Bytes} (placed : machine.Placed) (dumps : Dumps machine bytes)
    (read : Dump.ofBytes? (utf8 machine.text) = some (Dump.ofMachine machine))
    (short : (utf8 machine.text).length < Nat.pow 2 32) : Machine.decode? bytes = .ok machine := by
  rcases dumps with rfl | decoded
  · exact placed.decode?_encode_of_ofBytes? read fun _ => short
  · exact decoded

namespace Opens

variable (opens : sending.Opens files chart payload directory made machine)
  (keeps : sending.IsKept (sending.key chart))

include opens keeps

/-- **Runs that are lent the same machine keep abreast**, be it at different times. -/
theorem abreast (events : List String) (now now' : Int) :
    Progress.Abreast sending.config directory (sending.key chart)
      (events.foldl (Progress.send payload)
        (sending.beginning chart payload directory made machine now))
      (events.foldl (Progress.send payload)
        (sending.beginning chart payload directory made machine now')) := by
  obtain ⟨going, holds⟩ := opens.holds_beginning keeps.verifies keeps.accepted now
  obtain ⟨going', holds'⟩ := opens.holds_beginning keeps.verifies keeps.accepted now'
  have beginnings : Progress.Abreast sending.config directory (sending.key chart)
      (sending.beginning chart payload directory made machine now)
      (sending.beginning chart payload directory made machine now') :=
    ⟨going.trans going'.symm, _, _, Machine.untimed_begun rfl, holds, holds'⟩
  exact beginnings.sendAll keeps.accepted events

omit keeps in
/-- The machine that a run has at the end. -/
theorem machine?_eq (file : sending.config.storage.backend = .file)
    (holds : Progress.Holds sending.config directory (sending.key chart)
      (events.foldl (Progress.send payload)
        (sending.beginning chart payload directory made machine now)) left) :
    sending.machine? events files now = some left := by
  unfold machine?
  rw [opens.reached?_eq file, Option.bind_eq_bind, Option.bind_some, holds.runner]
  rfl

section Ending

variable (holds : Progress.Holds sending.config directory (sending.key chart)
    (events.foldl (Progress.send payload)
      (sending.beginning chart payload directory made machine now)) left)
  (back : sending.ReadsBack events files now)

include holds back

/-- **What is there when a run is over**: the directory, and in it a dump that is read as the
machine that the run had. -/
theorem kept_at_end :
    let done := sending.run events files now
    done.files.createDirectories sending.config.storage.machinesDirectory =
        .ok (directory, done.files) ∧
      ∃ bytes, Storage.dumpAt directory { files := done.files } (sending.key chart) = some bytes ∧
        Machine.decode? bytes = .ok left := by
  obtain ⟨read, short⟩ := back left (opens.machine?_eq keeps.file holds)
  obtain ⟨opened, bytes, known, dumps⟩ := holds.left keeps.accepted keeps.writes
  intro done
  have files : done.files = _ := (opens.run_eq keeps.file holds).2
  rw [files]
  exact ⟨opened, bytes, known, decode?_of_dumps holds.placed dumps read short⟩

/-- **What is stored when a run is over** is the machine that the run had. -/
theorem stored?_eq :
    sending.stored? (sending.key chart) (sending.run events files now).files = some left := by
  obtain ⟨opened, bytes, known, decoded⟩ := opens.kept_at_end keeps holds back
  unfold stored? StorageOptions.openStore
  rw [keeps.file]
  dsimp only
  rw [opened]
  have loaded : (Storage.fileStore directory).load (sending.key chart)
      { files := (sending.run events files now).files } = (.ok (some bytes), _) :=
    Prod.ext (congrArg Except.ok known) rfl
  dsimp only
  rw [loaded]
  dsimp only
  rw [decoded]
  rfl

/-- **The next run is lent the machine that a run leaves**, if the chart is still there. -/
theorem again (unchanged : (sending.run events files now).files.read sending.path =
      files.read sending.path) :
    let done := sending.run events files now
    sending.Opens done.files chart payload directory done.files left := by
  obtain ⟨opened, bytes, known, decoded⟩ := opens.kept_at_end keeps holds back
  intro done
  refine ⟨?_, opens.parsed, opened, opens.roomy, ?_, ?_⟩
  · have read := opens.read
    unfold loadChart FileTree.readText at read ⊢
    rw [unchanged]
    exact read
  · rw [known]
    exact .stored decoded holds.owned
  · have complete : (Runner.new .none sending.config.runner : Runner Workplace).toSetup.Complete
        left.chart := holds.bare.complete
    rw [Runner.load_of_sound keeps.verifies (Runner.firstFault?_eq_none_iff.2 complete)]

end Ending

end Opens

/-- Runs that have come equally far at the end go equally well, and store the same machine up to
times. -/
theorem alike_of_abreast {files' made' : FileTree} {machine' : Machine} {events' : List String}
    (keeps : sending.IsKept (sending.key chart))
    (opens : sending.Opens files chart payload directory made machine)
    (opens' : sending.Opens files' chart payload directory made' machine')
    (abreast : Progress.Abreast sending.config directory (sending.key chart)
      (events.foldl (Progress.send payload)
        (sending.beginning chart payload directory made machine now))
      (events'.foldl (Progress.send payload)
        (sending.beginning chart payload directory made' machine' now')))
    (back : sending.ReadsBack events files now) (back' : sending.ReadsBack events' files' now') :
    (sending.run events files now).exitCode = (sending.run events' files' now').exitCode ∧
      sending.StoresAlike (sending.key chart) (sending.run events files now).files
        (sending.run events' files' now').files := by
  obtain ⟨alike, left, left', same, holds, holds'⟩ := abreast
  refine ⟨?_, left, left', opens.stored?_eq keeps holds back,
    opens'.stored?_eq keeps holds' back', same⟩
  rw [(opens.run_eq keeps.file holds).1, (opens'.run_eq keeps.file holds').1, alike]

/-- A working directory with the chart of the door and no machines. -/
def besideDoor : FileTree where
  directories :=
    { entries :=
        [("", { entries := [("door.json", utf8 Runner.doorText)],
                ascending := List.pairwise_singleton .. }),
          ("data", ∅), ("data/machines", ∅)]
      ascending := by unfold Ascending; decide }

/-- Events for the door, which is written when it is given back. -/
def doorEvents : Sending where
  config := { pool := { autosave := false } }
  path := "door.json"
  owner := "ann"
  payload := none

/-- The chart of the door is read where it lies in the working directory. -/
theorem read_door {files : FileTree}
    (there : files.fileIn "" "door.json" = .ok (utf8 Runner.doorText)) :
    files.read "door.json" = .ok (utf8 Runner.doorText) := by
  have start : FilePath.start "door.json" = ("", ["door.json"]) := by decide
  unfold FileTree.read
  rw [start]
  exact there

theorem loadChart_besideDoor : loadChart besideDoor "door.json" = .ok shutDoor := by
  have format : formatOf "door.json" = .json := by
    have extension : FilePath.extension? "door.json" = some "json" := by decide
    unfold formatOf
    rw [extension]
    rfl
  have described : describe .json Runner.doorText = .ok door := Runner.ofJson_doorText
  have text : besideDoor.readText "door.json" = .ok Runner.doorText := by
    have read : besideDoor.read "door.json" = .ok (utf8 Runner.doorText) := read_door rfl
    simp only [FileTree.readText, read, bind, Except.bind, ofUtf8?_utf8, pure, Except.pure]
  unfold loadChart
  rw [text, format]
  dsimp only
  rw [described]
  dsimp only
  rw [build_door]

theorem keeps_doorEvents : doorEvents.IsKept (doorEvents.key shutDoor) where
  file := rfl
  verifies := rfl
  writes := .inl rfl
  accepted := by
    intro bytes files
    have named : Directory.canWrite (doorEvents.key shutDoor).temporaryName = true := by decide
    have allowed : Directory.allows (doorEvents.key shutDoor).fileName = true := by decide
    unfold Directory.save
    rw [named, if_pos rfl, allowed, if_pos rfl]

theorem opens_doorEvents : doorEvents.Opens besideDoor shutDoor .null "data/machines" besideDoor
    (shutDoor.withOwner "ann") where
  read := loadChart_besideDoor
  parsed := rfl
  opened := FileTree.createDirectories_default (by decide) (by decide)
  roomy := by decide
  found := .new
  able := rfl

/-- The door of ann that was started at a time. -/
def startedDoor (time : Int) : Machine := (shutDoor.withOwner "ann").begun false .null time

/-- The door that was started at a time and pushed at another one. -/
def pushedDoor (start time : Int) : Machine :=
  ((startedDoor start).answer? false .null time "push").getD (startedDoor start)

/-- A door that was started is pushed, whenever that was. -/
theorem answer?_startedDoor (start time : Int) :
    (startedDoor start).answer? false .null time "push" = some (pushedDoor start time) := by
  have there : ((startedDoor 0).moveOn? "push").isSome = true := by decide +kernel
  obtain ⟨move, moves⟩ := Option.isSome_iff_exists.1 there
  have moves' : (startedDoor start).moveOn? "push" = some move := moves
  unfold pushedDoor Machine.answer?
  rw [moves']
  rfl

/-- A door that was started is not pulled. -/
theorem answer?_startedDoor_pull (time : Int) :
    (startedDoor 0).answer? false .null time "pull" = none := by
  have nowhere : ((startedDoor 0).moveOn? "pull").isNone = true := by decide +kernel
  exact Option.map_eq_none_iff.2 (Option.isNone_iff_eq_none.1 nowhere)

/-- How far a run has come at a time that sends events to the door. -/
abbrev doorProgress (events : List String) (time : Int) : Progress :=
  events.foldl (Progress.send .null)
    (doorEvents.beginning shutDoor .null "data/machines" besideDoor (shutDoor.withOwner "ann") time)

theorem holds_startedDoor (time : Int) : (doorProgress [] time).succeeded = true ∧
    (doorProgress [] time).Holds doorEvents.config "data/machines" (doorEvents.key shutDoor)
      (startedDoor time) :=
  opens_doorEvents.holds_beginning rfl keeps_doorEvents.accepted time

/-- All that happens to the workplace as the door is started is that its directory is looked at. -/
theorem workplace_startedDoor (time : Int) :
    (doorEvents.beginning shutDoor .null "data/machines" besideDoor (shutDoor.withOwner "ann")
      time).workplace = Workplace.withDirectory ⟨{ files := besideDoor }, time⟩ "data/machines"
      (besideDoor.directoryAt "data/machines") := by
  have made : ∀ workplace : Workplace, (runnerOf doorEvents.config "data/machines"
      (doorEvents.key shutDoor) (shutDoor.withOwner "ann")).make .start .null workplace =
        (.ok true, _, workplace) := fun workplace =>
    make_runnerOf keeps_doorEvents.accepted (opens_doorEvents.bare rfl) (.start rfl rfl) .null
  unfold Runner.make at made
  simp only [beginning, Progress.start, made]
  rfl

/-- The chart is as it was after a run that starts the door. -/
theorem unchanged_besideDoor :
    (doorEvents.run [] besideDoor 0).files.read "door.json" = besideDoor.read "door.json" := by
  rw [(opens_doorEvents.run_eq rfl (holds_startedDoor 0).2).2]
  dsimp only [List.foldl_nil]
  rw [workplace_startedDoor]
  exact (read_door rfl).trans (read_door rfl).symm

/-- A door that a run has started is pushed by the run. -/
theorem holds_pushedDoor (time : Int) :
    (doorProgress ["push"] time).Holds doorEvents.config "data/machines" (doorEvents.key shutDoor)
      (pushedDoor time time) := by
  obtain ⟨going, started⟩ := holds_startedDoor time
  refine (started.send_of_answer keeps_doorEvents.accepted going ?_).2
  rw [show (doorProgress [] time).workplace.now = time from
    congrArg Workplace.now (workplace_startedDoor time)]
  exact answer?_startedDoor time time

/-- What a run with the door has at the end is read back, if it is legible. -/
theorem readsBack_door {events : List String} {files made : FileTree} {machine left : Machine}
    {now : Int}
    (opens : doorEvents.Opens files shutDoor .null "data/machines" made machine)
    (holds : Progress.Holds doorEvents.config "data/machines" (doorEvents.key shutDoor)
      (events.foldl (Progress.send .null)
        (doorEvents.beginning shutDoor .null "data/machines" made machine now)) left)
    (legible : left.isLegible = true) : doorEvents.ReadsBack events files now := by
  intro machine there
  cases (opens.machine?_eq rfl holds).symm.trans there
  exact Machine.ofBytes?_of_legible legible

end Statechart.Command.Sending
