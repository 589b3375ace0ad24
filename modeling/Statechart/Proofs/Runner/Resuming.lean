/-
**Suspending and resuming.**

A machine that is dumped in the middle of any run and loaded into another runner goes on as it would
have where it was. The dump gives the whole machine again, with the index and the table of its
chart, and what a runner does depends on the machine and on what it is configured with only.

* `Machine.Regular`: what every machine has that was built or decoded, after any run.
* `Setup.Agrees`: two setups are told apart by no call.
* `Runner.Resumes`: one runner goes on as another one would have.
* `Runner.makeAll_lossless`: in any run a dump gives the machine again, and who loads it goes on.
-/

import Statechart.Proofs.Dump.Lossless
import Statechart.Proofs.Protocol.Chain
import Statechart.Proofs.Runner.Operation

namespace Statechart

open Json Text

variable {σ : Type}

/-! ### Machines that can be dumped -/

/-- The clock of a world gives times of 64 bits. -/
def Clocked.Fits (σ : Type) [Clocked σ] : Prop :=
  ∀ world : σ, -(Nat.pow 2 63 : Int) ≤ (Clocked.now world).1 ∧
    (Clocked.now world).1 < (Nat.pow 2 63 : Int)

namespace Machine

/-- A machine that was built of a description or decoded of bytes. -/
inductive Obtained : Machine → Prop
  | built {description : Description} {machine : Machine}
      (described : description.build = .ok machine) : Obtained machine
  | decoded {bytes : Bytes} {machine : Machine} (decoded : decode? bytes = .ok machine) :
      Obtained machine

/-- A machine with a built chart that is in one of its states, and with a history in which every
time fits. -/
structure Regular (machine : Machine) : Prop extends machine.Placed where
  fit : ∀ record ∈ machine.history, record.TimeFits

end Machine

/-! #### Times that are read -/

theorem HistoryRecord.timeFits_of_ofTree? {tree : Tree} {record : HistoryRecord}
    (read : ofTree? tree = some record) : record.TimeFits := by
  simp only [ofTree?, Option.bind_eq_bind, Option.bind_eq_some_iff] at read
  obtain ⟨fields, -, timestamp, found, event, -, source, -, state, -, status, -, same⟩ := read
  cases same
  unfold Tree.field? at found
  split at found
  · obtain ⟨value, -, range⟩ := Option.bind_eq_some_iff.1 found
    split at range
    · next fits =>
      cases range
      exact fits
    · cases range
  · cases found

/-- A dump that is read has a history in which every time fits. -/
theorem Dump.timeFits_of_ofTree? {tree : Tree} {dump : Dump} (read : ofTree? tree = some dump) :
    ∀ record ∈ dump.history, record.TimeFits := by
  simp only [ofTree?, Option.bind_eq_bind, Option.bind_eq_some_iff] at read
  obtain ⟨fields, -, chartId, -, name, -, current, -, initial, -, finals, -, states, -, transitions,
    -, history, found, datamodel, -, same⟩ := read
  cases same
  unfold Tree.field? at found
  split at found
  · unfold Tree.list? at found
    split at found
    · intro record member
      obtain ⟨item, -, given⟩ := Tree.exists_of_mapM found record member
      exact HistoryRecord.timeFits_of_ofTree? given
    · cases found
  · cases found
    exact List.forall_mem_nil _

namespace Machine

variable {machine : Machine}

theorem regular_of_decode? {bytes : Bytes} (decoded : decode? bytes = .ok machine) :
    machine.Regular := by
  refine ⟨placed_of_decode? decoded, ?_⟩
  have of_payload : ∀ {payload : Bytes}, ofPayload? payload = .ok machine →
      ∀ record ∈ machine.history, record.TimeFits := by
    intro payload given
    unfold ofPayload? at given
    split at given
    · cases given
    · next dump read =>
      obtain ⟨-, -, -, history, -⟩ := Dump.of_toMachine? given
      rw [history]
      obtain ⟨tree, -, read⟩ := Option.bind_eq_some_iff.1 read
      exact Dump.timeFits_of_ofTree? read
  unfold decode? at decoded
  split at decoded
  · exact of_payload decoded
  · cases framed : Frame.decode? bytes with
    | error fault => rw [framed] at decoded; cases decoded
    | ok payload =>
      rw [framed] at decoded
      exact of_payload decoded

/-- **What is built or decoded is regular.** -/
theorem Obtained.regular (obtained : machine.Obtained) : machine.Regular := by
  cases obtained with
  | built described =>
    obtain ⟨built, empty, nowhere, -⟩ := Description.rest_of_build described
    refine ⟨⟨built, ?_⟩, ?_⟩
    · rw [nowhere]
      exact fun position here => nomatch here
    · rw [empty]
      exact fun record member => nomatch member
  | decoded decoded => exact regular_of_decode? decoded

/-- **A regular machine is decoded as itself**, if each datum is read as it was printed and the
header of its frame can tell the length of its text. -/
theorem Regular.decode?_encode_eq (regular : machine.Regular)
    (back : ∀ value ∈ machine.datamodel.values,
      Value.parseWithin? Dump.dataLevels value.render = some value) {format : DumpFormat}
    (small : format = .binary → (utf8 machine.text).length < Nat.pow 2 32) :
    decode? (machine.encode format) = .ok machine :=
  regular.toPlaced.decode?_encode regular.fit (Dump.reread?_eq_some back) small

end Machine

/-! ### Runs keep machines regular -/

section Runs

variable [Clocked σ]

/-- A stage keeps the times of a history such that they fit. -/
theorem Stage.fit_perform (clock : Clocked.Fits σ) (setup : Setup σ) (move : Move)
    (payload : Value) (stage : Stage) {motion : Motion σ}
    (fit : ∀ record ∈ motion.machine.history, record.TimeFits) :
    ∀ record ∈ (stage.perform setup move payload motion).2.machine.history, record.TimeFits := by
  cases stage with
  | commit =>
    intro record member
    change record ∈ motion.machine.history ++ [move.record (Clocked.now motion.world).1] at member
    rcases List.mem_append.1 member with before | here
    · exact fit record before
    · rw [List.mem_singleton.1 here]
      exact clock motion.world
  | hook kind state =>
    rw [(Stage.alike_perform setup move payload (by simp) motion).history]
    exact fit
  | flush =>
    rw [(Stage.alike_perform setup move payload (by simp) motion).history]
    exact fit
  | trigger state =>
    rw [(Stage.alike_perform setup move payload (by simp) motion).history]
    exact fit

namespace Runner

/-- **A call keeps the machine regular**, and its chart. -/
theorem make_regular (clock : Clocked.Fits σ) {runner : Runner σ} {machine : Machine}
    (loaded : runner.machine = some machine) (regular : machine.Regular) (call : Call)
    (payload : Value) (world : σ) :
    ∃ now, (runner.make call payload world).2.1.machine = some now ∧ now.Regular ∧
      now.chart = machine.chart := by
  rcases make_cases loaded call payload world with
    same | ⟨move, blocks, result, finish, begins, course, there, -⟩
  · rw [same]
    exact ⟨machine, loaded, regular, rfl⟩
  · obtain ⟨links, sent, deed, added, made, whole⟩ := course.linked
    refine ⟨finish.machine, there, ⟨course.placed regular.toPlaced begins.fits, ?_⟩, whole.chart⟩
    exact course.passage.keeps
      (P := fun motion => ∀ record ∈ motion.machine.history, record.TimeFits)
      (fun deed _ fit => deed.stage.fit_perform clock _ deed.move payload fit) regular.fit

/-- Makes several calls, and says what each of them answers. -/
def makeAll (runner : Runner σ) : List (Call × Value) → σ → List (Except Error Bool) × Runner σ × σ
  | [], world => ([], runner, world)
  | (call, payload) :: later, world =>
    let (answer, runner, world) := runner.make call payload world
    let (answers, runner, world) := runner.makeAll later world
    (answer :: answers, runner, world)

/-- Calls keep the machine regular, and its chart. -/
theorem makeAll_regular (clock : Clocked.Fits σ) {runner : Runner σ} {machine : Machine}
    (loaded : runner.machine = some machine) (regular : machine.Regular)
    (calls : List (Call × Value)) (world : σ) :
    ∃ now, (runner.makeAll calls world).2.1.machine = some now ∧ now.Regular ∧
      now.chart = machine.chart := by
  induction calls generalizing runner machine world with
  | nil => exact ⟨machine, loaded, regular, rfl⟩
  | cons first later ih =>
    obtain ⟨next, there, kept, chart⟩ :=
      make_regular clock loaded regular first.1 first.2 world
    obtain ⟨now, here, again, same⟩ := ih there kept (runner.make first.1 first.2 world).2.2
    exact ⟨now, here, again, same.trans chart⟩

/-- Calls leave the setup of a runner as it was. -/
theorem toSetup_makeAll (runner : Runner σ) (calls : List (Call × Value)) (world : σ) :
    (runner.makeAll calls world).2.1.toSetup = runner.toSetup := by
  induction calls generalizing runner world with
  | nil => rfl
  | cons first later ih =>
    exact (ih _ _).trans (runner.toSetup_make first.1 first.2 world)

end Runner

end Runs

/-! ### Setups that agree -/

/-- Two setups have the same callables, options and flush hook, and flush alike. -/
structure Setup.Agrees (first second : Setup σ) : Prop where
  resolver : second.resolver = first.resolver
  overrides : second.overrides = first.overrides
  options : second.options = first.options
  flushHook : second.flushHook = first.flushHook
  autosave : second.autosave = first.autosave ∨ first.flushHook = none

namespace Setup.Agrees

variable {first second : Setup σ}

theorem symm (agrees : first.Agrees second) : second.Agrees first where
  resolver := agrees.resolver.symm
  overrides := agrees.overrides.symm
  options := agrees.options.symm
  flushHook := agrees.flushHook.symm
  autosave := agrees.autosave.imp Eq.symm fun silent => agrees.flushHook.trans silent

theorem stages_eq (agrees : first.Agrees second) (move : Move) :
    move.stages second = move.stages first := by
  have flushes : (second.autosave && second.flushHook.isSome) =
      (first.autosave && first.flushHook.isSome) := by
    rw [agrees.flushHook]
    rcases agrees.autosave with same | silent
    · rw [same]
    · rw [silent, Option.isSome_none, Bool.and_false, Bool.and_false]
  unfold Move.stages
  rw [agrees.options, flushes]

variable [Clocked σ]

theorem perform_eq (agrees : first.Agrees second) (move : Move) (payload : Value) (stage : Stage)
    (motion : Motion σ) :
    stage.perform second move payload motion = stage.perform first move payload motion := by
  cases stage with
  | commit => rw [Stage.perform, Stage.perform, agrees.options]
  | flush => rw [Stage.perform, Stage.perform, agrees.flushHook]
  | hook kind state =>
    rw [Stage.perform, Stage.perform, Setup.callbackOf, Setup.callbackOf, agrees.overrides,
      agrees.resolver]
  | trigger state =>
    rw [Stage.perform, Stage.perform, Setup.triggerOf, Setup.triggerOf, agrees.overrides,
      agrees.resolver]

omit [Clocked σ] in
theorem follow_eq (agrees : first.Agrees second) (sent : List (Nat × String)) (chart : Chart)
    (source : Place) (event : String) :
    second.follow sent chart source event = first.follow sent chart source event := by
  unfold Setup.follow
  rw [agrees.options]

theorem block (agrees : first.Agrees second) {payload : Value} {move : Move} {stages : List Stage}
    {start finish : Motion σ} {deeds : List (Deed σ)} {reply : StageReply}
    (block : Block first payload move stages start deeds reply finish) :
    Block second payload move stages start deeds reply finish := by
  induction block with
  | last performed => exact .last ((agrees.perform_eq ..).trans performed)
  | failed performed => exact .failed ((agrees.perform_eq ..).trans performed)
  | next performed _ ih => exact .next ((agrees.perform_eq ..).trans performed) ih

/-- **A course of one setup is one of the other.** -/
theorem course (agrees : first.Agrees second) {payload : Value} {sent : List (Nat × String)}
    {move : Move} {start finish : Motion σ} {blocks : List (List (Deed σ))}
    {result : Except Error Unit}
    (course : Course first payload sent move start blocks result finish) :
    Course second payload sent move start blocks result finish := by
  induction course with
  | failed block => exact .failed (agrees.stages_eq _ ▸ agrees.block block)
  | settled block => exact .settled (agrees.stages_eq _ ▸ agrees.block block)
  | refused block refusal =>
    exact .refused (agrees.stages_eq _ ▸ agrees.block block) ((agrees.follow_eq ..).trans refusal)
  | onward block followed _ ih =>
    exact .onward (agrees.stages_eq _ ▸ agrees.block block) ((agrees.follow_eq ..).trans followed)
      ih

end Setup.Agrees

/-! ### Runners that go on -/

namespace Runner

variable [Clocked σ]

section Agreeing

variable {runner fresh : Runner σ}

/-- A runner with the machine of another one and a setup that agrees goes through the same deeds. -/
theorem Conducts.agreeing (agrees : runner.toSetup.Agrees fresh.toSetup)
    (same : fresh.machine = runner.machine) {call : Call} {payload : Value} {world world' : σ}
    {blocks : List (List (Deed σ))} {answer : Except Error Bool} {after : Runner σ}
    (conducts : runner.Conducts call payload world blocks (answer, after, world')) :
    fresh.Conducts call payload world blocks
      (answer, { fresh with machine := after.machine }, world') := by
  cases conducts with
  | declined declines =>
    rw [← same]
    refine .declined ?_
    cases declines with
    | unloaded unloaded => exact .unloaded (same.trans unloaded)
    | started loaded started => exact .started (same.trans loaded) started
    | unstarted loaded nowhere => exact .unstarted (same.trans loaded) nowhere
    | impossible loaded here nowhere registered =>
      exact .impossible (same.trans loaded) here nowhere registered
    | unregistered loaded here nowhere unknown =>
      exact .unregistered (same.trans loaded) here nowhere unknown
  | conducted begins course =>
    refine .conducted ?_ (agrees.course course)
    cases begins with
    | start loaded rest => exact .start (same.trans loaded) rest
    | send loaded here leads => exact .send (same.trans loaded) here leads

/-- What the other runner answers and leaves. -/
theorem make_agreeing (agrees : runner.toSetup.Agrees fresh.toSetup)
    (same : fresh.machine = runner.machine) (call : Call) (payload : Value) (world : σ) :
    fresh.make call payload world =
      ((runner.make call payload world).1,
        { fresh with machine := (runner.make call payload world).2.1.machine },
        (runner.make call payload world).2.2) := by
  obtain ⟨blocks, unique⟩ := runner.conducts_iff call payload world
  obtain ⟨_, unique'⟩ := fresh.conducts_iff call payload world
  have conducts : runner.Conducts call payload world blocks (runner.make call payload world) :=
    (unique blocks _).2 ⟨rfl, rfl⟩
  exact ((unique' _ _).1 (conducts.agreeing agrees same)).2.symm

/-- **Several calls of the other runner** answer and leave the same. -/
theorem makeAll_agreeing (agrees : runner.toSetup.Agrees fresh.toSetup)
    (same : fresh.machine = runner.machine) (calls : List (Call × Value)) (world : σ) :
    fresh.makeAll calls world =
      ((runner.makeAll calls world).1,
        { fresh with machine := (runner.makeAll calls world).2.1.machine },
        (runner.makeAll calls world).2.2) := by
  induction calls generalizing runner fresh world with
  | nil =>
    rw [makeAll, makeAll, ← same]
  | cons first later ih =>
    have made := make_agreeing agrees same first.1 first.2 world
    have agreeing : (runner.make first.1 first.2 world).2.1.toSetup.Agrees
        (fresh.make first.1 first.2 world).2.1.toSetup := by
      rw [toSetup_make, toSetup_make]
      exact agrees
    have going := ih agreeing (by rw [made]) (runner.make first.1 first.2 world).2.2
    rw [made] at going
    unfold makeAll
    rw [made]
    dsimp only
    rw [going]

end Agreeing

/-- One runner goes on as another one would have: after any further calls it has given the same
answers and has the same machine, in the same world, and it goes through the same deeds in the next
one. -/
structure Resumes (runner resumed : Runner σ) (world : σ) : Prop where
  answers : ∀ later, resumed.makeAll later world =
    ((runner.makeAll later world).1,
      { resumed with machine := (runner.makeAll later world).2.1.machine },
      (runner.makeAll later world).2.2)
  deeds : ∀ later call payload blocks answer machine world',
    (runner.makeAll later world).2.1.Conducts call payload (runner.makeAll later world).2.2 blocks
        (answer, { (runner.makeAll later world).2.1 with machine }, world') ↔
      (resumed.makeAll later world).2.1.Conducts call payload (resumed.makeAll later world).2.2
        blocks (answer, { (resumed.makeAll later world).2.1 with machine }, world')

theorem Resumes.of_agrees {runner resumed : Runner σ}
    (agrees : runner.toSetup.Agrees resumed.toSetup) (same : resumed.machine = runner.machine)
    (world : σ) : runner.Resumes resumed world := by
  have all := fun later => makeAll_agreeing agrees same later world
  refine ⟨all, fun later call payload blocks answer machine world' => ?_⟩
  have agreeing : (runner.makeAll later world).2.1.toSetup.Agrees
      (resumed.makeAll later world).2.1.toSetup := by
    rw [toSetup_makeAll, toSetup_makeAll]
    exact agrees
  have machines : (resumed.makeAll later world).2.1.machine =
      (runner.makeAll later world).2.1.machine := by
    rw [all later]
  have worlds : (resumed.makeAll later world).2.2 = (runner.makeAll later world).2.2 := by
    rw [all later]
  rw [worlds]
  exact ⟨fun conducts => conducts.agreeing agreeing machines,
    fun conducts => conducts.agreeing agreeing.symm machines.symm⟩

/-! ### Loading again -/

omit [Clocked σ] in
theorem firstFault?_eq {first second : Setup σ} (agrees : first.Agrees second) (chart : Chart) :
    firstFault? second chart = firstFault? first chart := by
  have hook : hookFault? second = hookFault? first := by
    funext state kind
    unfold hookFault?
    rw [agrees.overrides, agrees.resolver]
  unfold firstFault?
  rw [hook]

omit [Clocked σ] in
/-- What was loaded once is loaded again into a runner whose setup agrees, at any point of a run. -/
theorem load_again {unloaded runner fresh : Runner σ} {machine now : Machine}
    (loaded : unloaded.load machine = (.ok (), runner))
    (agrees : runner.toSetup.Agrees fresh.toSetup) (chart : now.chart = machine.chart) :
    fresh.load now = (.ok (), { fresh with machine := some now }) := by
  unfold load at loaded ⊢
  dsimp only at loaded ⊢
  split at loaded
  · cases loaded
  · next passed =>
    cases loaded
    rw [agrees.options, chart, firstFault?_eq agrees, passed]

omit [Clocked σ] in
theorem machine_of_load {unloaded runner : Runner σ} {machine : Machine}
    (loaded : unloaded.load machine = (.ok (), runner)) : runner.machine = some machine := by
  unfold load at loaded
  dsimp only at loaded
  split at loaded
  · cases loaded
  · cases loaded
    rfl

/-- **Suspending and resuming loses nothing.** A machine that was built or decoded is loaded and
driven by any calls. If each of its data is read as it was printed, and a frame can tell the length
of its text if there is one, then its dump in either form is decoded as the same machine, which is
encoded as the same bytes, and every runner that is set up alike loads it and goes on as this one
would have. -/
theorem makeAll_lossless (clock : Clocked.Fits σ) {machine : Machine} (obtained : machine.Obtained)
    {unloaded runner : Runner σ} (loaded : unloaded.load machine = (.ok (), runner))
    (before : List (Call × Value)) (world : σ) :
    ∃ now, (runner.makeAll before world).2.1.machine = some now ∧
      ((∀ value ∈ now.datamodel.values,
          Value.parseWithin? Dump.dataLevels value.render = some value) →
        ∀ format, (format = .binary → (utf8 now.text).length < Nat.pow 2 32) →
        (∃ found, Machine.decode? (now.encode format) = .ok found ∧ found = now ∧
          ∀ format', found.encode format' = now.encode format') ∧
        ∀ fresh : Runner σ, runner.toSetup.Agrees fresh.toSetup →
          ∃ resumed, fresh.loadDump (now.encode format) = (.ok (), resumed) ∧
            (runner.makeAll before world).2.1.Resumes resumed
              (runner.makeAll before world).2.2) := by
  obtain ⟨now, there, regular, chart⟩ :=
    makeAll_regular clock (machine_of_load loaded) obtained.regular before world
  refine ⟨now, there, fun back format small => ?_⟩
  have decoded := regular.decode?_encode_eq back small
  refine ⟨⟨now, decoded, rfl, fun _ => rfl⟩, fun fresh agrees => ?_⟩
  refine ⟨{ fresh with machine := some now }, ?_, .of_agrees ?_ there.symm _⟩
  · unfold loadDump
    rw [decoded]
    exact load_again loaded agrees chart
  · rw [toSetup_makeAll]
    exact agrees

/-! ### A painted door -/

/-- A world without time. -/
instance : Clocked Unit where
  now _ := (0, ())

theorem timeless_fits : Clocked.Fits Unit := by
  intro world
  show -(Nat.pow 2 63 : Int) ≤ 0 ∧ (0 : Int) < (Nat.pow 2 63 : Int)
  decide

/-- A runner that takes what it is told into its data. -/
def painter : Runner Unit where
  resolver := .none
  options := { mergePayload := true }

/-- The runner with a door. -/
def paintedDoor : Runner Unit := { painter with machine := some shutDoor }

/-- The door is painted and pushed. -/
def paint : List (Call × Value) :=
  [(.start, .record [("colour", .string "red")]), (.send "push", .null)]

/-- The red door is resumed where it was left. -/
theorem makeAll_lossless_door :
    ∃ now, (paintedDoor.makeAll paint ()).2.1.machine = some now ∧ now.history.length = 2 ∧
      now.datamodel.values.map Value.string? = [some "red"] ∧
      Machine.decode? (now.encode .json) = .ok now := by
  have loaded : painter.load shutDoor = (.ok (), paintedDoor) := rfl
  obtain ⟨now, there, lossless⟩ :=
    makeAll_lossless timeless_fits (.built build_door) loaded paint ()
  have left : (paintedDoor.makeAll paint ()).2.1.machine.map (fun now : Machine =>
      (now.history.length, now.datamodel.values.map Value.string?)) = some (2, [some "red"]) := by
    decide +kernel
  rw [there] at left
  obtain ⟨history, colours⟩ := Prod.mk.inj (Option.some.inj left)
  have back : ∀ value ∈ now.datamodel.values,
      Value.parseWithin? Dump.dataLevels value.render = some value := by
    intro value member
    have among := List.mem_map_of_mem (f := Value.string?) member
    rw [colours, List.mem_singleton] at among
    rw [Value.eq_string among]
    exact (Value.Sound.string "red").parseWithin?_render (Nat.zero_le _)
  obtain ⟨⟨found, decoded, same, -⟩, -⟩ := lossless back .json fun other => nomatch other
  rw [same] at decoded
  exact ⟨now, there, history, colours, decoded⟩

end Runner

end Statechart
