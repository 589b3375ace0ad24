/-
**What a runner writes.**

Callables and clocks do what they like in the world but leave alone what a store keeps. Then the
only way from a runner to the store is its flush hook, and what is kept changes under the key of the
hook alone, to the dump of a machine that has the key of the runner's machine.

* `Runner.Tied`: a runner whose callables spare a store and whose hook writes to it under one key.
* `Runner.make_writes`: a call writes machines of the same key as the one that it moves.
* `Operation.perform_writes`: any operation does, if it writes at all.
-/

import Statechart.Proofs.Pool.Move

namespace Statechart

open Json

variable {σ α : Type} {kept : σ → MachineKey → Option Bytes}

/-! ### Callables that spare a store -/

/-- A callable that leaves alone what is kept. -/
def Spares (kept : σ → MachineKey → Option Bytes) (callable : Callable σ α) : Prop :=
  ∀ view datamodel world, kept (callable view datamodel world).world = kept world

/-- Reading the clock leaves alone what is kept. -/
def Clocked.Spares [Clocked σ] (kept : σ → MachineKey → Option Bytes) : Prop :=
  ∀ world : σ, kept (Clocked.now world).2 = kept world

/-- All callables of a resolver leave alone what is kept. -/
structure Resolver.Spares (kept : σ → MachineKey → Option Bytes) (resolver : Resolver σ) :
    Prop where
  callbacks : ∀ {identifier state : String} {kind : HookKind} {callback : Callback σ},
    resolver.callback? identifier state kind = some callback → Statechart.Spares kept callback
  triggers : ∀ {identifier state : String} {trigger : Trigger σ},
    resolver.trigger? identifier state = some trigger → Statechart.Spares kept trigger

/-- All callables that are bound to states leave alone what is kept. -/
structure Overrides.Spares (kept : σ → MachineKey → Option Bytes) (overrides : Overrides σ) :
    Prop where
  callbacks : ∀ {state : String} {kind : HookKind} {callback : Callback σ},
    overrides.callback? state kind = some callback → Statechart.Spares kept callback
  triggers : ∀ {state : String} {trigger : Trigger σ},
    overrides.trigger? state = some trigger → Statechart.Spares kept trigger

/-- A flush hook that leaves alone what is kept. -/
def FlushHook.Spares (kept : σ → MachineKey → Option Bytes) (hook : FlushHook σ) : Prop :=
  ∀ machine world, kept (hook machine world).2 = kept world

/-- A runner whose callables leave alone what is kept, and whose hook does too, unless it writes
machines to the store under the key that is given. -/
structure Runner.Tied (kept : σ → MachineKey → Option Bytes) (store : MachineStore σ)
    (key : Option MachineKey) (runner : Runner σ) : Prop where
  resolver : runner.resolver.Spares kept
  overrides : Overrides.Spares kept runner.overrides
  hook : ∀ hook, runner.flushHook = some hook →
    FlushHook.Spares kept hook ∨ ∃ entry, key = some entry ∧ hook = Pool.autosaveHook store entry

theorem Resolver.spares_none : (Resolver.none : Resolver σ).Spares kept where
  callbacks found := nomatch found
  triggers found := nomatch found

theorem Overrides.spares_empty : Overrides.Spares kept (∅ : Overrides σ) where
  callbacks := by
    intro state kind callback found
    cases kind <;> cases found
  triggers := by
    intro state trigger found
    cases found

/-! ### Stages -/

/-- What is kept is as it was before some steps, or it has the dump of a machine of a key under an
entry. -/
def Written (kept : σ → MachineKey → Option Bytes) (entry key : Option MachineKey)
    (before after : σ) : Prop :=
  kept after = kept before ∨ ∃ target told, entry = some target ∧ told.key? = key ∧
    kept after = Function.update (kept before) target (some (Machine.encode told .binary))

namespace Written

variable {entry key : Option MachineKey} {first second third : σ}

theorem spare (written : Written kept entry key first second) (same : kept third = kept second) :
    Written kept entry key first third := by
  rcases written with before | ⟨target, told, entry, owned, before⟩
  · exact .inl (same.trans before)
  · exact .inr ⟨target, told, entry, owned, same.trans before⟩

/-- Of two machines written under one entry the second stays. -/
theorem save (written : Written kept entry key first second) {target : MachineKey}
    {told : Machine} (under : entry = some target) (owned : told.key? = key)
    (saved : kept third =
      Function.update (kept second) target (some (told.encode .binary))) :
    Written kept entry key first third := by
  rcases written with before | ⟨target', _, under', -, before⟩
  · exact .inr ⟨target, told, under, owned, by rw [saved, before]⟩
  · cases under.symm.trans under'
    exact .inr ⟨target, told, under, owned, by rw [saved, before, Function.update_idem]⟩

end Written

/-- A machine that keeps its key while what is kept is written under one entry. -/
def Motion.Steady (kept : σ → MachineKey → Option Bytes) (entry : Option MachineKey)
    (start finish : Motion σ) : Prop :=
  finish.machine.key? = start.machine.key? ∧
    Written kept entry start.machine.key? start.world finish.world

section Steady

variable {store : MachineStore σ} {entry : Option MachineKey} {runner : Runner σ}
  {start motion : Motion σ}

/-- What stands at a hook of a tied runner spares the store. -/
theorem Runner.Tied.callbackOf (tied : runner.Tied kept store entry) {state : State}
    {kind : HookKind} {callback : Callback σ}
    (found : runner.callbackOf state kind = .known callback) : Spares kept callback := by
  unfold Setup.callbackOf Assigned.of at found
  split at found
  · next bound =>
    cases found
    exact tied.overrides.callbacks bound
  · cases found
  · split at found
    · next resolved =>
      cases found
      exact tied.resolver.callbacks resolved
    · cases found

theorem Runner.Tied.triggerOf (tied : runner.Tied kept store entry) {state : State}
    {trigger : Trigger σ} (found : runner.triggerOf state = .known trigger) :
    Spares kept trigger := by
  unfold Setup.triggerOf Assigned.of at found
  split at found
  · next bound =>
    cases found
    exact tied.overrides.triggers bound
  · cases found
  · split at found
    · next resolved =>
      cases found
      exact tied.resolver.triggers resolved
    · cases found

theorem Motion.Steady.call (steady : start.Steady kept entry motion) {callable : Callable σ α}
    (spares : Spares kept callable) (move : Move) (payload : Value) :
    start.Steady kept entry (motion.call callable move payload).2 :=
  ⟨(motion.alike_call callable move payload).key?.trans steady.1, steady.2.spare (spares _ _ _)⟩

theorem Motion.Steady.callAssigned (steady : start.Steady kept entry motion)
    {assigned : Assigned σ α}
    (spares : ∀ callable, assigned = .known callable → Spares kept callable)
    (undefined : String → Error) (event : α → Option String) (move : Move) (payload : Value) :
    start.Steady kept entry
      (Stage.callAssigned assigned undefined event move payload motion).2 := by
  cases assigned with
  | nothing => exact steady
  | undefined identifier => exact steady
  | known callable => exact steady.call (spares callable rfl) move payload

/-- The hook of a tied runner writes the machine that it is told of, or nothing. -/
theorem Motion.Steady.tell (steady : start.Steady kept entry motion) (keeps : store.Keeps kept)
    (tied : runner.Tied kept store entry) {hook : FlushHook σ}
    (set : runner.flushHook = some hook) : start.Steady kept entry (motion.tell hook).2 := by
  refine ⟨steady.1, ?_⟩
  rcases tied.hook hook set with spares | ⟨target, under, rfl⟩
  · exact steady.2.spare (spares _ _)
  · rcases saved : store.save target (motion.machine.encode .binary) motion.world with
      ⟨fault | _, world⟩
    · have left : (motion.tell (Pool.autosaveHook store target)).2.world = world := by
        unfold Motion.tell Pool.autosaveHook
        rw [saved]
      rw [left]
      exact steady.2.spare (keeps.refused saved)
    · have left : (motion.tell (Pool.autosaveHook store target)).2.world = world := by
        unfold Motion.tell Pool.autosaveHook
        rw [saved]
      rw [left]
      exact steady.2.save under steady.1 (keeps.saved saved)

variable [Clocked σ]

/-- **Every stage keeps the key and writes under one entry.** -/
theorem Motion.Steady.perform (steady : start.Steady kept entry motion) (keeps : store.Keeps kept)
    (clock : Clocked.Spares kept) (tied : runner.Tied kept store entry) (move : Move)
    (payload : Value) (stage : Stage) :
    start.Steady kept entry (stage.perform runner.toSetup move payload motion).2 := by
  cases stage with
  | hook kind state => exact steady.callAssigned (fun _ found => tied.callbackOf found) ..
  | commit =>
    obtain ⟨timestamp, alike⟩ := motion.makes_commit runner.options.mergePayload move payload
    exact ⟨alike.key?.trans steady.1, steady.2.spare (clock _)⟩
  | flush =>
    unfold Stage.perform
    cases set : runner.flushHook with
    | none => exact steady
    | some hook => exact steady.tell keeps tied set
  | trigger state => exact steady.callAssigned (fun _ found => tied.triggerOf found) ..

end Steady

/-! ### Operations -/

section Operations

variable {store : MachineStore σ} {entry : Option MachineKey} {runner : Runner σ}

/-- A flush writes the machine, or nothing. -/
theorem Runner.flush_writes (keeps : store.Keeps kept) (tied : runner.Tied kept store entry)
    {machine : Machine} (loaded : runner.machine = some machine) (world : σ) :
    Written kept entry machine.key? world (runner.flush world).2.2 := by
  unfold Runner.flush
  rw [loaded]
  show Written kept entry machine.key? world
    (Engine.on (Engine.flush runner.toSetup) { machine, world }).2.world
  rw [Engine.on_flush]
  cases set : runner.flushHook with
  | none => exact .inl rfl
  | some hook =>
    have still : Motion.Steady kept entry { machine, world } { machine, world } :=
      ⟨rfl, .inl rfl⟩
    exact (still.tell keeps tied set).2

theorem Runner.toSetup_load (runner : Runner σ) (machine : Machine) :
    (runner.load machine).2.toSetup = runner.toSetup := by
  rcases Pool.load_cases runner machine with ⟨error, failed⟩ | loaded
  · rw [failed]
    rfl
  · rw [loaded]

theorem Runner.toSetup_loadDump (runner : Runner σ) (bytes : Bytes) :
    (runner.loadDump bytes).2.toSetup = runner.toSetup := by
  unfold Runner.loadDump
  cases Machine.decode? bytes with
  | error fault => rfl
  | ok machine => exact runner.toSetup_load machine

theorem Runner.toSetup_loadDescription (runner : Runner σ) (description : Description) :
    (runner.loadDescription description).2.toSetup = runner.toSetup := by
  unfold Runner.loadDescription
  cases description.build with
  | error fault => rfl
  | ok machine => exact runner.toSetup_load machine

variable [Clocked σ]

/-- **A call writes machines of the same key as the one that it moves.** -/
theorem Runner.make_writes (keeps : store.Keeps kept) (clock : Clocked.Spares kept)
    (tied : runner.Tied kept store entry) {machine : Machine}
    (loaded : runner.machine = some machine) (call : Call) (payload : Value) (world : σ) :
    ∃ machine', (runner.make call payload world).2.1.machine = some machine' ∧
      machine'.key? = machine.key? ∧
      Written kept entry machine.key? world (runner.make call payload world).2.2 := by
  rcases make_cases loaded call payload world with
    same | ⟨move, blocks, result, finish, begins, course, there, left⟩
  · rw [same]
    exact ⟨machine, loaded, rfl, .inl rfl⟩
  · have steady := course.passage.keeps (P := Motion.Steady kept entry { machine, world })
      (fun deed _ steady => steady.perform keeps clock tied deed.move payload deed.stage)
      ⟨rfl, .inl rfl⟩
    rw [left]
    exact ⟨finish.machine, there, steady.1, steady.2⟩

namespace Operation

/-- An operation that brings no callables but such as leave alone what is kept. -/
def Spares (kept : σ → MachineKey → Option Bytes) : Operation σ → Prop
  | override overrides => Overrides.Spares kept overrides
  | _ => True

/-- An operation leaves the callables and the hook of the runner, unless it brings overrides. -/
theorem toSetup_perform {operation : Operation σ}
    (other : ∀ overrides, operation ≠ .override overrides) (world : σ) :
    (operation.perform runner world).1.toSetup = runner.toSetup := by
  cases operation with
  | call made payload => exact runner.toSetup_make made payload world
  | flush => exact runner.toSetup_flush world
  | modifyData change =>
    unfold perform Runner.modifyData
    cases runner.machine <;> rfl
  | override overrides => exact absurd rfl (other overrides)
  | resume format =>
    unfold perform
    dsimp only
    cases runner.dump format with
    | error error => rfl
    | ok bytes => exact runner.toSetup_loadDump bytes
  | load machine => exact runner.toSetup_load machine
  | loadDump bytes => exact runner.toSetup_loadDump bytes
  | loadDescription description => exact runner.toSetup_loadDescription description
  | clear => rfl

/-- An operation leaves the runner tied as it was. -/
theorem perform_tied {operation : Operation σ} (spares : operation.Spares kept)
    (tied : runner.Tied kept store entry) (world : σ) :
    (operation.perform runner world).1.Tied kept store entry := by
  by_cases brings : ∃ overrides, operation = .override overrides
  · obtain ⟨overrides, rfl⟩ := brings
    exact ⟨tied.resolver, spares, tied.hook⟩
  · have same : (operation.perform runner world).1.toSetup = runner.toSetup :=
      toSetup_perform (fun overrides same => brings ⟨overrides, same⟩) world
    refine ⟨?_, ?_, ?_⟩
    · rw [same]
      exact tied.resolver
    · rw [same]
      exact tied.overrides
    · rw [same]
      exact tied.hook

/-- **An operation writes machines of the key of the runner's machine**, under the entry of the
hook, if it writes at all. -/
theorem perform_writes (keeps : store.Keeps kept) (clock : Clocked.Spares kept)
    (tied : runner.Tied kept store entry) (operation : Operation σ) (world : σ) :
    Written kept entry (runner.machine.bind Machine.key?) world
      (operation.perform runner world).2 := by
  cases operation with
  | call made payload =>
    show Written kept entry _ world (runner.make made payload world).2.2
    cases loaded : runner.machine with
    | none =>
      rw [Runner.make_of_declines (.unloaded loaded)]
      exact .inl rfl
    | some machine =>
      obtain ⟨-, -, -, written⟩ := Runner.make_writes keeps clock tied loaded made payload world
      exact written
  | flush =>
    show Written kept entry _ world (runner.flush world).2.2
    cases loaded : runner.machine with
    | none =>
      unfold Runner.flush
      rw [loaded]
      exact .inl rfl
    | some machine => exact Runner.flush_writes keeps tied loaded world
  | modifyData change => exact .inl rfl
  | override overrides => exact .inl rfl
  | resume format =>
    unfold perform
    dsimp only
    cases runner.dump format with
    | error error => exact .inl rfl
    | ok bytes => exact .inl rfl
  | load machine => exact .inl rfl
  | loadDump bytes => exact .inl rfl
  | loadDescription description => exact .inl rfl
  | clear => exact .inl rfl

end Operation

end Operations

end Statechart
