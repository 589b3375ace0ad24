/-
**Sessions with a pool.**

A session is a pool and the guards that are out. Requests come one after the other: runners are
lent, used and given back, machines are written, and charts are registered. What the guard of each
key held when it was last given back is kept as a record beside the pool, which knows nothing of it.

* `MachineStore.Keeps`: what a store keeps, and that a save that fails changes nothing.
* `Request.perform`: what is answered to a request, and the session afterwards.
* `Session.opened`: a session before the first request.
-/

import Statechart.Pool.Lending
import Statechart.Store.Memory
import Statechart.Proofs.Runner.Operation
import Mathlib.Logic.Function.Basic

namespace Statechart

variable {σ : Type}

/-! ### What stores keep -/

/-- What is kept under each key, told from the world: a load gives what is kept, a save that
succeeds replaces it, and nothing else that a store does changes it. -/
structure MachineStore.Keeps (store : MachineStore σ) (kept : σ → MachineKey → Option Bytes) :
    Prop where
  loaded : ∀ {key : MachineKey} {world world' : σ} {found : Option Bytes},
    store.load key world = (.ok found, world') → found = kept world key
  quiet : ∀ (key : MachineKey) (world : σ), kept (store.load key world).2 = kept world
  saved : ∀ {key : MachineKey} {bytes : Bytes} {world world' : σ},
    store.save key bytes world = (.ok (), world') →
      kept world' = Function.update (kept world) key (some bytes)
  refused : ∀ {key : MachineKey} {bytes : Bytes} {world world' : σ} {fault : IoFault},
    store.save key bytes world = (.error fault, world') → kept world' = kept world

theorem Memory.keeps : Memory.store.Keeps fun memory key => memory.get? key where
  loaded := by
    intro key world world' found loaded
    cases loaded
    rfl
  quiet _ _ := rfl
  saved := by
    intro key bytes world world' saved
    cases saved
    funext other
    rw [Dict.get?_insert, Function.update_apply]
    by_cases same : key = other
    · rw [if_pos same, if_pos same.symm]
    · rw [if_neg same, if_neg (Ne.symm same)]
  refused := by
    intro key bytes world world' fault refused
    cases refused

/-! ### Requests -/

/-- A pool of given runners. -/
def Pool.ofRunners (options : PoolOptions) (store : MachineStore σ) (runners : List (Runner σ)) :
    Pool σ where
  options := options
  store := store
  slots := runners.map fun runner => { runner := some runner }

/-- The runners of a new pool are copies of one. -/
theorem Pool.new_eq_ofRunners (options : PoolOptions) (store : MachineStore σ)
    (runner : Runner σ) :
    Pool.new options store runner =
      .ofRunners options store (List.replicate options.capacity runner) := by
  unfold Pool.new Pool.ofRunners
  rw [List.map_replicate]

/-- A pool, the guards that are out, and the world. -/
structure Session (σ : Type) where
  pool : Pool σ
  guards : List (Guard σ)
  /-- What the guard of each key held when it was last given back. -/
  released : MachineKey → Option Machine
  world : σ

/-- An error, or a guard if the request is answered with one. -/
abbrev Answer (σ : Type) := Except PoolError (Option (Guard σ))

/-- The guard of an answer. -/
def Answer.guard? : Answer σ → Option (Guard σ)
  | .ok guard => guard
  | .error _ => none

theorem Answer.eq_of_guard? {answer : Answer σ} {guard : Guard σ}
    (there : answer.guard? = some guard) : answer = .ok (some guard) := by
  cases answer with
  | error error => cases there
  | ok guard' => exact congrArg Except.ok there

/-- The error of an answer. -/
def Answer.error? : Answer σ → Option PoolError
  | .ok _ => none
  | .error error => some error

theorem Answer.eq_of_error? {answer : Answer σ} {error : PoolError}
    (failed : answer.error? = some error) : answer = .error error := by
  cases answer with
  | ok guard => cases failed
  | error error' => exact congrArg Except.error (Option.some.inj failed)

/-- Something that is asked of a pool, or done with a guard at a place among those that are out. -/
inductive Request (σ : Type)
  | acquire (key : MachineKey)
  | acquireCurrent (key : MachineKey)
  | acquireForEviction (key : MachineKey)
  | acquireFree
  | flushAll
  | registerChart (template : Machine)
  /-- The guard is given back. -/
  | release (place : Nat)
  /-- The runner of the guard is used. -/
  | operate (place : Nat) (operation : Operation σ)

namespace Session

/-- A session before the first request. -/
def opened (options : PoolOptions) (store : MachineStore σ) (runners : List (Runner σ))
    (world : σ) : Session σ where
  pool := .ofRunners options store runners
  guards := []
  released _ := none
  world := world

/-- The session after an answer, the guard of the answer being out. -/
def lend (session : Session σ) (answer : Answer σ) (pool : Pool σ) (world : σ) : Session σ :=
  { session with pool, world, guards := session.guards ++ answer.guard?.toList }

/-- The session after a guard at a place is given back, before its machine is written. -/
def takeBack (session : Session σ) (place : Nat) (guard : Guard σ) : Session σ where
  pool := (session.pool.release guard session.world).1
  guards := session.guards.eraseIdx place
  released :=
    match guard.key with
    | none => session.released
    | some key => Function.update session.released key guard.runner.machine
  world := session.world

theorem takeBack_released {session : Session σ} {place : Nat} {guard : Guard σ} {key : MachineKey}
    (keyed : guard.key = some key) : (session.takeBack place guard).released =
      Function.update session.released key guard.runner.machine := by
  unfold takeBack
  rw [keyed]

theorem takeBack_released_of_ne {session : Session σ} {place : Nat} {guard : Guard σ}
    {key : MachineKey} (differ : guard.key ≠ some key) :
    (session.takeBack place guard).released key = session.released key := by
  cases owned : guard.key with
  | none =>
    unfold takeBack
    rw [owned]
  | some other =>
    rw [takeBack_released owned]
    refine Function.update_of_ne (fun same => differ ?_) _ _
    rw [owned, same]

/-- The session after a guard at a place is given back. -/
def giveBack (session : Session σ) (place : Nat) (guard : Guard σ) : Session σ :=
  { session.takeBack place guard with world := (session.pool.release guard session.world).2 }

/-- The session after the runner of a guard at a place is used. -/
def use [Clocked σ] (session : Session σ) (place : Nat) (guard : Guard σ)
    (operation : Operation σ) : Session σ :=
  let left := operation.perform guard.runner session.world
  { session with
    guards := session.guards.set place { guard with runner := left.1 }
    world := left.2 }

end Session

namespace Request

variable [Clocked σ]

/-- What is answered to a request, and the session afterwards. -/
def perform (request : Request σ) (session : Session σ) : Answer σ × Session σ :=
  match request with
  | acquire key =>
    let left := session.pool.acquire key session.world
    (left.1.map some, session.lend (left.1.map some) left.2.1 left.2.2)
  | acquireCurrent key =>
    let left := session.pool.acquireCurrent key
    (left.1, session.lend left.1 left.2 session.world)
  | acquireForEviction key =>
    let left := session.pool.acquireForEviction key session.world
    (left.1.map some, session.lend (left.1.map some) left.2.1 left.2.2)
  | acquireFree =>
    let left := session.pool.acquireFree
    (.ok left.1, session.lend (.ok left.1) left.2 session.world)
  | flushAll =>
    let left := session.pool.flushAll session.world
    (left.1.map fun _ => none, { session with world := left.2 })
  | registerChart template =>
    (.ok none, { session with pool := session.pool.registerChart template })
  | release place =>
    match session.guards[place]? with
    | none => (.ok none, session)
    | some guard => (.ok none, session.giveBack place guard)
  | operate place operation =>
    match session.guards[place]? with
    | none => (.ok none, session)
    | some guard => (.ok none, session.use place guard operation)

variable {session : Session σ} {place : Nat} {guard : Guard σ}

theorem perform_release (held : session.guards[place]? = some guard) :
    (release place : Request σ).perform session = (.ok none, session.giveBack place guard) := by
  unfold perform
  dsimp only
  rw [held]

theorem perform_release_of_none (missing : session.guards[place]? = none) :
    (release place : Request σ).perform session = (.ok none, session) := by
  unfold perform
  dsimp only
  rw [missing]

theorem perform_operate (held : session.guards[place]? = some guard) (operation : Operation σ) :
    (operate place operation).perform session = (.ok none, session.use place guard operation) := by
  unfold perform
  dsimp only
  rw [held]

theorem perform_operate_of_none (missing : session.guards[place]? = none)
    (operation : Operation σ) :
    (operate place operation).perform session = (.ok none, session) := by
  unfold perform
  dsimp only
  rw [missing]

end Request

/-- The session after several requests. -/
def Session.run [Clocked σ] (session : Session σ) (requests : List (Request σ)) : Session σ :=
  requests.foldl (fun session request => (request.perform session).2) session

end Statechart
