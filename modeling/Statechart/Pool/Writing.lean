/-
**Writing the machines of a pool.**

The machines that runners hold are written to the store of the pool: when a runner loses its
machine, when it is given back, at every transition, or all at once.
-/

import Statechart.Pool.Basic

namespace Statechart.Pool

variable {σ : Type}

/-- Writes the machine of a runner. -/
def persist (pool : Pool σ) (key : MachineKey) (runner : Runner σ) (world : σ) :
    Except PoolError Unit × σ :=
  match runner.dump .binary with
  | .error error => (.error (.core error), world)
  | .ok bytes =>
    let (result, world) := pool.store.save key bytes world
    (result.mapError .io, world)

/-- What writes a machine at each of its transitions. -/
def autosaveHook (store : MachineStore σ) (key : MachineKey) : FlushHook σ := fun machine world =>
  let (result, world) := store.save key (machine.encode .binary) world
  (result.mapError .store, world)

/-- A runner that writes its machine at each transition, if the pool is to do so. -/
def withAutosave (pool : Pool σ) (key : MachineKey) (runner : Runner σ) : Runner σ :=
  if pool.options.autosave then { runner with flushHook := some (autosaveHook pool.store key) }
  else runner

/-- Writes the machine of a slot if it has one to write, and says whether it had. -/
def persistSlot (pool : Pool σ) (slot : Slot σ) (world : σ) : Except PoolError Bool × σ :=
  match slot.toWrite? with
  | none => (.ok false, world)
  | some (key, runner) =>
    let (result, world) := pool.persist key runner world
    (result.map fun _ => true, world)

/-- Writes the machines of some slots, up to the first that cannot be written, and counts them. -/
def persistSlots (pool : Pool σ) : List (Slot σ) → Nat → σ → Except PoolError Nat × σ
  | [], count, world => (.ok count, world)
  | slot :: slots, count, world =>
    match pool.persistSlot slot world with
    | (.error error, world) => (.error error, world)
    | (.ok written, world) => pool.persistSlots slots (count + written.toNat) world

/-- Writes the machines of all runners that are not lent, and counts them. -/
def flushAll (pool : Pool σ) (world : σ) : Except PoolError Nat × σ :=
  pool.persistSlots pool.slots 0 world

end Statechart.Pool
