/-
**Lending the runners of a pool.**

A runner is lent with a guard, and its slot is empty until the guard is released.

* `acquire` and its kin lend a runner. One that holds another machine is evicted first, and writes
  its machine then.
* `release` takes a runner back, and keys its slot by the machine that it now holds.
-/

import Statechart.Pool.Writing

namespace Statechart.Pool

variable {σ : Type}

/-- Lends the runner at a position, unless it is lent. -/
def checkOut? (pool : Pool σ) (position : Nat) : Option (Guard σ × Pool σ) := do
  let slot ← pool.slots[position]?
  let runner ← slot.runner
  let now := pool.clock + 1
  let lent := pool.withSlot position { slot with runner := none, lastUsed := now }
  return ({ slot := position, key := slot.key, runner }, { lent with clock := now })

/-- Lends the runner at a position, or fails if it is lent. -/
def checkOut (pool : Pool σ) (position : Nat) : Except PoolError (Guard σ) × Pool σ :=
  match pool.checkOut? position with
  | some (guard, pool) => (.ok guard, pool)
  | none => (.error pool.noRunner, pool)

/-- Lends a runner that holds no machine. -/
def acquireFree (pool : Pool σ) : Option (Guard σ) × Pool σ :=
  match pool.slots.findIdx? Slot.isFree with
  | none => (none, pool)
  | some position =>
    match pool.checkOut? position with
    | some (guard, pool) => (some guard, pool)
    | none => (none, pool)

/-- Lends the runner of a machine, if the machine is resident and started. -/
def acquireCurrent (pool : Pool σ) (key : MachineKey) :
    Except PoolError (Option (Guard σ)) × Pool σ :=
  match pool.residentAt? key with
  | none => (.ok none, pool)
  | some position =>
    match pool.checkOut? position with
    | none => (.error (.busy key), pool)
    | some (guard, lent) =>
      if guard.runner.isStarted then (.ok (some guard), lent) else (.ok none, pool)

/-! ### Machines that are not resident -/

/-- A runner without a machine and without a flush hook. -/
def emptied (runner : Runner σ) : Runner σ := { runner.clear with flushHook := none }

/-- Empties the runner at a position, after writing its machine. -/
def evict (pool : Pool σ) (position : Nat) (world : σ) : Except PoolError Unit × Pool σ × σ :=
  match pool.slots[position]? with
  | none => (.ok (), pool, world)
  | some slot =>
    match pool.persistSlot slot world with
    | (.error error, world) => (.error error, pool, world)
    | (.ok _, world) =>
      let empty := { slot with runner := slot.runner.map emptied, key := none }
      (.ok (), pool.withSlot position empty, world)

/-- Lends a runner other than that of a machine, after emptying it. -/
def acquireForEviction (pool : Pool σ) (key : MachineKey) (world : σ) :
    Except PoolError (Guard σ) × Pool σ × σ :=
  match pool.evictionCandidate? key with
  | none => (.error pool.noRunner, pool, world)
  | some position =>
    match pool.evict position world with
    | (.error error, pool, world) => (.error error, pool, world)
    | (.ok (), pool, world) =>
      let (result, pool) := pool.checkOut position
      (result, pool, world)

/-- The machine of a stored dump, which has to be the one of its key. -/
def ofStored (key : MachineKey) (bytes : Bytes) : Except PoolError Machine :=
  match Machine.decode? bytes with
  | .error fault => .error (.core (.invalidModel fault))
  | .ok machine =>
    if machine.key? = some key then .ok machine
    else .error (.corruption key machine.name machine.owner?)

/-- A new machine of a type. -/
def newMachine (pool : Pool σ) (key : MachineKey) : Except PoolError Machine :=
  match pool.templates.get? key.chartType with
  | some template => .ok (template.withOwner key.owner)
  | none => .error (.unknownChartType key.chartType)

/-- The machine of a key that is not resident: the stored one, or else a new one. -/
def fetch (pool : Pool σ) (key : MachineKey) (world : σ) : Except PoolError Machine × σ :=
  match pool.store.load key world with
  | (.error fault, world) => (.error (.io fault), world)
  | (.ok (some bytes), world) => (ofStored key bytes, world)
  | (.ok none, world) => (pool.newMachine key, world)

/-- Loads an emptied slot with a machine. -/
def fill (pool : Pool σ) (slot : Slot σ) (key : MachineKey) (machine : Machine) :
    Except PoolError Unit × Slot σ :=
  match slot.runner with
  | none => (.error pool.noRunner, slot)
  | some runner =>
    match runner.load machine with
    | (.error error, runner) => (.error (.core error), { slot with runner := some runner })
    | (.ok (), runner) =>
      (.ok (), { slot with runner := some (pool.withAutosave key runner), key := some key })

/-- Loads the emptied runner at a position with a machine, and lends it. -/
def lend (pool : Pool σ) (position : Nat) (key : MachineKey) (machine : Machine) :
    Except PoolError (Guard σ) × Pool σ :=
  match pool.slots[position]? with
  | none => (.error pool.noRunner, pool)
  | some slot =>
    match pool.fill slot key machine with
    | (.error error, slot) => (.error error, pool.withSlot position slot)
    | (.ok (), slot) => (pool.withSlot position slot).checkOut position

/-- Lends the runner of a machine that is not resident, and is loaded for that. -/
def acquireAbsent (pool : Pool σ) (key : MachineKey) (world : σ) :
    Except PoolError (Guard σ) × Pool σ × σ :=
  match pool.evictionCandidate? key with
  | none => (.error pool.noRunner, pool, world)
  | some position =>
    match pool.fetch key world with
    | (.error error, world) => (.error error, pool, world)
    | (.ok machine, world) =>
      match pool.evict position world with
      | (.error error, pool, world) => (.error error, pool, world)
      | (.ok (), pool, world) =>
        let (result, pool) := pool.lend position key machine
        (result, pool, world)

/-- Lends the runner of a machine, whether it is resident or not. -/
def acquire (pool : Pool σ) (key : MachineKey) (world : σ) :
    Except PoolError (Guard σ) × Pool σ × σ :=
  match pool.residentAt? key with
  | none => pool.acquireAbsent key world
  | some position =>
    match pool.checkOut? position with
    | some (guard, pool) => (.ok guard, pool, world)
    | none => (.error (.busy key), pool, world)

/-! ### Giving back -/

/-- The key and the runner with which a slot goes on. A runner that holds another machine than when
it was lent is keyed by it and writes it from now on, unless that machine is resident elsewhere. -/
def rekey (pool : Pool σ) (guard : Guard σ) : Option MachineKey × Runner σ :=
  let key := guard.runner.machine.bind Machine.key?
  if key = guard.key then (key, guard.runner)
  else
    let runner := { guard.runner with flushHook := none }
    match key with
    | none => (none, runner)
    | some key =>
      if pool.isElsewhere key guard.slot then (none, runner.clear)
      else (some key, pool.withAutosave key runner)

/-- Writes the machine of a runner that is given back. That it cannot be written is no hindrance. -/
def persistReleased (pool : Pool σ) (key : Option MachineKey) (runner : Runner σ) (world : σ) : σ :=
  match key with
  | none => world
  | some key => if pool.options.flushOnRelease then (pool.persist key runner world).2 else world

/-- Takes a runner back. -/
def release (pool : Pool σ) (guard : Guard σ) (world : σ) : Pool σ × σ :=
  let (key, runner) := pool.rekey guard
  let now := pool.clock + 1
  let back := pool.withSlot guard.slot { runner := some runner, key, lastUsed := now }
  ({ back with clock := now }, pool.persistReleased key runner world)

end Statechart.Pool
