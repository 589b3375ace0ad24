/-
**Pools of runners.**

A pool shares a fixed number of runners among any number of machines. A machine is resident while a
runner holds it; else its dump is in the store of the pool, or it is a new one, a copy of the chart
that is registered for its type.
-/

import Statechart.Pool.Options
import Statechart.Pool.Error
import Statechart.Pool.Slot
import Statechart.Store.Basic

namespace Statechart

/-- Runners, the store of the machines that they do not hold, and charts for new machines. -/
structure Pool (σ : Type) where
  options : PoolOptions
  store : MachineStore σ
  slots : List (Slot σ)
  /-- The machines that new ones are copies of, by type. -/
  templates : Dict String Machine := ∅
  /-- How often runners were lent or given back. -/
  clock : Nat := 0

namespace Pool

variable {σ : Type}

/-- A pool whose runners are copies of one. -/
def new (options : PoolOptions) (store : MachineStore σ) (runner : Runner σ) : Pool σ where
  options := options
  store := store
  slots := List.replicate options.capacity { runner := some runner }

/-- The number of runners, the lent ones included. -/
def capacity (pool : Pool σ) : Nat := pool.options.capacity

/-- Makes a machine the template for its type. -/
def registerChart (pool : Pool σ) (machine : Machine) : Pool σ :=
  { pool with templates := pool.templates.insert machine.name machine }

/-- The pool with a slot changed. -/
def withSlot (pool : Pool σ) (position : Nat) (slot : Slot σ) : Pool σ :=
  { pool with slots := pool.slots.set position slot }

/-- The keys of the resident machines, those of lent runners included. -/
def residentKeys (pool : Pool σ) : List MachineKey :=
  MachineKey.sorted (pool.slots.filterMap Slot.key)

/-- The position of the slot of a machine. -/
def residentAt? (pool : Pool σ) (key : MachineKey) : Option Nat :=
  pool.slots.findIdx? fun slot => slot.key = some key

/-- Whether a machine is resident in a slot other than one. -/
def isElsewhere (pool : Pool σ) (key : MachineKey) (position : Nat) : Bool :=
  (pool.residentAt? key).any fun other => other ≠ position

/-- The slots that may lose their machine to another one, with their positions. -/
def candidates (pool : Pool σ) (key : MachineKey) : List (Slot σ × Nat) :=
  pool.slots.zipIdx.filter fun (slot, _) => slot.mayLose key

/-- The position of the slot to take for a machine: one without a machine if there is any, else the
one that was used longest ago. -/
def evictionCandidate? (pool : Pool σ) (key : MachineKey) : Option Nat :=
  let candidates := pool.candidates key
  match candidates.find? fun (slot, _) => slot.isFree with
  | some (_, position) => some position
  | none => (Slot.earliest? candidates).map Prod.snd

/-- The error of a pool that has no runner to give. -/
def noRunner (pool : Pool σ) : PoolError := .exhausted pool.capacity

end Pool

end Statechart
