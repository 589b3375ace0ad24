/-
**Slots.**

A slot is the place of one runner in a pool. It is empty while the runner is lent with a guard, and
it keeps the key of the machine that the runner holds.
-/

import Statechart.Store.Key
import Statechart.Runner.Basic

namespace Statechart

/-- The place of one runner in a pool. -/
structure Slot (σ : Type) where
  /-- The runner, none while it is lent. -/
  runner : Option (Runner σ)
  /-- The machine that the runner holds. -/
  key : Option MachineKey := none
  /-- When the runner was last lent or given back. -/
  lastUsed : Nat := 0

/-- A runner that is lent. -/
structure Guard (σ : Type) where
  /-- The position of the slot that the runner belongs to. -/
  slot : Nat
  /-- The machine that the runner held when it was lent. -/
  key : Option MachineKey
  runner : Runner σ

namespace Slot

variable {σ : Type}

/-- Whether the runner is there and holds no machine. -/
def isFree (slot : Slot σ) : Bool := slot.runner.any fun runner => !runner.isLoaded

/-- Whether the runner is there and may be taken from its machine for the sake of another one. -/
def mayLose (slot : Slot σ) (key : MachineKey) : Bool := slot.runner.isSome && slot.key ≠ some key

/-- The machine to write if the runner is there and holds one. -/
def toWrite? (slot : Slot σ) : Option (MachineKey × Runner σ) := do
  let runner ← slot.runner
  let key ← slot.key
  if runner.isLoaded then some (key, runner) else none

/-- The slot and position of the one of two slots that was used earlier, of equals the first. -/
def earlier (first second : Slot σ × Nat) : Slot σ × Nat :=
  if second.1.lastUsed < first.1.lastUsed then second else first

/-- The slot and position of the one of several slots that was used earliest. -/
def earliest? : List (Slot σ × Nat) → Option (Slot σ × Nat)
  | [] => none
  | first :: rest => some (rest.foldl earlier first)

end Slot

end Statechart
