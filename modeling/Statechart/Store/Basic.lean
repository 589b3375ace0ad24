/-
**Stores of machines.**

A store keeps the dump of each machine under its key. It knows nothing of machines: to it a dump is
bytes. What it does may fail and may change the world, which is where the bytes are kept.
-/

import Statechart.Store.Key
import Statechart.Error

namespace Statechart

/-- What can be done with the dumps that are kept somewhere in a world. -/
structure MachineStore (σ : Type) where
  /-- The dump of a machine, none if there is none. -/
  load : MachineKey → σ → Except IoFault (Option Bytes) × σ
  /-- Keeps a dump in place of the one before. -/
  save : MachineKey → Bytes → σ → Except IoFault Unit × σ
  /-- Drops the dump of a machine, and says whether there was one. -/
  remove : MachineKey → σ → Except IoFault Bool × σ
  /-- The keys of the machines that have a dump, in order. -/
  keys : σ → Except IoFault (List MachineKey) × σ

namespace MachineStore

variable {σ τ α : Type}

/-- Does something with a part of a world. -/
def onPart (get : σ → τ) (set : τ → σ → σ) (act : τ → α × τ) (world : σ) : α × σ :=
  let (result, part) := act (get world)
  (result, set part world)

/-- A store whose dumps are kept in a part of a world. -/
def within (store : MachineStore τ) (get : σ → τ) (set : τ → σ → σ) : MachineStore σ where
  load key := onPart get set (store.load key)
  save key bytes := onPart get set (store.save key bytes)
  remove key := onPart get set (store.remove key)
  keys := onPart get set store.keys

end MachineStore

end Statechart
