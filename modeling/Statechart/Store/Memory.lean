/-
**Stores that forget.**

Such a store is a dictionary from keys to dumps. Nothing that it does fails.
-/

import Statechart.Store.Basic

namespace Statechart

/-- Dumps by key. -/
abbrev Memory := Dict MachineKey Bytes

/-- The store of dumps that are kept in a dictionary. -/
def Memory.store : MachineStore Memory where
  load key memory := (.ok (memory.get? key), memory)
  save key bytes memory := (.ok (), memory.insert key bytes)
  remove key memory := (.ok (memory.contains key), memory.erase key)
  keys memory := (.ok memory.keys, memory)

end Statechart
