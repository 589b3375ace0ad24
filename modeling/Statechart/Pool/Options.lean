/-
**Options of pools.**

How many runners a pool has, and when the machines that they hold are written to its store.
-/

import Statechart.Json.Value
import Statechart.Text.Shown

namespace Statechart

open Json Text

/-- The options of a pool. -/
structure PoolOptions where
  /-- The number of runners. -/
  capacity : Nat := 16
  /-- Whether a machine is written when its runner is given back. -/
  flushOnRelease : Bool := true
  /-- Whether a machine is written at each of its transitions. -/
  autosave : Bool := true
  deriving DecidableEq, Inhabited

namespace PoolOptions

/-- The options as a value. -/
def toValue (options : PoolOptions) : Value :=
  .record
    [("capacity", .integer options.capacity), ("flush_on_release", .bool options.flushOnRelease),
     ("autosave", .bool options.autosave)]

/-- The options on one line. -/
def shown (options : PoolOptions) : String :=
  shownRecord "PoolConfig"
    [("capacity", toString options.capacity),
     ("flush_on_release", shownTruth options.flushOnRelease),
     ("autosave", shownTruth options.autosave)]

end PoolOptions

end Statechart
