/-
**Pools for a reader.**

A pool, and a runner that is lent, on one line.
-/

import Statechart.Pool.Lending
import Statechart.Runner.Report

namespace Statechart

open Text

variable {σ : Type}

/-- A pool on one line. -/
def Pool.shown (pool : Pool σ) : String :=
  shownRecord "RunnerPool"
    [("config", pool.options.shown),
     ("resident", shownList (pool.residentKeys.map MachineKey.shown))]

/-- A key that may be missing, on one line. -/
def MachineKey.shownOption : Option MachineKey → String
  | none => "None"
  | some key => "Some(" ++ key.shown ++ ")"

/-- A runner that is lent, on one line. -/
def Guard.shown (guard : Guard σ) : String :=
  shownRecord "PooledRunner"
    [("slot", toString guard.slot), ("key", MachineKey.shownOption guard.key),
     ("runner", guard.runner.shown)]

end Statechart
