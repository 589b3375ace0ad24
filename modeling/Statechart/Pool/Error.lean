/-
**Errors of pools.**

A pool fails because its store fails, because a machine cannot be loaded, or because it has no
runner or no chart to give.
-/

import Statechart.Store.Key
import Statechart.Error

namespace Statechart

open Text

/-- An error of a pool. -/
inductive PoolError
  /-- The store failed. -/
  | io (fault : IoFault)
  /-- The machine has an error. -/
  | core (error : Error)
  /-- The runner of the machine was given to someone else. -/
  | busy (key : MachineKey)
  /-- No runner can be given. -/
  | exhausted (capacity : Nat)
  /-- No chart is known for the type of the machine. -/
  | unknownChartType (chartType : String)
  /-- What is stored under a key is another machine. -/
  | corruption (key : MachineKey) (name : String) (owner : Option String)
  deriving DecidableEq

namespace PoolError

/-- What is said of an error, where it is known. -/
def message? : PoolError → Option String
  | .io fault => fault.message?
  | .core error => error.message?.map ("core error: " ++ ·)
  | .busy key => some ("machine " ++ key.text ++ " is checked out")
  | .exhausted capacity =>
    some ("no runner available: all " ++ toString capacity ++ " runners are checked out")
  | .unknownChartType chartType => some ("no chart registered for type '" ++ chartType ++ "'")
  | .corruption key name owner =>
    some ("data corruption: stored machine " ++ key.text ++ " holds chart " ++ quoted name ++
      " owned by " ++ quotedOption owner)

/-- Whether the same call may succeed later. -/
def isRetryable : PoolError → Bool
  | .busy _ | .io _ => true
  | _ => false

end PoolError

end Statechart
