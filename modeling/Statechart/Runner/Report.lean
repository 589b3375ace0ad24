/-
**Runners for a reader.**

The history of a machine as a chain of states, and the state of a runner on one line.
-/

import Statechart.Runner.Basic

namespace Statechart

open Text

/-- How much of an identifier is enough for a reader. -/
def shortIdLength : Nat := 12

/-- The start of an identifier. -/
def shortId (identifier : String) : String := String.ofList (identifier.toList.take shortIdLength)

/-- A record for a reader: the state, the event that led there, and the time. -/
def HistoryRecord.described (record : HistoryRecord) : String :=
  "(" ++ record.state ++ ":" ++ record.event.getD "-" ++ " @" ++ toString record.timestamp ++ ")"

namespace Runner

variable {σ : Type}

/-- The history of the machine for a reader. -/
def describeHistory (runner : Runner σ) : Except Error String := do
  let machine ← runner.loaded
  let steps :=
    if machine.history.isEmpty then "not started"
    else String.intercalate " -> " (machine.history.map HistoryRecord.described)
  return machine.name ++ " [" ++ shortId machine.chart.id ++ "]: " ++ steps

/-- A runner on one line. -/
def shown (runner : Runner σ) : String :=
  let current := runner.machine.bind Machine.currentState?
  shownRecord "Runner"
    [("chart", quotedOption (runner.machine.map Machine.name)),
     ("current", quotedOption (current.map State.name)),
     ("options", runner.options.shown),
     ("autosave", shownTruth runner.autosave),
     ("flush_hook", shownTruth runner.flushHook.isSome)]

end Runner

end Statechart
