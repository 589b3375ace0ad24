/-
**What the program prints.**

The lines about a chart, about the place of a machine, and about a dump.
-/

import Statechart.Runner.Report
import Statechart.Store.Key

namespace Statechart.Command

/-- The mark of what went well. -/
def good : String := "✓"

/-- The mark of what failed. -/
def bad : String := "✗"

/-- The mark of what began. -/
def begun : String := "→"

/-- The name of a written form in messages. -/
def formatLabel : SourceFormat → String
  | .json => "JSON"
  | .yaml => "YAML"
  | .xml => "XML"

/-- What is said of an error, be it only in general. -/
def errorText (error : Error) : String :=
  match error.message? with
  | some message => message
  | none =>
    match error with
    | .badRequest format _ => formatLabel format ++ " error: malformed text"
    | .invalidModel _ => "invalid model: unreadable dump"
    | .flush _ => "flush failed: I/O error"
    | other => other.code

/-- The lines about a chart. -/
def chartLines (path : String) (machine : Machine) : List String :=
  let joined (texts : List String) : String := String.intercalate ", " texts
  let chart := machine.chart
  [good ++ " " ++ path,
   "  name:    " ++ machine.name,
   "  id:      " ++ chart.id,
   "  initial: " ++ chart.initialPlace.state.name,
   "  final:   " ++ joined (chart.finalStates.map State.name),
   "  events:  " ++ joined chart.events,
   "  states:  " ++ toString chart.states.length]

/-- The lines about the place of a machine. -/
def positionLines {σ : Type} (runner : Runner σ) : Except Error (List String) := do
  let state ← runner.currentState
  let status := if ← runner.isFinished then "finished" else "running"
  let events ← runner.possibleTransitions
  let history ← runner.describeHistory
  return ["state: " ++ state.name ++ " (" ++ status ++ ")"] ++
    (events.entries.map fun (event, target) => "  " ++ event ++ " -> " ++ target) ++
    ["history: " ++ history]

/-- A text behind blanks that fill it up to a width. -/
def padded (width : Nat) (text : String) : String :=
  String.ofList (List.replicate (width - text.length) ' ') ++ text

/-- How a transition came about, for a reader. -/
def statusName : Status → String
  | .initial => "Initial"
  | .event => "Event"
  | .trigger => "Trigger"

/-- The line about a transition. -/
def recordLine (record : HistoryRecord) : String :=
  "  " ++ toString record.timestamp ++ " " ++ padded 8 (record.event.getD "-") ++ " " ++
    record.source.getD "-" ++ " -> " ++ record.state ++ " (" ++ statusName record.status ++ ")"

/-- The name of a dump's form. -/
def dumpFormatName : DumpFormat → String
  | .json => "Json"
  | .binary => "Binary"

/-- The lines about a dump. -/
def dumpLines (path : String) (format : DumpFormat) (machine : Machine) : List String :=
  let current := machine.currentState?.map State.name
  [good ++ " " ++ path ++ " (" ++ dumpFormatName format ++ ")",
   "  name:    " ++ machine.name,
   "  id:      " ++ machine.chart.id,
   "  owner:   " ++ machine.owner?.getD "-",
   "  state:   " ++ current.getD "not started"] ++ machine.history.map recordLine

/-- The lines about the machines of a store. -/
def machineLines (keys : List MachineKey) : List String :=
  if keys.isEmpty then ["no machines"]
  else keys.map fun key => key.owner ++ "  " ++ key.chartType

end Statechart.Command
