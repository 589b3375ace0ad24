/-
**Options of runners.**

How far a chain of triggers may go, whether identifiers are checked on loading, and what else
happens at a transition.
-/

import Statechart.Json.Value
import Statechart.Text.Shown

namespace Statechart

open Json Text

/-- The options of a runner. -/
structure RunnerOptions where
  /-- The number of transitions that triggers may chain behind an event. -/
  maxTriggerDepth : Nat := 64
  /-- Whether a chain may not send one event from one state twice. -/
  detectTriggerCycles : Bool := true
  /-- Whether every declared identifier has to stand for something when a chart is loaded. -/
  verifyCallbacksOnLoad : Bool := true
  /-- Whether the fields of a payload are put into the data at each transition. -/
  mergePayload : Bool := false
  /-- Whether the state that is left is told of the change too. -/
  sourceOnChange : Bool := false
  deriving DecidableEq, Inhabited

namespace RunnerOptions

/-- The options as a value. -/
def toValue (options : RunnerOptions) : Value :=
  .record
    [("max_trigger_depth", .integer options.maxTriggerDepth),
     ("detect_trigger_cycles", .bool options.detectTriggerCycles),
     ("verify_callbacks_on_load", .bool options.verifyCallbacksOnLoad),
     ("merge_payload", .bool options.mergePayload),
     ("source_on_change", .bool options.sourceOnChange)]

/-- The options on one line. -/
def shown (options : RunnerOptions) : String :=
  shownRecord "RunnerOptions"
    [("max_trigger_depth", toString options.maxTriggerDepth),
     ("detect_trigger_cycles", shownTruth options.detectTriggerCycles),
     ("verify_callbacks_on_load", shownTruth options.verifyCallbacksOnLoad),
     ("merge_payload", shownTruth options.mergePayload),
     ("source_on_change", shownTruth options.sourceOnChange)]

end RunnerOptions

end Statechart
