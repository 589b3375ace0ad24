/-
**Errors of charts and machines.**

Every error is a cause. Its code and kind are names for programs, and its message is what is said
to a reader, where that does not depend on how a text was found to be malformed or on what an
operating system says.
-/

import Statechart.Chart.Fault

namespace Statechart

open Text

/-- The written forms of a chart description. -/
inductive SourceFormat
  | json
  | yaml
  | xml
  deriving DecidableEq

/-- The ways in which a text is no chart description. -/
inductive TextFault
  /-- The text breaks the rules of its format. -/
  | malformed
  /-- The text follows its format but does not describe a chart. -/
  | wrongShape
  deriving DecidableEq

/-- The ways in which a dump is not that of a machine. -/
inductive DumpFault
  /-- The payload is not a dump document. -/
  | unreadable
  /-- The recorded states are not those of a chart. -/
  | chart (fault : ChartFault)
  | identifier (recorded computed : String)
  | initialState (recorded declared : String)
  | finalStates
  | transitions
  | currentState (name : String)
  /-- The frame is shorter than its header. -/
  | truncated (size : Nat)
  | version (found : Nat)
  | payloadLength (announced carried : Nat)
  | checksum (expected actual : UInt32)
  /-- The payload is larger than those that are framed. -/
  | tooLarge (size : Nat)
  deriving DecidableEq

/-- The size of a frame's header in bytes. -/
def frameHeaderSize : Nat := 14

/-- The size in bytes of the largest payload that is framed. -/
def maxPayloadSize : Nat := 16 * 1024 * 1024

/-- A number in hexadecimal digits behind a mark. -/
def markedHex (value : Nat) : String := "0x" ++ String.ofList (codeDigits value)

/-- What is said of a dump's fault, if it is not the reader of the payload that says it. -/
def DumpFault.message? : DumpFault → Option String
  | .unreadable => none
  | .chart fault => some fault.message
  | .identifier recorded computed =>
    some ("chart id mismatch: dump says " ++ recorded ++ ", content hashes to " ++ computed)
  | .initialState recorded declared =>
    some ("initial state mismatch: dump says '" ++ recorded ++ "', states declare '" ++ declared ++
      "'")
  | .finalStates => some "final states do not match state definitions"
  | .transitions => some "transition table does not match state event maps"
  | .currentState name => some ("current state '" ++ name ++ "' is not declared")
  | .truncated size =>
    some ("truncated frame: " ++ toString size ++ " bytes, header needs " ++
      toString frameHeaderSize)
  | .version found => some ("unsupported dump version: " ++ toString found)
  | .payloadLength announced carried =>
    some ("payload length mismatch: header says " ++ toString announced ++ ", frame carries " ++
      toString carried)
  | .checksum expected actual =>
    some ("CRC mismatch: expected " ++ markedHex expected.toNat ++ ", got " ++
      markedHex actual.toNat)
  | .tooLarge size =>
    some ("dump too large: " ++ toString size ++ " bytes (max " ++ toString maxPayloadSize ++ ")")

/-- A failure to read or write. -/
inductive IoFault
  /-- The operating system refused. -/
  | system
  /-- The failure was described by whoever raised it. -/
  | described (reason : String)
  deriving DecidableEq

/-- What is said of a failure to read or write, unless the operating system says it. -/
def IoFault.message? : IoFault → Option String
  | .system => none
  | .described reason => some ("I/O error: " ++ reason)

/-- Why a machine was not written. -/
inductive FlushFault
  | refused (reason : String)
  | store (fault : IoFault)
  deriving DecidableEq

/-- What is said of a failed flush, unless the operating system says it. -/
def FlushFault.message? : FlushFault → Option String
  | .refused reason => some reason
  | .store fault => fault.message?

/-- An error of a chart, a machine or a runner. -/
inductive Error
  | notLoaded
  | notStarted
  | chart (fault : ChartFault)
  | invalidModel (fault : DumpFault)
  | unregisteredEvent (event : String)
  | impossibleEvent (event state : String)
  | undefinedTrigger (state trigger : String)
  | undefinedAction (state action : String)
  | undefinedCallback (state hook callback : String)
  | wrongTrigger (event state : String)
  | triggerChainTooLong (bound : Nat)
  | triggerCycle (state event : String)
  | stateCondition (reason : String)
  | flush (fault : FlushFault)
  | badRequest (format : SourceFormat) (fault : TextFault)
  deriving DecidableEq

/-- The broad classes of errors. -/
inductive ErrorKind
  /-- A runner was used before it was loaded or started. -/
  | precondition
  /-- A chart or a dump is not valid. -/
  | chartValidity
  /-- An event is unknown or cannot be sent. -/
  | event
  /-- A declared identifier stands for nothing. -/
  | resolution
  /-- A trigger produced an event that cannot be used, or too many. -/
  | triggerConsistency
  /-- A callback refused. -/
  | business
  /-- A machine could not be written. -/
  | persistence
  /-- A text could not be read. -/
  | serialization
  deriving DecidableEq

/-- The name of a class of errors. -/
def ErrorKind.name : ErrorKind → String
  | .precondition => "Precondition"
  | .chartValidity => "ChartValidity"
  | .event => "Event"
  | .resolution => "Resolution"
  | .triggerConsistency => "TriggerConsistency"
  | .business => "Business"
  | .persistence => "Persistence"
  | .serialization => "Serialization"

namespace Error

/-- The class of an error. -/
def kind : Error → ErrorKind
  | .notLoaded | .notStarted => .precondition
  | .chart _ | .invalidModel _ => .chartValidity
  | .unregisteredEvent _ | .impossibleEvent _ _ => .event
  | .undefinedTrigger _ _ | .undefinedAction _ _ | .undefinedCallback _ _ _ => .resolution
  | .wrongTrigger _ _ | .triggerChainTooLong _ | .triggerCycle _ _ => .triggerConsistency
  | .stateCondition _ => .business
  | .flush _ => .persistence
  | .badRequest _ _ => .serialization

/-- The code of an error. -/
def code : Error → String
  | .notLoaded => "NOT_LOADED"
  | .notStarted => "NOT_STARTED"
  | .chart (.malformed _) => "MALFORMED_CHART"
  | .chart .noInitialState => "NO_INITIAL_STATE"
  | .chart (.ambiguousInitialState _) => "AMBIGUOUS_INITIAL_STATE"
  | .chart (.unknownTarget _ _ _) => "UNKNOWN_TARGET"
  | .invalidModel _ => "INVALID_MODEL"
  | .unregisteredEvent _ => "UNREGISTERED_EVENT"
  | .impossibleEvent _ _ => "IMPOSSIBLE_EVENT"
  | .undefinedTrigger _ _ => "UNDEFINED_TRIGGER"
  | .undefinedAction _ _ => "UNDEFINED_ACTION"
  | .undefinedCallback _ _ _ => "UNDEFINED_CALLBACK"
  | .wrongTrigger _ _ => "WRONG_TRIGGER"
  | .triggerChainTooLong _ => "TRIGGER_CHAIN_TOO_LONG"
  | .triggerCycle _ _ => "TRIGGER_CYCLE"
  | .stateCondition _ => "STATE_CONDITION"
  | .flush _ => "FLUSH_FAILED"
  | .badRequest _ _ => "BAD_REQUEST"

/-- What is said of an error, where it is known. -/
def message? : Error → Option String
  | .notLoaded => some "runner has no chart loaded"
  | .notStarted => some "runner is not started"
  | .chart fault => some fault.message
  | .invalidModel fault => fault.message?.map ("invalid model: " ++ ·)
  | .unregisteredEvent event => some ("event '" ++ event ++ "' is unregistered")
  | .impossibleEvent event state =>
    some ("event '" ++ event ++ "' is inappropriate for the current state '" ++ state ++ "'")
  | .undefinedTrigger state trigger =>
    some ("trigger '" ++ trigger ++ "' of state '" ++ state ++ "' cannot be resolved")
  | .undefinedAction state action =>
    some ("action '" ++ action ++ "' of state '" ++ state ++ "' cannot be resolved")
  | .undefinedCallback state hook callback =>
    some (hook ++ " callback '" ++ callback ++ "' of state '" ++ state ++ "' cannot be resolved")
  | .wrongTrigger event state =>
    some ("trigger of state '" ++ state ++ "' produced event '" ++ event ++
      "' which cannot be sent from it")
  | .triggerChainTooLong bound =>
    some ("trigger chain exceeded " ++ toString bound ++ " chained transitions")
  | .triggerCycle state event =>
    some ("trigger cycle: event '" ++ event ++ "' sent from state '" ++ state ++
      "' twice in one chain")
  | .stateCondition reason => some ("state condition failed: " ++ reason)
  | .flush fault => fault.message?.map ("flush failed: " ++ ·)
  | .badRequest .json .wrongShape =>
    some "JSON error: data did not match any variant of untagged enum ChartDocument"
  | .badRequest _ _ => none

/-- No error of a machine goes away by trying again. -/
def isRetryable (_ : Error) : Bool := false

end Error

end Statechart
