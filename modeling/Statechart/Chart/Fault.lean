/-
**What can be wrong with a chart.**

The faults of descriptions and of the charts built from them, and what is said of each.
-/

import Statechart.Text.Quoted

namespace Statechart

open Text

/-- The elements of a marked-up chart that hold other elements. -/
inductive Surrounding
  | chart
  | state (identifier : Option String)
  | datamodel
  deriving DecidableEq

/-- What is said of a surrounding. -/
def Surrounding.text : Surrounding → String
  | .chart => "chart"
  | .state identifier => "state '" ++ identifier.getD "?" ++ "'"
  | .datamodel => "datamodel"

/-- The ways in which a description is not that of a chart. -/
inductive Malformation
  /-- A record gives no identifier. -/
  | missingIdentifier
  /-- A state's identifier is the empty text. -/
  | emptyIdentifier
  | duplicateState (name : String)
  | unexpectedElement (element : String) (within : Surrounding)
  | undeclaredInitial (name : String)
  | missingAttribute (element property : String)
  /-- An element that should hold an identifier holds none. -/
  | emptyElement (element : String)
  | notBoolean (text property : String)
  deriving DecidableEq

/-- What is said of a malformation. -/
def Malformation.message : Malformation → String
  | .missingIdentifier => "no state identifier found in a state definition"
  | .emptyIdentifier => "state with an empty identifier"
  | .duplicateState name => "state '" ++ name ++ "' is declared more than once"
  | .unexpectedElement element within => "unexpected <" ++ element ++ "> in " ++ within.text
  | .undeclaredInitial name => "initial state '" ++ name ++ "' is not declared"
  | .missingAttribute element property => "<" ++ element ++ "> without '" ++ property ++ "'"
  | .emptyElement element => "empty <" ++ element ++ ">"
  | .notBoolean text property => "'" ++ text ++ "' is not a boolean for '" ++ property ++ "'"

/-- The ways in which states are not those of a chart. -/
inductive ChartFault
  | malformed (reason : Malformation)
  | noInitialState
  /-- Several states are marked initial. -/
  | ambiguousInitialState (names : List String)
  /-- An event of a state leads to a state that is not declared. -/
  | unknownTarget (state event target : String)
  deriving DecidableEq

/-- What is said of a fault. -/
def ChartFault.message : ChartFault → String
  | .malformed reason => "malformed chart: " ++ reason.message
  | .noInitialState => "no initial state found, mark one state as the entry point"
  | .ambiguousInitialState names =>
    "initial state ambiguity: " ++ quotedList names ++ " are all marked initial"
  | .unknownTarget state event target =>
    "state '" ++ state ++ "' routes event '" ++ event ++ "' to undeclared state '" ++ target ++ "'"

end Statechart
