/-
**States of a chart.**

A state has a name, the destination of each event it answers, the identifiers of its hooks, and two
flags that say whether a machine starts and whether it ends there.
-/

import Statechart.Json.Value

namespace Statechart

open Json

/-- The places of a transition at which a state may name a callable. -/
inductive HookKind
  | onEnter
  | onExit
  | onChange
  | trigger
  | action
  deriving DecidableEq, Repr, Inhabited

namespace HookKind

/-- Every kind, in the order in which a loaded chart is checked. -/
def all : List HookKind := [.onEnter, .onExit, .onChange, .trigger, .action]

/-- The name of a kind in descriptions and messages. -/
def name : HookKind → String
  | .onEnter => "on_enter"
  | .onExit => "on_exit"
  | .onChange => "on_change"
  | .trigger => "trigger"
  | .action => "action"

end HookKind

/-- The identifiers that a state declares for its hooks. -/
structure Hooks where
  onEnter : Option String := none
  onExit : Option String := none
  onChange : Option String := none
  trigger : Option String := none
  action : Option String := none
  deriving DecidableEq, Inhabited

/-- The identifier declared for a kind. -/
def Hooks.get (hooks : Hooks) : HookKind → Option String
  | .onEnter => hooks.onEnter
  | .onExit => hooks.onExit
  | .onChange => hooks.onChange
  | .trigger => hooks.trigger
  | .action => hooks.action

/-- The declared hooks as fields, a hook that is not declared having none. -/
def Hooks.fields (hooks : Hooks) : List (String × Value) :=
  let field (kind : HookKind) : List (String × Value) :=
    match hooks.get kind with
    | none => []
    | some identifier => [(kind.name, .string identifier)]
  HookKind.all.flatMap field

/-- A state of a chart. -/
structure State where
  name : String
  /-- The destination of each event. -/
  events : Dict String String
  hooks : Hooks
  isInitial : Bool
  isFinal : Bool
  deriving DecidableEq, Inhabited

namespace State

/-- A state without events or hooks, at which a machine ends. -/
def new (name : String) : State :=
  { name, events := ∅, hooks := {}, isInitial := false, isFinal := true }

/-- The events of a state as a value. -/
def eventsValue (events : Dict String String) : Value := .ofDict (events.mapValues .string)

/-- A state as a value: its name and events, the hooks it declares, and both flags. -/
def toValue (state : State) : Value :=
  .record <|
    [("name", .string state.name), ("events", eventsValue state.events)] ++ state.hooks.fields ++
      [("is_initial", .bool state.isInitial), ("is_final", .bool state.isFinal)]

end State

end Statechart
