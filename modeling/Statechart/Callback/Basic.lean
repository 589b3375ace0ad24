/-
**Callbacks.**

A state names its callables, and a resolver gives what the names stand for. A callable sees the
transition that it is called for, may change the data of the machine and the world around it, and
succeeds or fails. The world is a type that is left open: what callbacks do beyond the machine is
theirs.
-/

import Statechart.Machine
import Statechart.Error

namespace Statechart

open Json

/-- What a callable is shown of the transition it is called for. -/
structure View where
  chartId : String
  /-- The type of the machine. -/
  name : String
  /-- The event that is processed, none for the first transition. -/
  event : Option String
  payload : Value
  /-- The state that is left, none for the first transition. -/
  source : Option State
  /-- The state that is entered. -/
  destination : State

/-- A field of the payload. -/
def View.argument? (view : View) (name : String) : Option Value := view.payload.field? name

/-- What a call leaves behind. -/
structure Reply (σ α : Type) where
  result : Except Error α
  datamodel : Datamodel
  world : σ

/-- Something that is called for a transition with the data of the machine and the world. -/
abbrev Callable (σ α : Type) := View → Datamodel → σ → Reply σ α

/-- A callable for entering, leaving, changing or acting. -/
abbrev Callback (σ : Type) := Callable σ Unit

/-- A callable that gives the event to send next. -/
abbrev Trigger (σ : Type) := Callable σ String

/-- What declared identifiers stand for, given the states that declare them. -/
structure Resolver (σ : Type) where
  callback? : (identifier state : String) → HookKind → Option (Callback σ)
  trigger? : (identifier state : String) → Option (Trigger σ)

namespace Resolver

variable {σ : Type}

/-- The resolver to which no identifier means anything. -/
def none : Resolver σ where
  callback? _ _ _ := Option.none
  trigger? _ _ := Option.none

/-- Whether an identifier stands for a callable of a kind. -/
def canResolve (resolver : Resolver σ) (identifier state : String) (kind : HookKind) : Bool :=
  match kind with
  | .trigger => (resolver.trigger? identifier state).isSome
  | _ => (resolver.callback? identifier state kind).isSome

end Resolver

/-- The error of an identifier that stands for nothing. -/
def undefinedHook (state : String) (kind : HookKind) (identifier : String) : Error :=
  match kind with
  | .trigger => .undefinedTrigger state identifier
  | .action => .undefinedAction state identifier
  | _ => .undefinedCallback state kind.name identifier

end Statechart
