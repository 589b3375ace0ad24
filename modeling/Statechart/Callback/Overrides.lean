/-
**Callables bound to states.**

Overrides bind callables to states by name and kind. What they cover goes before what the state
declares; the other kinds of a state are left as they are.
-/

import Statechart.Callback.Basic
import Statechart.Text.Shown

namespace Statechart

open Text

/-- The callables bound to one state. -/
structure Bound (σ : Type) where
  onEnter : Option (Callback σ) := none
  onExit : Option (Callback σ) := none
  onChange : Option (Callback σ) := none
  action : Option (Callback σ) := none
  trigger : Option (Trigger σ) := none

namespace Bound

variable {σ : Type}

/-- The callback of a kind; a trigger is none. -/
def callback? (bound : Bound σ) : HookKind → Option (Callback σ)
  | .onEnter => bound.onEnter
  | .onExit => bound.onExit
  | .onChange => bound.onChange
  | .action => bound.action
  | .trigger => none

/-- The callables with a callback of a kind; a trigger is none. -/
def withCallback (bound : Bound σ) (kind : HookKind) (callback : Callback σ) : Bound σ :=
  match kind with
  | .onEnter => { bound with onEnter := some callback }
  | .onExit => { bound with onExit := some callback }
  | .onChange => { bound with onChange := some callback }
  | .action => { bound with action := some callback }
  | .trigger => bound

end Bound

/-- Callables bound to states by name. -/
abbrev Overrides (σ : Type) := Dict String (Bound σ)

namespace Overrides

variable {σ : Type}

/-- The callables bound to a state. -/
def boundTo (overrides : Overrides σ) (state : String) : Bound σ :=
  (overrides.get? state).getD {}

/-- Binds a callback of a kind to a state. -/
def bind (overrides : Overrides σ) (state : String) (kind : HookKind) (callback : Callback σ) :
    Overrides σ :=
  overrides.insert state ((overrides.boundTo state).withCallback kind callback)

/-- Binds a trigger to a state. -/
def bindTrigger (overrides : Overrides σ) (state : String) (trigger : Trigger σ) : Overrides σ :=
  overrides.insert state { overrides.boundTo state with trigger := some trigger }

/-- The callback of a kind that is bound to a state. -/
def callback? (overrides : Overrides σ) (state : String) (kind : HookKind) : Option (Callback σ) :=
  (overrides.boundTo state).callback? kind

/-- The trigger that is bound to a state. -/
def trigger? (overrides : Overrides σ) (state : String) : Option (Trigger σ) :=
  (overrides.boundTo state).trigger

/-- Whether a callable of a kind is bound to a state. -/
def covers (overrides : Overrides σ) (state : String) (kind : HookKind) : Bool :=
  match kind with
  | .trigger => (overrides.trigger? state).isSome
  | _ => (overrides.callback? state kind).isSome

/-- The states with bound callables, on one line. -/
def shown (overrides : Overrides σ) : String :=
  shownRecord "ProcessingMap" [("states", quotedList overrides.keys)]

end Overrides

end Statechart
