/-
**Callbacks by name and by source.**

A registry knows each callable by a name of its own; callbacks and triggers have separate names.
Sources are asked with any identifier: there is at most one for triggers and one for actions.
-/

import Statechart.Callback.Basic
import Statechart.Text.Shown

namespace Statechart

open Text

/-- Callables by name. -/
structure Registry (σ : Type) where
  callbacks : Dict String (Callback σ) := ∅
  triggers : Dict String (Trigger σ) := ∅

namespace Registry

variable {σ : Type}

/-- The number of callables. -/
def size (registry : Registry σ) : Nat := registry.callbacks.size + registry.triggers.size

/-- Whether there is no callable. -/
def isEmpty (registry : Registry σ) : Bool :=
  registry.callbacks.isEmpty && registry.triggers.isEmpty

/-- The resolver that looks identifiers up. -/
def resolver (registry : Registry σ) : Resolver σ where
  callback? identifier _ _ := registry.callbacks.get? identifier
  trigger? identifier _ := registry.triggers.get? identifier

/-- The names of a registry on one line. -/
def shown (registry : Registry σ) : String :=
  shownRecord "CallbackRegistry"
    [("callbacks", quotedList registry.callbacks.keys),
     ("triggers", quotedList registry.triggers.keys)]

end Registry

/-- Callables that are given the identifier. -/
structure Sources (σ : Type) where
  trigger : Option (String → Trigger σ) := none
  action : Option (String → Callback σ) := none

namespace Sources

variable {σ : Type}

/-- The resolver that asks the source of a kind. Only triggers and actions have one. -/
def resolver (sources : Sources σ) : Resolver σ where
  callback? identifier _ kind :=
    if kind = .action then sources.action.map fun source => source identifier else none
  trigger? identifier _ := sources.trigger.map fun source => source identifier

/-- Which sources there are, on one line. -/
def shown (sources : Sources σ) : String :=
  shownRecord "InjectedSources"
    [("trigger_source", shownTruth sources.trigger.isSome),
     ("action_source", shownTruth sources.action.isSome)]

end Sources

/-- The resolver without callables on one line. -/
def Resolver.shownNone : String := "NoCallbacks"

end Statechart
