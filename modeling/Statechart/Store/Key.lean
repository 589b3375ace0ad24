/-
**Keys of machines.**

A machine is known outside a runner by its owner and its type. Keys are ordered by owner and then by
type.

* `lt_iff`: the order of keys;
* `Machine.key?`: the key of a machine that has an owner.
-/

import Statechart.Machine
import Statechart.Text.Shown

namespace Statechart

open Text

/-- Whose machine it is, and of which type. -/
structure MachineKey where
  owner : String
  chartType : String
  deriving DecidableEq, Inhabited

namespace MachineKey

/-- By owner, and among the machines of one owner by type. -/
def precedes (first second : MachineKey) : Prop :=
  first.owner < second.owner ∨ first.owner = second.owner ∧ first.chartType < second.chartType

instance : LT MachineKey := ⟨precedes⟩

/-- The order of keys. -/
theorem lt_iff {first second : MachineKey} : first < second ↔
    first.owner < second.owner ∨ first.owner = second.owner ∧ first.chartType < second.chartType :=
  Iff.rfl

instance : DecidableLT MachineKey := fun _ _ => decidable_of_iff _ lt_iff.symm

instance : StrictOrder MachineKey where
  irrefl key less := by
    rcases lt_iff.1 less with owner | ⟨_, chartType⟩
    · exact StrictOrder.irrefl _ owner
    · exact StrictOrder.irrefl _ chartType
  trans {first second third} less less' := by
    rw [lt_iff] at less less' ⊢
    rcases less with owner | ⟨owner, chartType⟩ <;> rcases less' with owner' | ⟨owner', chartType'⟩
    · exact .inl (StrictOrder.trans owner owner')
    · exact .inl (owner' ▸ owner)
    · exact .inl (owner ▸ owner')
    · exact .inr ⟨owner.trans owner', StrictOrder.trans chartType chartType'⟩
  connected {first second} differ notLess := by
    rw [lt_iff] at notLess ⊢
    by_cases owner : first.owner = second.owner
    · have chartType : first.chartType ≠ second.chartType := fun same =>
        differ (by cases first; cases second; simp_all)
      exact .inr ⟨owner.symm, StrictOrder.connected chartType fun less =>
        notLess (.inr ⟨owner, less⟩)⟩
    · exact .inl (StrictOrder.connected owner fun less => notLess (.inl less))

/-- Whether a key is not behind another one. -/
def atMost (first second : MachineKey) : Bool := !decide (second < first)

/-- Keys in ascending order. -/
def sorted (keys : List MachineKey) : List MachineKey := keys.mergeSort atMost

/-- A key in messages. -/
def text (key : MachineKey) : String := key.owner ++ "/" ++ key.chartType

/-- A key on one line. -/
def shown (key : MachineKey) : String :=
  shownRecord "MachineKey" [("owner", quoted key.owner), ("chart_type", quoted key.chartType)]

end MachineKey

/-- The key of a machine, if it has an owner. -/
def Machine.key? (machine : Machine) : Option MachineKey :=
  machine.owner?.map fun owner => { owner, chartType := machine.name }

end Statechart
