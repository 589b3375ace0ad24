/-
**Machines without callables, and their times.**

Where nothing is called, what becomes of a machine is told by the machine alone: the first
transition if it is not started, and for an event the transition from where it is, if there is one.
The clock only gives the times of the history. Machines that agree up to these times answer the same
events, and agree again afterwards.

* `Machine.begun`, `Machine.answer?`: what starting and an event make of a machine.
* `Machine.untimed`: a machine without the times of its history.
* `Machine.untimed_answer?`: machines that agree up to times answer alike.
-/

import Statechart.Proofs.Runner.Operation
import Statechart.Store.Key

namespace Statechart

open Json

namespace HistoryRecord

/-- The record without its time. -/
def untimed (record : HistoryRecord) : HistoryRecord := { record with timestamp := 0 }

end HistoryRecord

namespace Machine

/-- A machine after a transition at a time, the payload being merged if that is asked for. -/
def moved (machine : Machine) (merges : Bool) (move : Move) (payload : Value) (time : Int) :
    Machine :=
  { machine.commit move.destination.position (move.record time) with
    datamodel := if merges then machine.datamodel.merge payload else machine.datamodel }

/-- A machine that is started at a time if it was not. -/
def begun (machine : Machine) (merges : Bool) (payload : Value) (time : Int) : Machine :=
  if machine.isStarted then machine
  else machine.moved merges (.initial machine.chart) payload time

/-- The transition that a machine makes on an event, if there is one. -/
def moveOn? (machine : Machine) (event : String) : Option Move := do
  let source ← machine.currentPlace?
  let destination ← machine.chart.destination? event source.position
  return .between .event event source destination

/-- A machine that gets an event at a time, if the event leads on from where it is. -/
def answer? (machine : Machine) (merges : Bool) (payload : Value) (time : Int) (event : String) :
    Option Machine :=
  (machine.moveOn? event).map fun move => machine.moved merges move payload time

variable {first second machine next : Machine} {merges : Bool} {move : Move} {payload : Value}
  {time time' : Int}

/-! ### Transitions -/

/-- A transition leaves the key of a machine. -/
theorem key?_moved : (machine.moved merges move payload time).key? = machine.key? := by
  unfold key? owner? moved
  cases merges with
  | false => rfl
  | true => exact congrArg (Option.map _) (Datamodel.owner?_merge _ _)

/-- A transition leads to its destination. -/
theorem currentPlace?_moved
    (arrives : machine.chart.place? move.destination.position = some move.destination) :
    (machine.moved merges move payload time).currentPlace? = some move.destination := arrives

/-- A transition on an event is one from where the machine is. -/
theorem moveOn?_eq_some_iff {event : String} : machine.moveOn? event = some move ↔
    ∃ source destination, machine.currentPlace? = some source ∧
      machine.chart.destination? event source.position = some destination ∧
      .between .event event source destination = move := by
  simp [moveOn?, Option.bind_eq_some_iff]

/-- A fitting transition leads to one of the states. -/
theorem Placed.moved (placed : machine.Placed) (fits : move.Fits machine) :
    (machine.moved merges move payload time).Placed := by
  refine placed.makes fits ⟨time, rfl, rfl, rfl, rfl, ?_⟩
  cases merges with
  | false => rfl
  | true => exact Datamodel.owner?_merge _ _

/-! ### Times -/

/-- **The machine without the times of its history.** -/
def untimed (machine : Machine) : Machine :=
  { machine with history := machine.history.map HistoryRecord.untimed }

/-- **A transition takes machines that agree up to times to such machines.** -/
theorem untimed_moved (same : first.untimed = second.untimed) :
    (first.moved merges move payload time).untimed =
      (second.moved merges move payload time').untimed := by
  obtain ⟨chart, name, current, history, datamodel⟩ := first
  obtain ⟨chart', name', current', history', datamodel'⟩ := second
  obtain ⟨rfl, rfl, -, histories, rfl⟩ := Machine.mk.inj same
  unfold untimed moved commit
  simp only [List.map_append, histories]
  rfl

theorem isStarted_of_untimed (same : first.untimed = second.untimed) :
    first.isStarted = second.isStarted := by
  have started := congrArg isStarted same
  exact started

/-- **Machines that agree up to times answer the same events alike**, be it at different times. -/
theorem untimed_answer? (same : first.untimed = second.untimed) (event : String) :
    (first.answer? merges payload time event).map untimed =
      (second.answer? merges payload time' event).map untimed := by
  have moves : first.moveOn? event = second.moveOn? event := by
    have untimed := congrArg (moveOn? · event) same
    exact untimed
  unfold answer?
  rw [moves, Option.map_map, Option.map_map]
  refine congrArg (Option.map · _) ?_
  funext move
  exact untimed_moved same

/-- **Machines that agree up to times are started alike.** -/
theorem untimed_begun (same : first.untimed = second.untimed) :
    (first.begun merges payload time).untimed = (second.begun merges payload time').untimed := by
  have chart : first.chart = second.chart := (Machine.mk.inj same).1
  unfold begun
  rw [isStarted_of_untimed same, chart]
  split
  · exact same
  · exact untimed_moved same

/-- A machine that was started stays as it is. -/
theorem begun_of_place (there : machine.currentPlace?.isSome = true) :
    machine.begun merges payload time = machine := by
  unfold begun
  refine if_pos ?_
  unfold currentPlace? at there
  unfold isStarted
  cases here : machine.current with
  | none => rw [here] at there; cases there
  | some position => rfl

end Machine

end Statechart
