/-
**The history of a machine.**

Position and history of a machine change together and only when it makes a transition. So the
history tells how the machine came where it is, after every transition, in the middle of every chain
and after every failure.

* `Machine.Chronicled`: what position, history and chart have to do with each other.
* `Move.Fits`: a transition that a machine may make next.
* `Machine.Chronicled.makes`: a fitting transition keeps them together.
* `Course.chronicled`: a whole course does, and appends its records to the history.
-/

import Statechart.Proofs.Chart.Built
import Statechart.Proofs.Protocol.Frame
import Mathlib.Data.List.Chain

namespace Statechart

open Json

variable {σ : Type}

/-! ### Histories -/

/-- One record of a history stands behind another one: it starts where the other ended, and its
event leads from there to its state. -/
structure Chart.Joins (chart : Chart) (previous next : HistoryRecord) : Prop where
  status : next.status = .event ∨ next.status = .trigger
  source : next.source = some previous.state
  leads : ∃ event state, next.event = some event ∧
    chart.transition? event previous.state = some state ∧ next.state = state.name

/-- **The history of a machine tells how it came where it is.** -/
structure Machine.Chronicled (machine : Machine) : Prop where
  /-- The history is empty exactly if the machine was not started. -/
  empty_iff : machine.history = [] ↔ machine.isStarted = false
  /-- The first record is that of the first transition. -/
  first : ∀ record ∈ machine.history.head?, record.status = .initial ∧ record.event = none ∧
    record.source = none ∧ record.state = machine.chart.initialPlace.state.name
  /-- Every later record stands behind the one before it. -/
  joined : machine.history.IsChain machine.chart.Joins
  /-- The last record ends in the current state. -/
  last : ∀ record ∈ machine.history.getLast?,
    machine.currentState?.map State.name = some record.state

/-- A transition that a machine may make next. -/
inductive Move.Fits : Move → Machine → Prop
  | initial {machine : Machine} (fresh : machine.current = none) :
      Fits (.initial machine.chart) machine
  | between {machine : Machine} {status : Status} {event : String} {source destination : Place}
      (later : status = .event ∨ status = .trigger)
      (here : machine.currentPlace? = some source)
      (leads : machine.chart.destination? event source.position = some destination) :
      Fits (.between status event source destination) machine

/-! ### Places -/

theorem Chart.place?_initial (chart : Chart) :
    chart.place? chart.initialPlace.position = some chart.initialPlace := by
  unfold place? initialPlace
  rw [List.getElem?_eq_getElem chart.initial_lt]
  rfl

theorem Chart.position_of_place? {chart : Chart} {position : Nat} {place : Place}
    (stands : chart.place? position = some place) : place.position = position := by
  obtain ⟨state, -, rfl⟩ := Option.map_eq_some_iff.1 stands
  rfl

theorem Chart.place?_of_destination? {chart : Chart} {event : String} {source : Nat}
    {destination : Place} (leads : chart.destination? event source = some destination) :
    chart.place? destination.position = some destination := by
  obtain ⟨position, -, stands⟩ := Option.bind_eq_some_iff.1 leads
  rw [position_of_place? stands]
  exact stands

theorem Machine.current_of_currentPlace? {machine : Machine} {place : Place}
    (here : machine.currentPlace? = some place) :
    machine.current = some place.position ∧
      machine.chart.place? place.position = some place := by
  obtain ⟨position, current, stands⟩ := Option.bind_eq_some_iff.1 here
  rw [Chart.position_of_place? stands]
  exact ⟨current, stands⟩

theorem Move.Fits.place? {move : Move} {machine : Machine} (fits : move.Fits machine) :
    machine.chart.place? move.destination.position = some move.destination := by
  cases fits with
  | initial fresh => exact machine.chart.place?_initial
  | between later here leads => exact Chart.place?_of_destination? leads

namespace Machine

variable {machine start finish : Machine} {move : Move}

/-! ### One transition -/

theorem Chronicled.of_alike (chronicled : start.Chronicled) (alike : start.Alike finish) :
    finish.Chronicled := by
  obtain ⟨empty_iff, first, joined, last⟩ := chronicled
  have state : finish.currentState? = start.currentState? := by
    unfold currentState? currentPlace?
    rw [alike.current, alike.chart]
  refine ⟨?_, ?_, ?_, ?_⟩
  · unfold isStarted
    rw [alike.history, alike.current]
    exact empty_iff
  · rw [alike.history, alike.chart]
    exact first
  · rw [alike.history, alike.chart]
    exact joined
  · rw [alike.history, state]
    exact last

/-- A machine at rest has an empty history and is nowhere. -/
theorem Chronicled.of_rest (empty : machine.history = []) (nowhere : machine.current = none) :
    machine.Chronicled := by
  refine ⟨⟨fun _ => ?_, fun _ => empty⟩, ?_, ?_, ?_⟩
  · unfold isStarted
    rw [nowhere]
    rfl
  · rw [empty]
    exact fun record member => nomatch member
  · rw [empty]
    exact .nil
  · rw [empty]
    exact fun record member => nomatch member

/-- The record of a fitting transition stands behind the last one. -/
theorem Chronicled.joins (chronicled : machine.Chronicled) (built : machine.chart.Built)
    (fits : move.Fits machine) (timestamp : Int) {previous : HistoryRecord}
    (member : previous ∈ machine.history.getLast?) :
    machine.chart.Joins previous (move.record timestamp) := by
  have here := chronicled.last previous member
  cases fits with
  | initial fresh =>
    have empty : machine.history = [] := by
      refine chronicled.empty_iff.2 ?_
      unfold isStarted
      rw [fresh]
      rfl
    rw [empty] at member
    cases member
  | @between _ _ event source destination later place leads =>
    have same : source.state.name = previous.state := by
      unfold currentState? at here
      rw [place] at here
      exact Option.some.inj here
    have found : machine.chart.transition? event previous.state = some destination.state := by
      rw [← same, built.transition?_eq (current_of_currentPlace? place).2, leads]
      rfl
    exact ⟨later, congrArg some same, ⟨event, destination.state, rfl, found, rfl⟩⟩

/-- The record of a first transition is the first one. -/
theorem Chronicled.starts (chronicled : machine.Chronicled) (fits : move.Fits machine)
    (empty : machine.history = []) : move = .initial machine.chart := by
  cases fits with
  | initial fresh => rfl
  | between later place leads =>
    have stopped := chronicled.empty_iff.1 empty
    unfold isStarted at stopped
    rw [(current_of_currentPlace? place).1] at stopped
    cases stopped

/-- **A fitting transition keeps position and history together.** -/
theorem Chronicled.makes (chronicled : start.Chronicled) (built : start.chart.Built)
    (fits : move.Fits start) (makes : start.Makes move finish) : finish.Chronicled := by
  obtain ⟨timestamp, alike⟩ := makes
  refine Chronicled.of_alike ⟨?_, ?_, ?_, ?_⟩ alike
  · have moved : start.history ++ [move.record timestamp] ≠ [] := by simp
    exact ⟨fun empty => absurd empty moved, fun stopped => nomatch stopped⟩
  · intro record member
    change record ∈ (start.history ++ [move.record timestamp]).head? at member
    cases before : start.history with
    | nil =>
      rw [before] at member
      cases member
      rw [chronicled.starts fits before]
      exact ⟨rfl, rfl, rfl, rfl⟩
    | cons first rest =>
      refine chronicled.first record ?_
      rw [before] at member ⊢
      exact member
  · refine List.isChain_append.2 ⟨chronicled.joined, .singleton _, ?_⟩
    intro previous member record same
    cases same
    exact chronicled.joins built fits timestamp member
  · intro record member
    change record ∈ (start.history ++ [move.record timestamp]).getLast? at member
    rw [List.getLast?_append] at member
    cases member
    show Option.map State.name (Option.map Place.state
      (start.chart.place? move.destination.position)) = _
    rw [fits.place?]
    rfl

end Machine

/-! ### Whole courses -/

/-- What a call appends to a history that begins with a transition: nothing, or the record of the
transition with records of triggers behind it. -/
def Move.Appends (move : Move) (added : List HistoryRecord) : Prop :=
  added = [] ∨ ∃ timestamp later, added = move.record timestamp :: later ∧
    ∀ record ∈ later, record.status = .trigger

/-- The records that are appended after a trigger are those of triggers. -/
theorem Move.Appends.status {move : Move} (triggered : move.status = .trigger)
    {added : List HistoryRecord} (appends : move.Appends added) :
    ∀ record ∈ added, record.status = .trigger := by
  rcases appends with rfl | ⟨timestamp, later, rfl, triggers⟩
  · exact fun record member => nomatch member
  · exact List.forall_mem_cons.2 ⟨triggered, triggers⟩

/-- Where a machine is after a transition. -/
theorem Machine.Makes.currentPlace? {start finish : Machine} {move : Move}
    (makes : start.Makes move finish) (fits : move.Fits start) :
    finish.currentPlace? = some move.destination := by
  obtain ⟨timestamp, alike⟩ := makes
  unfold Machine.currentPlace?
  rw [alike.current, alike.chart]
  exact fits.place?

theorem Machine.Makes.chart {start finish : Machine} {move : Move}
    (makes : start.Makes move finish) : finish.chart = start.chart := by
  obtain ⟨timestamp, alike⟩ := makes
  exact alike.chart

theorem Machine.Makes.history {start finish : Machine} {move : Move}
    (makes : start.Makes move finish) :
    ∃ timestamp, finish.history = start.history ++ [move.record timestamp] := by
  obtain ⟨timestamp, alike⟩ := makes
  exact ⟨timestamp, alike.history⟩

/-- What a part of a run does to a machine: it keeps the chart, position and history stay together,
and the history goes on with some records. -/
structure Machine.Continues (start finish : Machine) (added : List HistoryRecord) : Prop where
  chart : finish.chart = start.chart
  chronicled : finish.Chronicled
  history : finish.history = start.history ++ added

/-- A block goes on with one record or with none. -/
theorem Block.continues [Clocked σ] {setup : Setup σ} {payload : Value} {move : Move}
    {start finish : Motion σ} {deeds : List (Deed σ)} {reply : StageReply}
    (block : Block setup payload move (move.stages setup) start deeds reply finish)
    (built : start.machine.chart.Built) (chronicled : start.machine.Chronicled)
    (fits : move.Fits start.machine) :
    ∃ added, move.Appends added ∧ start.machine.Continues finish.machine added := by
  rcases block.makes_or_fails with makes | ⟨-, alike⟩
  · obtain ⟨timestamp, history⟩ := makes.history
    refine ⟨[move.record timestamp], .inr ⟨timestamp, [], rfl, ?_⟩, makes.chart,
      chronicled.makes built fits makes, history⟩
    exact fun record member => nomatch member
  · refine ⟨[], .inl rfl, alike.chart, chronicled.of_alike alike, ?_⟩
    rw [List.append_nil, alike.history]

/-- **A course keeps position and history together, and goes on with its records.** -/
theorem Course.continues [Clocked σ] {setup : Setup σ} {payload : Value} {move : Move}
    {sent : List (Nat × String)} {start finish : Motion σ} {blocks : List (List (Deed σ))}
    {result : Except Error Unit}
    (course : Course setup payload sent move start blocks result finish)
    (built : start.machine.chart.Built) (chronicled : start.machine.Chronicled)
    (fits : move.Fits start.machine) :
    ∃ added, move.Appends added ∧ start.machine.Continues finish.machine added := by
  induction course with
  | failed block => exact block.continues built chronicled fits
  | settled block => exact block.continues built chronicled fits
  | refused block _ => exact block.continues built chronicled fits
  | onward block followed _ ih =>
    rcases block.makes_or_fails with makes | ⟨⟨_, failed⟩, -⟩
    · have leads := (Setup.of_follow followed).1
      have next := Move.Fits.between (.inr rfl) (makes.currentPlace? fits) leads
      obtain ⟨timestamp, history⟩ := makes.history
      obtain ⟨added, appends, continues⟩ := ih (makes.chart ▸ built)
        (chronicled.makes built fits makes) next
      refine ⟨_, .inr ⟨timestamp, added, rfl, appends.status rfl⟩,
        continues.chart.trans makes.chart, continues.chronicled, ?_⟩
      rw [continues.history, history, List.append_assoc]
      rfl
    · cases failed

end Statechart
