/-
**Which dumps are accepted.**

A dump says the states of a chart and, once more, what follows from them: the identifier, the
initial and the final states, and the routes. It is accepted exactly if it is the dump of a machine,
up to the order of its lists, and then it gives that machine. So nothing that it says twice can be
changed in one place alone.

* `Dump.Rearranges`: two dumps say the same, with their lists in any order.
* `Dump.toMachine?_eq_ok_iff`: a dump gives the machines that it describes.
* `Dump.Guarded`: what follows from the states cannot be changed alone.
* `Dump.accepted_iff`: a dump is accepted exactly if it describes a machine.
-/

import Statechart.Proofs.Dump.Lossless
import Statechart.Proofs.Runner.Operation

namespace Statechart

open Json

/-! ### Lists in any order -/

/-- **Rearranged lists are sorted alike**, and only they are, if items that stand before each other
are the same. -/
theorem Dump.mergeSort_eq_iff_perm {α : Type} {before : α → α → Bool}
    (trans : ∀ first second third, before first second → before second third → before first third)
    (total : ∀ first second, before first second || before second first)
    {items items' : List α}
    (antisymm : ∀ first second, first ∈ items' → second ∈ items' → before first second →
      before second first → first = second) :
    items.mergeSort before = items'.mergeSort before ↔ items.Perm items' := by
  have first := List.mergeSort_perm items before
  have second := List.mergeSort_perm items' before
  constructor
  · intro same
    rw [same] at first
    exact first.symm.trans second
  · intro perm
    have whole := (first.trans perm).trans second.symm
    refine whole.eq_of_pairwise (fun item item' member member' => ?_)
      (List.pairwise_mergeSort trans total items) (List.pairwise_mergeSort trans total items')
    exact antisymm item item' (second.subset (whole.subset member)) (second.subset member')

namespace Chart

/-- In a built chart a state is told from the others by its name. -/
theorem Built.eq_of_name {chart : Chart} (built : chart.Built) {first second : State}
    (member : first ∈ chart.states) (member' : second ∈ chart.states)
    (same : first.name = second.name) : first = second :=
  List.inj_on_of_nodup_map built.nodup member member' same

/-- **A chart is built of its states in any order**, and of nothing else. -/
theorem ofStates?_eq_ok_iff_perm {declared : List State} {chart : Chart} :
    ofStates? declared = .ok chart ↔ chart.Built ∧ declared.Perm chart.states := by
  have sortedAlike : ∀ built : chart.Built,
      sorted declared = sorted chart.states ↔ declared.Perm chart.states := by
    intro built
    refine Dump.mergeSort_eq_iff_perm atMost_trans atMost_total ?_
    intro first second member member' below above
    exact built.eq_of_name member member'
      (String.le_antisymm (of_decide_eq_true below) (of_decide_eq_true above))
  constructor
  · intro given
    have built := built_of_ofStates? given
    refine ⟨built, (sortedAlike built).1 ?_⟩
    exact (ofStates?_eq_ok_iff.1 given).states.symm.trans built.ofStates.states
  · rintro ⟨built, perm⟩
    refine ofStates?_eq_ok_iff.2 { built.ofStates with states := ?_ }
    exact built.ofStates.states.trans ((sortedAlike built).2 perm).symm

end Chart

namespace Dump

theorem sortedNames_eq_iff_perm {names names' : List String} :
    sortedNames names = sortedNames names' ↔ names.Perm names' := by
  refine mergeSort_eq_iff_perm ?_ ?_ ?_
  · intro first second third below above
    exact decide_eq_true (String.le_trans (of_decide_eq_true below) (of_decide_eq_true above))
  · intro first second
    rcases String.le_total first second with below | above
    · simp [below]
    · simp [above]
  · intro first second _ _ below above
    exact String.le_antisymm (of_decide_eq_true below) (of_decide_eq_true above)

/-- Routes are ordered by event, then by source, then by target. -/
theorem precedes_iff {first second : Chart.Triple} : precedes first second = true ↔
    first.event < second.event ∨ first.event = second.event ∧
      (first.source < second.source ∨
        first.source = second.source ∧ first.target ≤ second.target) := by
  unfold precedes
  grind

theorem sortedTriples_eq_iff_perm {triples triples' : List Chart.Triple} :
    sortedTriples triples = sortedTriples triples' ↔ triples.Perm triples' := by
  refine mergeSort_eq_iff_perm ?_ ?_ ?_
  · intro first second third below above
    rw [precedes_iff] at below above ⊢
    grind
  · intro first second
    rw [Bool.or_eq_true, precedes_iff, precedes_iff]
    grind
  · intro first second _ _ below above
    rw [precedes_iff] at below above
    have event : first.event = second.event := by grind
    have source : first.source = second.source := by grind
    have target : first.target = second.target := by grind
    cases first
    cases second
    cases event
    cases source
    cases target
    rfl

/-! ### Dumps that say the same -/

/-- **Two dumps say the same**, though their states, final states and routes may stand in another
order. -/
structure Rearranges (first second : Dump) : Prop where
  chartId : first.chartId = second.chartId
  name : first.name = second.name
  current : first.current = second.current
  initial : first.initial = second.initial
  finals : first.finals.Perm second.finals
  states : first.states.Perm second.states
  transitions : first.transitions.Perm second.transitions
  history : first.history = second.history
  datamodel : first.datamodel = second.datamodel

/-- What is held against a chart before its machine is given. -/
structure Checked (dump : Dump) (machine : Machine) : Prop where
  built : Chart.ofStates? dump.states = .ok machine.chart
  chartId : machine.chart.id = dump.chartId
  initial : machine.chart.initialPlace.state.name = dump.initial
  finals : sortedNames dump.finals = machine.chart.finalStates.map State.name
  transitions : sortedTriples dump.transitions = machine.chart.triples
  current : position? machine.chart dump.current = .ok machine.current
  name : machine.name = dump.name
  history : machine.history = dump.history
  datamodel : machine.datamodel = dump.datamodel

theorem toMachine?_eq_ok_iff_checked {dump : Dump} {machine : Machine} :
    dump.toMachine? = .ok machine ↔ dump.Checked machine := by
  constructor
  · intro given
    obtain ⟨built, current, name, history, datamodel⟩ := of_toMachine? given
    unfold toMachine? at given
    rw [built] at given
    dsimp only at given
    split at given
    · cases given
    · next chartId =>
      split at given
      · cases given
      · next initial =>
        split at given
        · cases given
        · next finals =>
          split at given
          · cases given
          · next transitions =>
            exact ⟨built, not_not.1 chartId, not_not.1 initial, not_not.1 finals,
              not_not.1 transitions, current, name, history, datamodel⟩
  · rintro ⟨built, chartId, initial, finals, transitions, current, name, history, datamodel⟩
    unfold toMachine?
    rw [built]
    dsimp only
    rw [if_neg (not_not_intro chartId), if_neg (not_not_intro initial),
      if_neg (not_not_intro finals), if_neg (not_not_intro transitions), current, ← name,
      ← history, ← datamodel]
    rfl

/-- The name of the current state tells where a machine is. -/
theorem position?_eq_ok_iff {machine : Machine} (placed : machine.Placed) {name? : Option String} :
    position? machine.chart name? = .ok machine.current ↔
      name? = machine.currentState?.map State.name := by
  constructor
  · intro found
    cases name? with
    | none =>
      have nowhere : machine.current = none := (Except.ok.inj found).symm
      unfold Machine.currentState? Machine.currentPlace?
      rw [nowhere]
      rfl
    | some name =>
      unfold position? at found
      dsimp only at found
      split at found
      · next position known =>
        have here : machine.current = some position := (Except.ok.inj found).symm
        obtain ⟨place, there, -, stands⟩ := placed.currentPlace? here
        obtain ⟨state, stands', rfl⟩ := placed.built.state_of_index_get? known
        obtain ⟨state', stands'', rfl⟩ := Option.map_eq_some_iff.1 stands
        cases stands'.symm.trans stands''
        unfold Machine.currentState?
        rw [there]
        rfl
      · cases found
  · rintro rfl
    exact placed.position?_eq

/-- **A dump gives exactly the machines that it describes.** -/
theorem toMachine?_eq_ok_iff {dump : Dump} {machine : Machine} :
    dump.toMachine? = .ok machine ↔ machine.Placed ∧ dump.Rearranges (ofMachine machine) := by
  constructor
  · intro given
    have placed := Machine.placed_of_toMachine? given
    obtain ⟨built, chartId, initial, finals, transitions, current, name, history, datamodel⟩ :=
      toMachine?_eq_ok_iff_checked.1 given
    rw [← placed.built.sortedNames_finals] at finals
    rw [← placed.built.sortedTriples_triples] at transitions
    exact ⟨placed, chartId.symm, name.symm, (position?_eq_ok_iff placed).1 current, initial.symm,
      sortedNames_eq_iff_perm.1 finals, (Chart.ofStates?_eq_ok_iff_perm.1 built).2,
      sortedTriples_eq_iff_perm.1 transitions, history.symm, datamodel.symm⟩
  · rintro ⟨placed, chartId, name, current, initial, finals, states, transitions, history,
      datamodel⟩
    refine toMachine?_eq_ok_iff_checked.2 ⟨?_, chartId.symm, initial.symm, ?_, ?_,
      (position?_eq_ok_iff placed).2 current, name.symm, history.symm, datamodel.symm⟩
    · exact Chart.ofStates?_eq_ok_iff_perm.2 ⟨placed.built, states⟩
    · exact (sortedNames_eq_iff_perm.2 finals).trans placed.built.sortedNames_finals
    · exact (sortedTriples_eq_iff_perm.2 transitions).trans placed.built.sortedTriples_triples

/-! ### Changes in one place -/

/-- **What follows from the states cannot be changed alone.** Another identifier, another initial
state, and lists that are no rearrangements of the final states and the routes are refused, each for
what it is. -/
structure Guarded (dump : Dump) : Prop where
  chartId : ∀ chartId, chartId ≠ dump.chartId →
    ({ dump with chartId } : Dump).toMachine? = .error (.identifier chartId dump.chartId)
  initial : ∀ initial, initial ≠ dump.initial →
    ({ dump with initial } : Dump).toMachine? = .error (.initialState initial dump.initial)
  finals : ∀ finals, ¬finals.Perm dump.finals →
    ({ dump with finals } : Dump).toMachine? = .error .finalStates
  transitions : ∀ transitions, ¬transitions.Perm dump.transitions →
    ({ dump with transitions } : Dump).toMachine? = .error .transitions

/-- A dump that is accepted is guarded. -/
theorem Checked.guarded {dump : Dump} {machine : Machine} (checked : dump.Checked machine) :
    dump.Guarded := by
  obtain ⟨built, chartId, initial, finals, transitions, -, -, -, -⟩ := checked
  have itself := Chart.built_of_ofStates? built
  refine ⟨?_, ?_, ?_, ?_⟩
  · intro other differ
    unfold toMachine?
    dsimp only
    rw [built]
    dsimp only
    rw [if_pos (chartId ▸ differ.symm), chartId]
  · intro other differ
    unfold toMachine?
    dsimp only
    rw [built]
    dsimp only
    rw [if_neg (not_not_intro chartId), if_pos (initial ▸ differ.symm), initial]
  · intro other differ
    have mismatch : sortedNames other ≠ machine.chart.finalStates.map State.name := by
      rw [← finals]
      exact mt sortedNames_eq_iff_perm.1 differ
    unfold toMachine?
    dsimp only
    rw [built]
    dsimp only
    rw [if_neg (not_not_intro chartId), if_neg (not_not_intro initial), if_pos mismatch]
  · intro other differ
    have mismatch : sortedTriples other ≠ machine.chart.triples := by
      rw [← transitions]
      exact mt sortedTriples_eq_iff_perm.1 differ
    unfold toMachine?
    dsimp only
    rw [built]
    dsimp only
    rw [if_neg (not_not_intro chartId), if_neg (not_not_intro initial),
      if_neg (not_not_intro finals), if_pos mismatch]

/-- **A dump is accepted exactly if it describes a machine.** It gives the machine of which it is
the dump, up to the order of its lists, if there is one, and else it is refused. A dump that is
accepted is refused again if the identifier, the initial state, the final states or the routes are
changed alone. -/
theorem accepted_iff (dump : Dump) :
    (∀ machine : Machine, dump.toMachine? = .ok machine ↔
      machine.Placed ∧ dump.Rearranges (ofMachine machine)) ∧
    ((∃ fault, dump.toMachine? = .error fault) ↔
      ∀ machine : Machine, machine.Placed → ¬dump.Rearranges (ofMachine machine)) ∧
    ((∃ machine, dump.toMachine? = .ok machine) → dump.Guarded) := by
  refine ⟨fun machine => toMachine?_eq_ok_iff, ?_, ?_⟩
  · constructor
    · rintro ⟨fault, refused⟩ machine placed describes
      cases refused.symm.trans (toMachine?_eq_ok_iff.2 ⟨placed, describes⟩)
    · intro undescribed
      cases given : dump.toMachine? with
      | error fault => exact ⟨fault, rfl⟩
      | ok machine =>
        obtain ⟨placed, describes⟩ := toMachine?_eq_ok_iff.1 given
        exact absurd describes (undescribed machine placed)
  · rintro ⟨machine, given⟩
    exact (toMachine?_eq_ok_iff_checked.1 given).guarded

/-- The door after it was pushed. -/
def wideDoor : Machine :=
  { shutDoor with
    current := some 1
    history := [⟨0, none, none, "shut", .initial⟩, ⟨1, some "push", some "shut", "wide", .event⟩] }

/-- The dump of the door with its states in another order gives the door, and no longer does so if
it names another initial state. -/
theorem accepted_door :
    let dump : Dump := { ofMachine wideDoor with states := doorStates.reverse }
    dump.toMachine? = .ok wideDoor ∧
      ({ dump with initial := "wide" } : Dump).toMachine? =
        .error (.initialState "wide" "shut") := by
  intro dump
  have placed : wideDoor.Placed :=
    ⟨(Description.of_build build_door).1, fun position here => by cases here; decide⟩
  have describes : dump.Rearranges (ofMachine wideDoor) :=
    ⟨rfl, rfl, rfl, rfl, .refl _, doorStates.reverse_perm, .refl _, rfl, rfl⟩
  have whole := accepted_iff dump
  have accepted := (whole.1 wideDoor).2 ⟨placed, describes⟩
  exact ⟨accepted, (whole.2.2 ⟨wideDoor, accepted⟩).initial "wide" (by decide)⟩

end Dump

end Statechart
