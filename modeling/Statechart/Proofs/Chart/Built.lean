/-
**Built charts.**

A chart that was built of some states is built again of the states that it keeps. What building
establishes is read off the chart itself: its names ascend, and its index gives each of them the
place where it stands.

* `Chart.Built`: the chart is what its own states give.
* `Chart.built_of_ofStates?`: building gives such charts only.
* `Chart.Built.index_get?`: the index of a built chart answers with the position of a name.
* `Chart.Built.transition?_eq`: its table, looked up by name, answers as it does by position.
-/

import Statechart.Chart.Basic
import Statechart.Proofs.Dict

namespace Statechart

namespace Chart

/-! ### What building establishes -/

/-- A chart that is what its own states give. -/
def Built (chart : Chart) : Prop := ofStates? chart.states = .ok chart

theorem atMost_trans (first second third : State) (below : decide (first.name ≤ second.name))
    (above : decide (second.name ≤ third.name)) : decide (first.name ≤ third.name) :=
  decide_eq_true (String.le_trans (of_decide_eq_true below) (of_decide_eq_true above))

theorem atMost_total (first second : State) :
    decide (first.name ≤ second.name) || decide (second.name ≤ first.name) := by
  rcases String.le_total first.name second.name with below | above
  · simp [below]
  · simp [above]

theorem sorted_sorted (states : List State) : sorted (sorted states) = sorted states :=
  List.mergeSort_of_pairwise (List.pairwise_mergeSort atMost_trans atMost_total states)

/-- States in order of name are sorted. -/
theorem sorted_of_pairwise {states : List State}
    (ordered : (states.map State.name).Pairwise (· ≤ ·)) : sorted states = states := by
  rw [List.pairwise_map] at ordered
  exact List.mergeSort_of_pairwise (ordered.imp fun below => decide_eq_true below)

/-- What holds of the states of a chart and of the chart once it is built of them. -/
structure OfStates (declared : List State) (chart : Chart) : Prop where
  states : chart.states = sorted declared
  named : ∀ state ∈ chart.states, state.name ≠ ""
  unrepeated : firstRepeated? (chart.states.map State.name) = none
  initial : positionsOf State.isInitial chart.states = [chart.initial]
  known : unknownTarget? chart.states chart.index = none
  index : chart.index = indexOf chart.states
  table : chart.table = tableOf chart.states chart.index
  finals : chart.finals = positionsOf State.isFinal chart.states
  id : chart.id = contentId chart.states

/-- Building succeeds with what it establishes, and only with that. -/
theorem ofStates?_eq_ok_iff {declared : List State} {chart : Chart} :
    ofStates? declared = .ok chart ↔ OfStates declared chart := by
  constructor
  · intro built
    unfold ofStates? at built
    dsimp only at built
    split at built
    · cases built
    · next named =>
      split at built
      · cases built
      · next unrepeated =>
        split at built
        · cases built
        · cases built
        · next initial initials =>
          split at built
          · cases built
          · next known =>
            cases built
            refine ⟨rfl, ?_, unrepeated, initials, known, rfl, rfl, rfl, rfl⟩
            intro state member empty
            exact named (List.any_eq_true.2 ⟨state, member, by simp [empty]⟩)
  · intro facts
    obtain ⟨id, states, index, table, initial, initial_lt, finals⟩ := chart
    obtain ⟨states_, named, unrepeated, initials, known, index_, table_, finals_, id_⟩ := facts
    dsimp only at states_ named unrepeated initials known index_ table_ finals_ id_
    subst states_ index_ table_ finals_ id_
    unfold ofStates?
    dsimp only
    split
    · next empty =>
      obtain ⟨state, member, empty⟩ := List.any_eq_true.1 empty
      exact absurd (String.isEmpty_iff.1 empty) (named state member)
    · rw [unrepeated]
      dsimp only
      split
      · next none_ => cases none_.symm.trans initials
      · next several => cases several.symm.trans initials
      · next initial' initials' =>
        cases initials'.symm.trans initials
        rw [known]

/-- **Building gives built charts only.** -/
theorem built_of_ofStates? {declared : List State} {chart : Chart}
    (built : ofStates? declared = .ok chart) : chart.Built := by
  have facts := ofStates?_eq_ok_iff.1 built
  refine ofStates?_eq_ok_iff.2 { facts with states := ?_ }
  rw [facts.states, sorted_sorted]

/-! ### Names and positions -/

/-- A place has the state that stands there. -/
theorem getElem?_of_place? {chart : Chart} {place : Place}
    (stands : chart.place? place.position = some place) :
    chart.states[place.position]? = some place.state := by
  obtain ⟨state, found, same⟩ := Option.map_eq_some_iff.1 stands
  rw [← same]
  exact found

theorem mem_of_place? {chart : Chart} {place : Place}
    (stands : chart.place? place.position = some place) : place.state ∈ chart.states :=
  List.mem_of_getElem? (getElem?_of_place? stands)

/-- Names in order of which none is repeated ascend strictly. -/
theorem ascending_of_firstRepeated? {names : List String} (unrepeated : firstRepeated? names = none)
    (ordered : names.Pairwise (· ≤ ·)) : names.Pairwise (· < ·) := by
  induction names with
  | nil => exact .nil
  | cons first rest ih =>
    obtain ⟨below, ordered⟩ := List.pairwise_cons.1 ordered
    cases rest with
    | nil => exact List.pairwise_singleton ..
    | cons second rest =>
      unfold firstRepeated? at unrepeated
      split at unrepeated
      · cases unrepeated
      · next differ =>
        have less : first < second :=
          String.not_le.1 fun above =>
            differ (String.le_antisymm (below second List.mem_cons_self) above)
        have ascending := ih unrepeated ordered
        refine List.pairwise_cons.2 ⟨fun name member => ?_, ascending⟩
        rcases List.mem_cons.1 member with rfl | later
        · exact less
        · exact StrictOrder.trans less ((List.pairwise_cons.1 ascending).1 name later)

/-- Ascending names differ. -/
theorem nodup_of_ascending {names : List String} (ascending : names.Pairwise (· < ·)) :
    names.Nodup :=
  ascending.imp fun {first second} less (same : first = second) =>
    StrictOrder.irrefl first (same.symm ▸ less)

/-- The index is made of the names in order. -/
theorem map_fst_positions (states : List State) :
    (states.zipIdx.map fun entry => (entry.1.name, entry.2)).map Prod.fst =
      states.map State.name := by
  rw [List.map_map]
  refine Eq.trans ?_ (congrArg (List.map State.name) (List.zipIdx_map_fst 0 states))
  rw [List.map_map]
  rfl

namespace Built

variable {chart : Chart}

theorem ofStates (built : chart.Built) : OfStates chart.states chart := ofStates?_eq_ok_iff.1 built

/-- The names of a built chart ascend. -/
theorem ascending (built : chart.Built) : (chart.states.map State.name).Pairwise (· < ·) := by
  refine ascending_of_firstRepeated? built.ofStates.unrepeated ?_
  rw [built.ofStates.states, List.pairwise_map]
  exact (List.pairwise_mergeSort atMost_trans atMost_total chart.states).imp fun below =>
    of_decide_eq_true below

theorem nodup (built : chart.Built) : (chart.states.map State.name).Nodup :=
  nodup_of_ascending built.ascending

/-- **The index of a built chart answers with the position of a name.** -/
theorem index_get? (built : chart.Built) {position : Nat} {state : State}
    (stands : chart.states[position]? = some state) :
    chart.index.get? state.name = some position := by
  rw [built.ofStates.index]
  refine Dict.get?_ofList_of_mem ?_ ?_
  · exact (congrArg List.Nodup (map_fst_positions chart.states)).mpr built.nodup
  · exact List.mem_map.2 ⟨(state, position), List.mem_zipIdx_iff_getElem?.2 stands, rfl⟩

theorem lt_of_index_get? (built : chart.Built) {name : String} {position : Nat}
    (found : chart.index.get? name = some position) : position < chart.states.length := by
  rw [built.ofStates.index] at found
  obtain ⟨entry, member, same⟩ := List.mem_map.1 (Dict.mem_of_get?_ofList found)
  cases same
  exact (List.getElem?_eq_some_iff.1 (List.mem_zipIdx_iff_getElem?.1 member)).1

/-- The place of a name is where the state of that name stands. -/
theorem transition?_eq (built : chart.Built) {place : Place} {event : String}
    (stands : chart.place? place.position = some place) :
    chart.transition? event place.state.name =
      (chart.destination? event place.position).map Place.state := by
  unfold place? at stands
  obtain ⟨position, state⟩ := place
  obtain ⟨_, stands, same⟩ := Option.map_eq_some_iff.1 stands
  cases same
  unfold transition?
  rw [built.index_get? stands]
  show (chart.destination? event _ >>= fun place => some place.state) = _
  rw [Option.bind_eq_bind, Option.map_eq_bind]
  rfl

end Built

end Chart

end Statechart
