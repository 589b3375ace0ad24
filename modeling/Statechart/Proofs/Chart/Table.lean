/-
**The table of destinations.**

The table of a chart holds the declared events and nothing else: what it answers for an event and a
position is where the state at that position declares that the event leads.

* `Chart.of_get?_tableOf`: a route of the table comes from an event that a state declares.
* `Chart.isSome_get?_tableOf`: an event that a state declares has a route in the table.
* `Chart.Built.arrow_of_lookup`: in a built chart the event that leads on is among the arrows.
* `Chart.Built.destination?_eq_some_iff`: an event leads where the state says that it leads.
* `Chart.Built.map_name_transition?`: so it does by names.
* `Chart.Built.isRegistered_iff`: the events of the table are those that some state declares.
-/

import Statechart.Proofs.Chart.Built

namespace Statechart

namespace Chart

/-- A table with a route more answers the new route there, and elsewhere what it did before. -/
theorem get?_addRoute (table : Dict String Routes) (event other : String)
    (source destination position : Nat) :
    ((addRoute table event source destination).get? other).bind (·.get? position) =
      if event = other ∧ source = position then some destination
      else (table.get? other).bind (·.get? position) := by
  unfold addRoute
  rw [Dict.get?_insert]
  by_cases same : event = other
  · subst same
    rw [if_pos rfl, Option.bind_some, Dict.get?_insert]
    by_cases here : source = position
    · rw [if_pos here, if_pos ⟨rfl, here⟩]
    · rw [if_neg here, if_neg fun both => here both.2]
      cases table.get? event with
      | none => rfl
      | some routes => rfl
  · rw [if_neg same, if_neg fun both => same both.1]

/-- An arrow is an event that the state at its source declares. -/
theorem mem_arrows_iff {states : List State} {arrow : Arrow} :
    arrow ∈ arrows states ↔
      ∃ state, states[arrow.source]? = some state ∧
        (arrow.event, arrow.target) ∈ state.events.entries := by
  unfold arrows
  constructor
  · intro member
    obtain ⟨⟨state, source⟩, stands, member⟩ := List.mem_flatMap.1 member
    obtain ⟨⟨event, target⟩, declared, rfl⟩ := List.mem_map.1 member
    exact ⟨state, List.mem_zipIdx_iff_getElem?.1 stands, declared⟩
  · rintro ⟨state, stands, declared⟩
    refine List.mem_flatMap.2 ⟨(state, arrow.source), List.mem_zipIdx_iff_getElem?.2 stands, ?_⟩
    exact List.mem_map.2 ⟨(arrow.event, arrow.target), declared, rfl⟩

/-- **A route of the table comes from an event that a state declares.** -/
theorem of_get?_tableOf {states : List State} {index : Dict String Nat} {event : String}
    {source destination : Nat}
    (found : ((tableOf states index).get? event).bind (·.get? source) = some destination) :
    ∃ target, { source, event, target } ∈ arrows states ∧ index.get? target = some destination := by
  unfold tableOf at found
  -- The induction is over the arrows that are put into a table which may hold routes before.
  have among : (∃ target, { source, event, target } ∈ arrows states ∧
        index.get? target = some destination) ∨
      ((∅ : Dict String Routes).get? event).bind (·.get? source) = some destination := by
    generalize (∅ : Dict String Routes) = table at found ⊢
    generalize arrows states = known at found ⊢
    induction known generalizing table with
    | nil => exact .inr found
    | cons arrow known ih =>
      rw [List.foldl_cons] at found
      rcases ih _ found with ⟨target, member, leads⟩ | before
      · exact .inl ⟨target, List.mem_cons_of_mem _ member, leads⟩
      · cases leads : index.get? arrow.target with
        | none =>
          rw [leads] at before
          exact .inr before
        | some reached =>
          rw [leads] at before
          dsimp only at before
          rw [get?_addRoute] at before
          split at before
          · next same =>
            obtain ⟨rfl, rfl⟩ := same
            cases before
            exact .inl ⟨arrow.target, List.mem_cons_self, leads⟩
          · exact .inr before
  rcases among with known | nothing
  · exact known
  · cases nothing

/-- **An event that a state declares has a route in the table**, if it leads to a known name. -/
theorem isSome_get?_tableOf {states : List State} {index : Dict String Nat} {arrow : Arrow}
    {destination : Nat} (among : arrow ∈ arrows states)
    (leads : index.get? arrow.target = some destination) :
    (((tableOf states index).get? arrow.event).bind (·.get? arrow.source)).isSome := by
  unfold tableOf
  -- A route that is there stays, though a later arrow may change where it leads.
  replace among : arrow ∈ arrows states ∨
      (((∅ : Dict String Routes).get? arrow.event).bind (·.get? arrow.source)).isSome := .inl among
  generalize (∅ : Dict String Routes) = table at among
  generalize arrows states = known at among
  induction known generalizing table with
  | nil =>
    rcases among with member | there
    · cases member
    · exact there
  | cons other known ih =>
    rw [List.foldl_cons]
    refine ih _ ?_
    rcases among with member | there
    · rcases List.mem_cons.1 member with rfl | later
      · right
        rw [leads]
        dsimp only
        rw [get?_addRoute, if_pos ⟨rfl, rfl⟩]
        rfl
      · exact .inl later
    · right
      cases index.get? other.target with
      | none => exact there
      | some reached =>
        dsimp only
        rw [get?_addRoute]
        split
        · rfl
        · exact there

/-- An event of the table is one that a state declares. -/
theorem exists_arrow_of_get?_tableOf {states : List State} {index : Dict String Nat}
    {event : String} {routes : Routes} (found : (tableOf states index).get? event = some routes) :
    ∃ arrow ∈ arrows states, arrow.event = event := by
  unfold tableOf at found
  have among : (∃ arrow ∈ arrows states, arrow.event = event) ∨
      ((∅ : Dict String Routes).get? event).isSome := by
    replace found := Option.isSome_of_eq_some found
    generalize (∅ : Dict String Routes) = table at found ⊢
    generalize arrows states = known at found ⊢
    induction known generalizing table with
    | nil => exact .inr found
    | cons arrow known ih =>
      rw [List.foldl_cons] at found
      rcases ih _ found with ⟨other, member, same⟩ | there
      · exact .inl ⟨other, List.mem_cons_of_mem _ member, same⟩
      · cases leads : index.get? arrow.target with
        | none =>
          rw [leads] at there
          exact .inr there
        | some reached =>
          rw [leads] at there
          dsimp only [addRoute] at there
          rw [Dict.get?_insert] at there
          split at there
          · next same => exact .inl ⟨arrow, List.mem_cons_self, same⟩
          · exact .inr there
  rcases among with known | nothing
  · exact known
  · cases nothing

namespace Built

variable {chart : Chart}

/-- **An event that leads on is declared.** -/
theorem arrow_of_lookup (built : chart.Built) {event : String} {source destination : Nat}
    (leads : chart.lookup event source = some destination) :
    ∃ target, { source, event, target } ∈ arrows chart.states ∧
      chart.index.get? target = some destination := by
  refine of_get?_tableOf ?_
  rw [← built.ofStates.table]
  exact leads

/-- A route leads from one position of the chart to another. -/
theorem lt_of_lookup (built : chart.Built) {event : String} {source destination : Nat}
    (leads : chart.lookup event source = some destination) :
    source < chart.states.length ∧ destination < chart.states.length := by
  obtain ⟨target, member, found⟩ := built.arrow_of_lookup leads
  obtain ⟨state, stands, -⟩ := mem_arrows_iff.1 member
  exact ⟨(List.getElem?_eq_some_iff.1 stands).1, built.lt_of_index_get? found⟩

/-- A name of the index is that of the state at its position. -/
theorem state_of_index_get? (built : chart.Built) {name : String} {position : Nat}
    (found : chart.index.get? name = some position) :
    ∃ state, chart.states[position]? = some state ∧ state.name = name := by
  rw [built.ofStates.index] at found
  obtain ⟨entry, member, same⟩ := List.mem_map.1 (Dict.mem_of_get?_ofList found)
  cases same
  exact ⟨entry.1, List.mem_zipIdx_iff_getElem?.1 member, rfl⟩

/-- An event that a state declares leads to a state. -/
theorem index_of_declared (built : chart.Built) {state : State} (member : state ∈ chart.states)
    {event target : String} (declared : state.events.get? event = some target) :
    ∃ position, chart.index.get? target = some position := by
  have known := List.findSome?_eq_none_iff.1 built.ofStates.known state member
  have found := List.findSome?_eq_none_iff.1 known (event, target) (Entries.mem_of_get? declared)
  dsimp only at found
  split at found
  · next contained => exact Option.isSome_iff_exists.1 contained
  · cases found

/-- **What the table answers is what the states declare.** -/
theorem lookup_eq_some_iff (built : chart.Built) {event : String} {source destination : Nat} :
    chart.lookup event source = some destination ↔
      ∃ state target, chart.states[source]? = some state ∧
        state.events.get? event = some target ∧ chart.index.get? target = some destination := by
  have declares : ∀ {reached : Nat}, chart.lookup event source = some reached →
      ∃ state target, chart.states[source]? = some state ∧
        state.events.get? event = some target ∧ chart.index.get? target = some reached := by
    intro reached leads
    obtain ⟨target, member, found⟩ := built.arrow_of_lookup leads
    obtain ⟨state, stands, declared⟩ := mem_arrows_iff.1 member
    exact ⟨state, target, stands, Entries.get?_of_mem state.events.nodup_keys declared, found⟩
  refine ⟨declares, ?_⟩
  rintro ⟨state, target, stands, declared, found⟩
  have among : { source, event, target } ∈ arrows chart.states :=
    mem_arrows_iff.2 ⟨state, stands, Entries.mem_of_get? declared⟩
  have there := isSome_get?_tableOf among found
  rw [← built.ofStates.table] at there
  obtain ⟨reached, leads⟩ := Option.isSome_iff_exists.1 there
  obtain ⟨state', target', stands', declared', found'⟩ := declares leads
  cases stands.symm.trans stands'
  cases declared.symm.trans declared'
  cases found.symm.trans found'
  exact leads

/-- **An event leads where the state says that it leads.** -/
theorem destination?_eq_some_iff (built : chart.Built) {event : String}
    {source destination : Place} (stands : chart.place? source.position = some source) :
    chart.destination? event source.position = some destination ↔
      source.state.events.get? event = some destination.state.name ∧
        chart.place? destination.position = some destination := by
  constructor
  · intro leads
    obtain ⟨position, routed, there⟩ := Option.bind_eq_some_iff.1 leads
    obtain ⟨state, target, here, declared, found⟩ := built.lookup_eq_some_iff.1 routed
    cases here.symm.trans (getElem?_of_place? stands)
    obtain ⟨reached, there', named⟩ := built.state_of_index_get? found
    obtain ⟨_, there'', rfl⟩ := Option.map_eq_some_iff.1 there
    cases there'.symm.trans there''
    rw [named]
    exact ⟨declared, there⟩
  · rintro ⟨declared, there⟩
    refine Option.bind_eq_some_iff.2 ⟨destination.position, ?_, there⟩
    exact built.lookup_eq_some_iff.2 ⟨source.state, destination.state.name,
      getElem?_of_place? stands, declared, built.index_get? (getElem?_of_place? there)⟩

/-- An event leads nowhere exactly if the state does not declare it. -/
theorem destination?_eq_none_iff (built : chart.Built) {event : String} {source : Place}
    (stands : chart.place? source.position = some source) :
    chart.destination? event source.position = none ↔ source.state.events.get? event = none := by
  constructor
  · intro nowhere
    cases declared : source.state.events.get? event with
    | none => rfl
    | some target =>
      obtain ⟨position, known⟩ := built.index_of_declared (mem_of_place? stands) declared
      obtain ⟨reached, there, rfl⟩ := built.state_of_index_get? known
      have leads : chart.destination? event source.position = some ⟨position, reached⟩ :=
        (built.destination?_eq_some_iff stands).2
          ⟨declared, Option.map_eq_some_iff.2 ⟨reached, there, rfl⟩⟩
      cases nowhere.symm.trans leads
  · intro undeclared
    cases leads : chart.destination? event source.position with
    | none => rfl
    | some destination =>
      cases undeclared.symm.trans ((built.destination?_eq_some_iff stands).1 leads).1

/-- A state is found by its name. -/
theorem state?_eq_some_iff (built : chart.Built) {name : String} {state : State} :
    chart.state? name = some state ↔ state ∈ chart.states ∧ state.name = name := by
  constructor
  · intro found
    obtain ⟨place, there, rfl⟩ := Option.map_eq_some_iff.1 found
    obtain ⟨position, known, stands⟩ := Option.bind_eq_some_iff.1 there
    obtain ⟨state, here, rfl⟩ := built.state_of_index_get? known
    obtain ⟨state', here', rfl⟩ := Option.map_eq_some_iff.1 stands
    cases here.symm.trans here'
    exact ⟨List.mem_of_getElem? here, rfl⟩
  · rintro ⟨member, rfl⟩
    obtain ⟨position, stands⟩ := List.mem_iff_getElem?.1 member
    refine Option.map_eq_some_iff.2 ⟨⟨position, state⟩, ?_, rfl⟩
    refine Option.bind_eq_some_iff.2 ⟨position, built.index_get? stands, ?_⟩
    exact Option.map_eq_some_iff.2 ⟨state, stands, rfl⟩

/-- **An event leads by name to what the events of the state say.** -/
theorem map_name_transition? (built : chart.Built) (event source : String) :
    (chart.transition? event source).map State.name =
      (chart.state? source).bind fun state => state.events.get? event := by
  cases known : chart.index.get? source with
  | none =>
    unfold transition? state? placeOf?
    rw [known]
    rfl
  | some position =>
    obtain ⟨state, here, rfl⟩ := built.state_of_index_get? known
    have found : chart.state? state.name = some state :=
      built.state?_eq_some_iff.2 ⟨List.mem_of_getElem? here, rfl⟩
    let place : Place := ⟨position, state⟩
    have stands : chart.place? place.position = some place :=
      Option.map_eq_some_iff.2 ⟨state, here, rfl⟩
    rw [found, Option.bind_some, built.transition?_eq stands]
    cases declared : state.events.get? event with
    | none =>
      rw [(built.destination?_eq_none_iff stands).2 declared]
      rfl
    | some name =>
      obtain ⟨reached, known'⟩ := built.index_of_declared (List.mem_of_getElem? here) declared
      obtain ⟨target, there, rfl⟩ := built.state_of_index_get? known'
      have leads : chart.destination? event position = some ⟨reached, target⟩ :=
        (built.destination?_eq_some_iff stands).2
          ⟨declared, Option.map_eq_some_iff.2 ⟨target, there, rfl⟩⟩
      rw [leads]
      rfl

/-- **The events of the table are those that some state declares.** -/
theorem isRegistered_iff (built : chart.Built) {event : String} :
    chart.isRegistered event = true ↔
      ∃ state ∈ chart.states, state.events.get? event ≠ none := by
  unfold isRegistered Dict.contains
  rw [Option.isSome_iff_exists, built.ofStates.table]
  constructor
  · rintro ⟨routes, found⟩
    obtain ⟨arrow, among, rfl⟩ := exists_arrow_of_get?_tableOf found
    obtain ⟨state, stands, declared⟩ := mem_arrows_iff.1 among
    refine ⟨state, List.mem_of_getElem? stands, Option.ne_none_iff_exists'.2 ⟨arrow.target, ?_⟩⟩
    exact Entries.get?_of_mem state.events.nodup_keys declared
  · rintro ⟨state, member, declared⟩
    obtain ⟨target, declared⟩ := Option.ne_none_iff_exists'.1 declared
    obtain ⟨source, stands⟩ := List.mem_iff_getElem?.1 member
    obtain ⟨position, known⟩ := built.index_of_declared member declared
    have among : { source, event, target } ∈ arrows chart.states :=
      mem_arrows_iff.2 ⟨state, stands, Entries.mem_of_get? declared⟩
    obtain ⟨_, there⟩ := Option.isSome_iff_exists.1 (isSome_get?_tableOf among known)
    obtain ⟨routes, found, -⟩ := Option.bind_eq_some_iff.1 there
    exact ⟨routes, found⟩

end Built

end Chart

end Statechart
