/-
**Which states make a chart.**

States make a chart if each has a name, no two have the same, one of them is initial, and every
event leads to one of them. If one of these conditions fails, the first that does is told, with what
comes first among the offenders. In which order the states are given is no matter for that.

* `Chart.Coherent`: the states make a chart.
* `Chart.Rejects`: what is told of states that do not.
* `Chart.exists_ofStates?_iff`: a chart is built exactly of coherent states.
* `Chart.ofStates?_eq_error_iff`: of all other states it is told what is wrong.
* `Chart.Rejects.perm`: the same is told of the states in any order.
-/

import Statechart.Proofs.Dump.Acceptance

namespace Statechart

namespace Chart

/-! ### Conditions -/

/-- **States that make a chart.** -/
structure Coherent (declared : List State) : Prop where
  named : ∀ state ∈ declared, state.name ≠ ""
  distinct : (declared.map State.name).Nodup
  initial : declared.countP State.isInitial = 1
  known : ∀ state ∈ declared, ∀ event target, state.events.get? event = some target →
    target ∈ declared.map State.name

theorem coherent_iff {declared : List State} : Coherent declared ↔
    (∀ state ∈ declared, state.name ≠ "") ∧ (declared.map State.name).Nodup ∧
      declared.countP State.isInitial = 1 ∧
      ∀ state ∈ declared, ∀ target ∈ state.events.values, target ∈ declared.map State.name := by
  constructor
  · rintro ⟨named, distinct, initial, known⟩
    refine ⟨named, distinct, initial, fun state member target among => ?_⟩
    obtain ⟨⟨event, target⟩, entry, rfl⟩ := List.mem_map.1 among
    exact known state member event target (Entries.get?_of_mem state.events.nodup_keys entry)
  · rintro ⟨named, distinct, initial, known⟩
    refine ⟨named, distinct, initial, fun state member event target leads => ?_⟩
    exact known state member target (Dict.mem_values_of_get? leads)

instance {declared : List State} : Decidable (Coherent declared) :=
  decidable_of_iff' _ coherent_iff

/-- A name that occurs more than once. -/
def IsRepeated (names : List String) (name : String) : Prop := 2 ≤ names.count name

/-- An event of a state that leads to no state. -/
def Strays (declared : List State) (name event target : String) : Prop :=
  ∃ state ∈ declared, state.name = name ∧ state.events.get? event = some target ∧
    target ∉ declared.map State.name

/-- **What is told of states that make no chart**, given what is told of a state without a name. A
fault is told if no fault before it can be. -/
inductive Rejects (unnamed : Malformation) (declared : List State) : ChartFault → Prop
  | unnamed {state : State} (member : state ∈ declared) (empty : state.name = "") :
      Rejects unnamed declared (.malformed unnamed)
  /-- The least of the names that are repeated is told. -/
  | repeated {name : String} (named : ∀ state ∈ declared, state.name ≠ "")
      (twice : IsRepeated (declared.map State.name) name)
      (least : ∀ other, IsRepeated (declared.map State.name) other → name ≤ other) :
      Rejects unnamed declared (.malformed (.duplicateState name))
  | noInitial (named : ∀ state ∈ declared, state.name ≠ "")
      (distinct : (declared.map State.name).Nodup)
      (nowhere : declared.countP State.isInitial = 0) : Rejects unnamed declared .noInitialState
  /-- The names of all initial states are told in ascending order. -/
  | ambiguous {names : List String} (named : ∀ state ∈ declared, state.name ≠ "")
      (distinct : (declared.map State.name).Nodup)
      (several : 2 ≤ declared.countP State.isInitial) (ascending : names.Pairwise (· < ·))
      (all : ∀ name, name ∈ names ↔
        ∃ state ∈ declared, state.isInitial = true ∧ state.name = name) :
      Rejects unnamed declared (.ambiguousInitialState names)
  /-- The least state that has an event to nowhere is told, and the least such event. -/
  | unknown {name event target : String} (named : ∀ state ∈ declared, state.name ≠ "")
      (distinct : (declared.map State.name).Nodup)
      (initial : declared.countP State.isInitial = 1) (strays : Strays declared name event target)
      (least : ∀ name' event' target', Strays declared name' event' target' →
        name < name' ∨ name = name' ∧ event ≤ event') :
      Rejects unnamed declared (.unknownTarget name event target)

/-! ### One fault -/

section Faults

variable {unnamed : Malformation} {declared declared' : List State} {fault fault' : ChartFault}

/-- In states with different names an event of a name leads to one target. -/
theorem Strays.unique {name event target target' : String}
    (distinct : (declared.map State.name).Nodup) (strays : Strays declared name event target)
    (strays' : Strays declared name event target') : target = target' := by
  obtain ⟨state, member, same, leads, -⟩ := strays
  obtain ⟨state', member', same', leads', -⟩ := strays'
  cases List.inj_on_of_nodup_map distinct member member' (same.trans same'.symm)
  exact Option.some.inj (leads.symm.trans leads')

theorem not_nodup_of_isRepeated {names : List String} {name : String}
    (repeated : IsRepeated names name) : ¬ names.Nodup := by
  intro distinct
  have once := List.nodup_iff_count_le_one.1 distinct name
  unfold IsRepeated at repeated
  omega

/-- Nothing is told of coherent states. -/
theorem Coherent.not_rejects (coherent : Coherent declared) :
    ¬ Rejects unnamed declared fault := by
  intro rejects
  have count := coherent.initial
  cases rejects with
  | unnamed member empty => exact coherent.named _ member empty
  | repeated _ twice _ => exact not_nodup_of_isRepeated twice coherent.distinct
  | noInitial _ _ nowhere => omega
  | ambiguous _ _ several _ _ => omega
  | unknown _ _ _ strays _ =>
    obtain ⟨state, member, -, leads, astray⟩ := strays
    exact astray (coherent.known state member _ _ leads)

/-- Ascending names are determined by which they are. -/
theorem eq_of_ascending {names names' : List String} (ascending : names.Pairwise (· < ·))
    (ascending' : names'.Pairwise (· < ·)) (same : ∀ name, name ∈ names ↔ name ∈ names') :
    names = names' := by
  have perm : names.Perm names' := (List.perm_ext_iff_of_nodup (nodup_of_ascending ascending)
    (nodup_of_ascending ascending')).2 same
  refine perm.eq_of_pairwise (fun first second _ _ below above => ?_) ascending ascending'
  exact absurd (StrictOrder.trans below above) (StrictOrder.irrefl first)

/-- Of named states the same is told, whatever is told of others. -/
theorem Rejects.of_named {unnamed' : Malformation} (named : ∀ state ∈ declared, state.name ≠ "")
    (rejects : Rejects unnamed declared fault) : Rejects unnamed' declared fault := by
  cases rejects with
  | unnamed member empty => exact absurd empty (named _ member)
  | repeated _ twice least => exact .repeated named twice least
  | noInitial _ distinct nowhere => exact .noInitial named distinct nowhere
  | ambiguous _ distinct several ascending all =>
    exact .ambiguous named distinct several ascending all
  | unknown _ distinct initial strays least => exact .unknown named distinct initial strays least

/-- **One fault is told of states.** -/
theorem Rejects.unique (rejects : Rejects unnamed declared fault)
    (rejects' : Rejects unnamed declared fault') : fault = fault' := by
  cases rejects with
  | unnamed member empty =>
    cases rejects' with
    | unnamed => rfl
    | repeated named | noInitial named | ambiguous named | unknown named =>
      exact absurd empty (named _ member)
  | repeated named twice least =>
    cases rejects' with
    | unnamed member empty => exact absurd empty (named _ member)
    | repeated _ twice' least' => rw [String.le_antisymm (least _ twice') (least' _ twice)]
    | noInitial _ distinct | ambiguous _ distinct | unknown _ distinct =>
      exact absurd distinct (not_nodup_of_isRepeated twice)
  | noInitial named distinct nowhere =>
    cases rejects' with
    | unnamed member empty => exact absurd empty (named _ member)
    | repeated _ twice _ => exact absurd distinct (not_nodup_of_isRepeated twice)
    | noInitial => rfl
    | ambiguous _ _ several _ _ => omega
    | unknown _ _ initial _ _ => omega
  | ambiguous named distinct several ascending all =>
    cases rejects' with
    | unnamed member empty => exact absurd empty (named _ member)
    | repeated _ twice _ => exact absurd distinct (not_nodup_of_isRepeated twice)
    | noInitial _ _ nowhere => omega
    | ambiguous _ _ _ ascending' all' =>
      rw [eq_of_ascending ascending ascending' fun name => (all name).trans (all' name).symm]
    | unknown _ _ initial _ _ => omega
  | unknown named distinct initial strays least =>
    cases rejects' with
    | unnamed member empty => exact absurd empty (named _ member)
    | repeated _ twice _ => exact absurd distinct (not_nodup_of_isRepeated twice)
    | noInitial _ _ nowhere => omega
    | ambiguous _ _ several _ _ => omega
    | unknown _ _ _ strays' least' =>
      -- Of two offenders that are least each is not behind the other, so they are one.
      rcases least _ _ _ strays' with below | ⟨rfl, below⟩
      · rcases least' _ _ _ strays with above | ⟨rfl, _⟩
        · exact absurd (StrictOrder.trans below above) (StrictOrder.irrefl _)
        · exact absurd below (StrictOrder.irrefl _)
      · rcases least' _ _ _ strays with above | ⟨_, above⟩
        · exact absurd above (StrictOrder.irrefl _)
        · cases String.le_antisymm below above
          rw [strays.unique distinct strays']

/-- **The same is told of the states in any order.** -/
theorem Rejects.perm (rejects : Rejects unnamed declared fault) (perm : declared.Perm declared') :
    Rejects unnamed declared' fault := by
  have names : (declared.map State.name).Perm (declared'.map State.name) := perm.map _
  have everywhere : ∀ {holds : State → Prop}, (∀ state ∈ declared, holds state) →
      ∀ state ∈ declared', holds state :=
    fun all state member => all state (perm.mem_iff.2 member)
  have repeated_iff : ∀ name, IsRepeated (declared'.map State.name) name ↔
      IsRepeated (declared.map State.name) name := by
    intro name
    unfold IsRepeated
    rw [names.count_eq]
  have strays_iff : ∀ name event target, Strays declared' name event target ↔
      Strays declared name event target := by
    intro name event target
    unfold Strays
    simp only [perm.mem_iff, names.mem_iff]
  cases rejects with
  | unnamed member empty => exact .unnamed (perm.mem_iff.1 member) empty
  | repeated named twice least =>
    exact .repeated (everywhere named) ((repeated_iff _).2 twice) fun other twice =>
      least other ((repeated_iff other).1 twice)
  | noInitial named distinct nowhere =>
    exact .noInitial (everywhere named) (names.nodup distinct) (perm.countP_eq _ ▸ nowhere)
  | ambiguous named distinct several ascending all =>
    refine .ambiguous (everywhere named) (names.nodup distinct) (perm.countP_eq _ ▸ several)
      ascending fun name => ?_
    simp only [all, perm.mem_iff]
  | unknown named distinct initial strays least =>
    exact .unknown (everywhere named) (names.nodup distinct) (perm.countP_eq _ ▸ initial)
      ((strays_iff _ _ _).2 strays) fun name event target strays =>
        least name event target ((strays_iff _ _ _).1 strays)

end Faults

/-! ### What building looks for -/

section Search

variable {states : List State} {names : List String} {fault : ChartFault}

/-- **The first of ordered names that occurs again is the least that is repeated.** -/
theorem of_firstRepeated? (ordered : names.Pairwise (· ≤ ·)) {name : String}
    (found : firstRepeated? names = some name) :
    IsRepeated names name ∧ ∀ other, IsRepeated names other → name ≤ other := by
  unfold IsRepeated
  fun_induction firstRepeated? names with
  | case1 first rest =>
    cases found
    refine ⟨by simp, fun other repeated => ?_⟩
    have among : other ∈ name :: name :: rest := List.count_pos_iff.1 (by omega)
    rcases List.mem_cons.1 among with rfl | later
    · exact String.le_refl other
    · exact (List.pairwise_cons.1 ordered).1 other later
  | case2 first second rest differ ih =>
    obtain ⟨below, later⟩ := List.pairwise_cons.1 ordered
    obtain ⟨twice, least⟩ := ih later found
    have more : (second :: rest).count name ≤ (first :: second :: rest).count name :=
      List.count_le_count_cons
    refine ⟨by omega, fun other repeated => least other ?_⟩
    -- The first name does not come again, as all that comes is behind the second one.
    have other_ne : first ≠ other := by
      rintro rfl
      rw [List.count_cons_self] at repeated
      have among : first ∈ second :: rest := List.count_pos_iff.1 (by omega)
      have above : second ≤ first := by
        rcases List.mem_cons.1 among with rfl | member
        · exact String.le_refl first
        · exact (List.pairwise_cons.1 later).1 first member
      exact differ (String.le_antisymm (below second List.mem_cons_self) above)
    rwa [List.count_cons_of_ne other_ne] at repeated
  | case3 names few => cases found

/-- As many positions have a property as states do. -/
theorem length_positionsOf (property : State → Bool) (states : List State) :
    (positionsOf property states).length = states.countP property := by
  unfold positionsOf
  rw [← List.countP_eq_length_filter]
  induction states with
  | nil => rfl
  | cons state states ih =>
    rw [List.length_cons, List.range_succ_eq_map, List.countP_cons, List.countP_map,
      List.countP_cons]
    exact congrArg (· + _) ih

/-- The index of states with different names has exactly their names. -/
theorem contains_indexOf (distinct : (states.map State.name).Nodup) (name : String) :
    (indexOf states).contains name = true ↔ name ∈ states.map State.name := by
  have keys := map_fst_positions states
  unfold Dict.contains indexOf
  rw [← keys] at distinct ⊢
  rw [Option.isSome_iff_exists]
  constructor
  · rintro ⟨position, found⟩
    exact List.mem_map_of_mem (Dict.mem_of_get?_ofList found)
  · intro member
    obtain ⟨entry, among, rfl⟩ := List.mem_map.1 member
    exact ⟨entry.2, Dict.get?_ofList_of_mem distinct among⟩

/-- The first event of a state that leads to no state. -/
def strayOf? (index : Dict String Nat) (state : State) : Option ChartFault :=
  state.events.entries.findSome? fun (event, target) =>
    if index.contains target then none else some (.unknownTarget state.name event target)

theorem strayOf?_eq_none_iff {index : Dict String Nat} {state : State} :
    strayOf? index state = none ↔
      ∀ event target, state.events.get? event = some target → index.contains target = true := by
  unfold strayOf?
  rw [List.findSome?_eq_none_iff]
  constructor
  · intro all event target leads
    have here := all (event, target) (Entries.mem_of_get? leads)
    dsimp only at here
    split at here
    · assumption
    · cases here
  · rintro known ⟨event, target⟩ member
    exact if_pos (known event target (Entries.get?_of_mem state.events.nodup_keys member))

/-- The stray event that is found in a state is the least. -/
theorem of_strayOf? {index : Dict String Nat} {state : State}
    (found : strayOf? index state = some fault) :
    ∃ event target, fault = .unknownTarget state.name event target ∧
      state.events.get? event = some target ∧ index.contains target = false ∧
      ∀ event' target', state.events.get? event' = some target' →
        index.contains target' = false → event ≤ event' := by
  unfold strayOf? at found
  obtain ⟨before, ⟨event, target⟩, after, whole, told, quiet⟩ := List.findSome?_eq_some_iff.1 found
  dsimp only at told
  split at told
  · cases told
  · next unknown =>
    cases told
    have member : (event, target) ∈ state.events.entries := by
      rw [whole]
      exact List.mem_append_right _ List.mem_cons_self
    refine ⟨event, target, rfl, Entries.get?_of_mem state.events.nodup_keys member,
      Bool.eq_false_iff.2 unknown, fun event' target' leads astray => ?_⟩
    have ascending := state.events.ascending
    have among := Entries.mem_of_get? leads
    unfold Ascending at ascending
    rw [whole] at ascending among
    rcases List.mem_append.1 among with earlier | later
    · have told := quiet _ earlier
      dsimp only at told
      rw [astray, if_neg Bool.false_ne_true] at told
      cases told
    · rcases List.mem_cons.1 later with same | behind
      · cases same
        exact String.le_refl event
      · have less := (List.pairwise_cons.1 (List.pairwise_append.1 ascending).2.1).1 _ behind
        exact String.not_lt.1 fun above => StrictOrder.irrefl _ (StrictOrder.trans less above)

/-- **The stray event that is found in states with ascending names is the least.** -/
theorem of_unknownTarget? (ascending : (states.map State.name).Pairwise (· < ·))
    (found : unknownTarget? states (indexOf states) = some fault) :
    ∃ name event target, fault = .unknownTarget name event target ∧
      Strays states name event target ∧
      ∀ name' event' target', Strays states name' event' target' →
        name < name' ∨ name = name' ∧ event ≤ event' := by
  have distinct : (states.map State.name).Nodup := nodup_of_ascending ascending
  have unknown_iff : ∀ target, (indexOf states).contains target = false ↔
      target ∉ states.map State.name := by
    intro target
    rw [← contains_indexOf distinct, Bool.not_eq_true]
  obtain ⟨before, state, after, whole, told, quiet⟩ := List.findSome?_eq_some_iff.1
    (show states.findSome? (strayOf? (indexOf states)) = some fault from found)
  obtain ⟨event, target, rfl, leads, unknown, least⟩ := of_strayOf? told
  have member : state ∈ states := by
    rw [whole]
    exact List.mem_append_right _ List.mem_cons_self
  have astray := (unknown_iff target).1 unknown
  refine ⟨state.name, event, target, rfl, ⟨state, member, rfl, leads, astray⟩, ?_⟩
  rintro _ event' target' ⟨state', member', rfl, leads', astray⟩
  have unknown' := (unknown_iff target').2 astray
  rw [List.pairwise_map, whole] at ascending
  rw [whole] at member'
  rcases List.mem_append.1 member' with earlier | later
  · have known := strayOf?_eq_none_iff.1 (quiet _ earlier) event' target' leads'
    cases known.symm.trans unknown'
  · rcases List.mem_cons.1 later with rfl | behind
    · exact .inr ⟨rfl, least event' target' leads' unknown'⟩
    · exact .inl ((List.pairwise_cons.1 (List.pairwise_append.1 ascending).2.1).1 _ behind)

/-- Where no stray event is found every event leads to a state. -/
theorem known_of_unknownTarget? (distinct : (states.map State.name).Nodup)
    (nothing : unknownTarget? states (indexOf states) = none) :
    ∀ state ∈ states, ∀ event target, state.events.get? event = some target →
      target ∈ states.map State.name := by
  intro state member event target leads
  rw [← contains_indexOf distinct]
  have quiet := List.findSome?_eq_none_iff.1 nothing state member
  exact strayOf?_eq_none_iff.1 quiet event target leads

end Search

/-! ### What building tells -/

section Building

variable {declared : List State} {fault : ChartFault}

theorem names_sorted (declared : List State) :
    ((sorted declared).map State.name).Pairwise (· ≤ ·) := by
  rw [List.pairwise_map]
  exact (List.pairwise_mergeSort atMost_trans atMost_total declared).imp fun below =>
    of_decide_eq_true below

theorem Coherent.perm {declared' : List State} (coherent : Coherent declared)
    (perm : declared.Perm declared') : Coherent declared' := by
  have names : (declared.map State.name).Perm (declared'.map State.name) := perm.map _
  refine ⟨fun state member => coherent.named state (perm.mem_iff.2 member),
    names.nodup coherent.distinct, perm.countP_eq _ ▸ coherent.initial, ?_⟩
  intro state member event target leads
  exact names.mem_iff.1 (coherent.known state (perm.mem_iff.2 member) event target leads)

/-- A chart is built of coherent states only. -/
theorem coherent_of_ofStates? {chart : Chart} (built : ofStates? declared = .ok chart) :
    Coherent declared := by
  obtain ⟨whole, perm⟩ := ofStates?_eq_ok_iff_perm.1 built
  have facts := whole.ofStates
  have one := congrArg List.length facts.initial
  rw [length_positionsOf] at one
  refine Coherent.perm ⟨facts.named, whole.nodup, one, ?_⟩ perm.symm
  exact known_of_unknownTarget? whole.nodup (facts.index ▸ facts.known)

/-- **Where no chart is built it is told what is wrong.** -/
theorem rejects_of_ofStates? (failed : ofStates? declared = .error fault) :
    Rejects .emptyIdentifier declared fault := by
  have ordered := names_sorted declared
  have count := length_positionsOf State.isInitial (sorted declared)
  suffices told : Rejects .emptyIdentifier (sorted declared) fault from
    told.perm (List.mergeSort_perm ..)
  unfold ofStates? at failed
  dsimp only at failed
  split at failed
  · next empty =>
    cases failed
    obtain ⟨state, member, empty⟩ := List.any_eq_true.1 empty
    exact .unnamed member (String.isEmpty_iff.1 empty)
  next occupied =>
  have named : ∀ state ∈ sorted declared, state.name ≠ "" := fun state member empty =>
    occupied (List.any_eq_true.2 ⟨state, member, String.isEmpty_iff.2 empty⟩)
  split at failed
  · next name found =>
    cases failed
    obtain ⟨twice, least⟩ := of_firstRepeated? ordered found
    exact .repeated named twice least
  next unrepeated =>
  have ascending := ascending_of_firstRepeated? unrepeated ordered
  have distinct := nodup_of_ascending ascending
  split at failed
  · next nowhere =>
    cases failed
    rw [nowhere] at count
    exact .noInitial named distinct count.symm
  · next first second rest several =>
    cases failed
    rw [several] at count
    refine .ambiguous named distinct ?_ ?_ fun name => ?_
    · rw [← count, List.length_cons, List.length_cons]
      omega
    · exact ascending.sublist (List.filter_sublist.map _)
    · simp only [List.mem_map, List.mem_filter, and_assoc]
  · next initial only =>
    rw [only] at count
    split at failed
    · next stray found =>
      cases failed
      obtain ⟨name, event, target, rfl, strays, least⟩ := of_unknownTarget? ascending found
      exact .unknown named distinct count.symm strays least
    · cases failed

/-- **A chart is built exactly of coherent states.** -/
theorem exists_ofStates?_iff : (∃ chart, ofStates? declared = .ok chart) ↔ Coherent declared := by
  constructor
  · rintro ⟨chart, built⟩
    exact coherent_of_ofStates? built
  · intro coherent
    cases answer : ofStates? declared with
    | ok chart => exact ⟨chart, rfl⟩
    | error fault => exact absurd (rejects_of_ofStates? answer) coherent.not_rejects

/-- **Of all other states it is told what is wrong.** -/
theorem ofStates?_eq_error_iff :
    ofStates? declared = .error fault ↔ Rejects .emptyIdentifier declared fault := by
  refine ⟨rejects_of_ofStates?, fun rejects => ?_⟩
  cases answer : ofStates? declared with
  | ok chart => exact absurd rejects (coherent_of_ofStates? answer).not_rejects
  | error other => rw [(rejects_of_ofStates? answer).unique rejects]

end Building

end Chart

end Statechart
