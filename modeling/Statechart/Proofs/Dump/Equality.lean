/-
**Equal machines.**

Machines are compared by the identifiers and states of their charts, by what follows from these only
in part, and by where they are. What is not compared, the index and the table of a chart, follows
from its states, and so do all names in a dump. So machines that come about and have whole numbers
are equal exactly if they are the same, and exactly if their dumps are.

* `Dump.toValue_injective`: a dump is told by its value.
* `Machine.Placed.eq_of_text_eq`: a machine is told by its data text.
* `Machine.Arises.beq_iff`: when machines are equal, and what equal machines do.
-/

import Statechart.Proofs.Dump.Lossless
import Statechart.Proofs.Json.Printed
import Statechart.Proofs.Runner.Representation
import Statechart.Proofs.Runner.Resuming

namespace Statechart

open Json Text

/-! ### Values of dumps -/

theorem Json.Value.optionalString_injective : Function.Injective Value.optionalString := by
  intro first second same
  cases first <;> cases second <;> simp_all [Value.optionalString]

theorem Json.Value.string_injective : Function.Injective Value.string :=
  fun _ _ => Value.string.inj

theorem Json.Value.ofDict_injective : Function.Injective Value.ofDict :=
  fun _ _ same => Dict.ext (Value.record.inj same)

theorem State.toValue_injective : Function.Injective State.toValue := by
  intro first second same
  refine Option.some.inj ?_
  rw [← State.ofTree?_tree first, same, State.ofTree?_tree]

theorem Status.name_injective : Function.Injective Status.name := by
  intro first second same
  cases first <;> cases second <;> first | rfl | exact absurd same (by decide)

theorem HistoryRecord.toValue_injective : Function.Injective HistoryRecord.toValue := by
  intro first second same
  cases first
  cases second
  simpa [toValue, Value.integer, Value.optionalString_injective.eq_iff,
    Status.name_injective.eq_iff] using same

theorem Dump.tripleValue_injective : Function.Injective Dump.tripleValue := by
  intro first second same
  refine Option.some.inj ?_
  rw [← Dump.triple?_tree first, same, Dump.triple?_tree]

/-- **A dump is told by its value.** -/
theorem Dump.toValue_injective : Function.Injective Dump.toValue := by
  intro first second same
  have fields : first.fields = second.fields := Value.record.inj same
  cases first
  cases second
  simpa [Dump.fields, Value.optionalString_injective.eq_iff, Value.ofDict_injective.eq_iff,
    Value.string_injective.list_map.eq_iff, State.toValue_injective.list_map.eq_iff,
    Dump.tripleValue_injective.list_map.eq_iff,
    HistoryRecord.toValue_injective.list_map.eq_iff] using fields

/-! ### Whole numbers -/

/-- All numbers among data are whole. -/
def Datamodel.Whole (datamodel : Datamodel) : Prop := ∀ value ∈ datamodel.values, value.Whole

theorem Datamodel.Whole.ofDict {datamodel : Datamodel} (whole : datamodel.Whole) :
    (Value.ofDict datamodel).Whole :=
  .record fun _ member => whole _ (List.mem_map_of_mem member)

theorem State.whole_toValue (state : State) : state.toValue.Whole := by
  have events : (eventsValue state.events).Whole := by
    refine .record fun field member => ?_
    obtain ⟨entry, -, rfl⟩ := List.mem_map.1 member
    exact .string entry.2
  have hooks : ∀ field ∈ state.hooks.fields, field.2.Whole := by
    intro field member
    rw [Hooks.fields_eq] at member
    obtain ⟨kind, -, among⟩ := List.mem_flatMap.1 member
    unfold Hooks.fieldOf at among
    split at among
    · cases among
    · rw [List.mem_singleton.1 among]
      exact .string _
  refine .record fun field member => ?_
  simp only [List.mem_append, List.mem_cons, List.not_mem_nil, or_false] at member
  rcases member with ((rfl | rfl) | hook) | rfl | rfl
  · exact .string state.name
  · exact events
  · exact hooks field hook
  · exact .bool state.isInitial
  · exact .bool state.isFinal

theorem HistoryRecord.whole_toValue (record : HistoryRecord) : record.toValue.Whole := by
  refine .record fun field member => ?_
  simp only [List.mem_cons, List.not_mem_nil, or_false] at member
  rcases member with rfl | rfl | rfl | rfl | rfl
  · exact .integer record.timestamp
  · exact Value.whole_optionalString record.event
  · exact Value.whole_optionalString record.source
  · exact .string record.state
  · exact .string record.status.name

theorem Dump.whole_tripleValue (triple : Chart.Triple) : (tripleValue triple).Whole := by
  refine .list (List.forall_mem_cons.2 ⟨.string triple.event, List.forall_mem_singleton.2 ?_⟩)
  refine .list (List.forall_mem_cons.2 ⟨.string triple.source, List.forall_mem_singleton.2 ?_⟩)
  exact .string triple.target

/-- Values of several things are whole if that of each is. -/
theorem Json.Value.whole_map {α : Type} {toValue : α → Value}
    (each : ∀ item, (toValue item).Whole) (items : List α) :
    (Value.list (items.map toValue)).Whole := by
  refine .list fun value member => ?_
  obtain ⟨item, -, rfl⟩ := List.mem_map.1 member
  exact each item

/-- In the value of a dump all numbers are whole if those among its data are. -/
theorem Dump.whole_toValue {dump : Dump} (whole : dump.datamodel.Whole) : dump.toValue.Whole := by
  have each : ∀ field ∈ dump.fields, field.2.Whole := by
    intro field member
    simp only [fields, List.mem_cons, List.not_mem_nil, or_false] at member
    rcases member with rfl | rfl | rfl | rfl | rfl | rfl | rfl | rfl | rfl
    · exact .string dump.chartId
    · exact .string dump.name
    · exact Value.whole_optionalString dump.current
    · exact .string dump.initial
    · exact Value.whole_map .string dump.finals
    · exact Value.whole_map State.whole_toValue dump.states
    · exact Value.whole_map whole_tripleValue dump.transitions
    · exact Value.whole_map HistoryRecord.whole_toValue dump.history
    · exact whole.ofDict
  exact .record each

/-! ### Machines -/

namespace Machine

variable {first second : Machine}

/-- **A machine is told by its dump.** -/
theorem Placed.eq_of_ofMachine_eq (placed : first.Placed) (placed' : second.Placed)
    (same : Dump.ofMachine first = Dump.ofMachine second) : first = second := by
  have given := placed.toMachine?_ofMachine first.datamodel
  have given' := placed'.toMachine?_ofMachine second.datamodel
  change (Dump.ofMachine first).toMachine? = .ok first at given
  change (Dump.ofMachine second).toMachine? = .ok second at given'
  rw [← same] at given'
  exact Except.ok.inj (given.symm.trans given')

/-- **A machine with whole numbers is told by its data text.** -/
theorem Placed.eq_of_text_eq (placed : first.Placed) (placed' : second.Placed)
    (whole : first.datamodel.Whole) (whole' : second.datamodel.Whole)
    (same : first.text = second.text) : first = second := by
  refine placed.eq_of_ofMachine_eq placed' (Dump.toValue_injective ?_)
  exact (Dump.whole_toValue whole).eq_of_render_eq (Dump.whole_toValue whole') same

/-- The bytes of a dump tell its data text in either form. -/
theorem text_eq_of_encode_eq {format : DumpFormat}
    (same : first.encode format = second.encode format) : first.text = second.text := by
  cases format with
  | json => exact utf8_injective same
  | binary =>
    have payloads := congrArg (List.drop frameHeaderSize) same
    change (Frame.encode _).drop _ = (Frame.encode _).drop _ at payloads
    rw [Frame.drop_encode, Frame.drop_encode] at payloads
    exact utf8_injective payloads

/-- What is not compared of a chart follows from its states. -/
theorem Placed.chart_eq (placed : first.Placed) (placed' : second.Placed)
    (same : first.chart.states = second.chart.states) : first.chart = second.chart := by
  have built : Chart.ofStates? first.chart.states = .ok first.chart := placed.built
  have built' : Chart.ofStates? second.chart.states = .ok second.chart := placed'.built
  rw [← same] at built'
  exact Except.ok.inj (built.symm.trans built')

/-- **Machines with whole numbers are equal exactly if they are the same.** -/
theorem Placed.equal_iff (placed : first.Placed) (placed' : second.Placed)
    (whole : first.datamodel.Whole) : first.equal second = true ↔ first = second := by
  have data : Value.equalFields first.datamodel.entries second.datamodel.entries = true ↔
      first.datamodel = second.datamodel := by
    rw [Value.equalFields_iff fun field member _ =>
      (whole field.2 (List.mem_map_of_mem member)).equal_iff]
    exact ⟨Dict.ext, congrArg Dict.entries⟩
  unfold equal
  simp only [Bool.and_eq_true, decide_eq_true_eq, data]
  constructor
  · rintro ⟨⟨⟨⟨⟨⟨⟨-, name⟩, states⟩, -⟩, -⟩, current⟩, history⟩, datamodel⟩
    have chart := placed.chart_eq placed' states
    cases first
    cases second
    simp_all
  · rintro rfl
    simp

/-- **Equality of machines is equality of their dumps.** Of machines that come about, be they built,
decoded, given other data or moved by runners, and whose numbers are whole, two are equal exactly if
they have the same dump in either form. Then they have the same index and table, though these are
not compared: lookups and all calls of runners that hold the one or the other and are alike else
give the same answers, and leave the same. -/
theorem Arises.beq_iff (arises : first.Arises) (arises' : second.Arises)
    (whole : first.datamodel.Whole) (whole' : second.datamodel.Whole) :
    (∀ format, (first == second) = true ↔ first.encode format = second.encode format) ∧
      ((first == second) = true →
        first.chart.index = second.chart.index ∧ first.chart.table = second.chart.table ∧
        (∀ event source, first.chart.transition? event source =
          second.chart.transition? event source) ∧
        (∀ event, first.chart.isRegistered event = second.chart.isRegistered event) ∧
        first.chart.events = second.chart.events ∧
        ∀ {σ : Type} [Clocked σ] (runner : Runner σ) (calls : List (Call × Value)) (world : σ),
          ({ runner with machine := some first } : Runner σ).makeAll calls world =
            ({ runner with machine := some second } : Runner σ).makeAll calls world) := by
  have same_iff : (first == second) = true ↔ first = second :=
    arises.placed.equal_iff arises'.placed whole
  constructor
  · intro format
    rw [same_iff]
    constructor
    · rintro rfl
      rfl
    · exact fun same => arises.placed.eq_of_text_eq arises'.placed whole whole'
        (text_eq_of_encode_eq same)
  · intro same
    obtain rfl := same_iff.1 same
    simp

/-- The door that was pushed open is not equal to the door that is shut, and so its dump differs. -/
theorem Arises.beq_iff_door :
    let opened := (Operation.call (.send "push") .null).perform Runner.shutting 1
    ∃ now, opened.1.machine = some now ∧ (shutDoor == now) = false ∧
      shutDoor.encode .binary ≠ now.encode .binary := by
  intro opened
  obtain ⟨now, kept, found⟩ := Option.map_eq_some_iff.1
    (show opened.1.machine.map (fun now => (shutDoor == now, now.datamodel.values.length)) =
      some (false, 0) by decide +kernel)
  obtain ⟨differ, bare⟩ := Prod.mk.inj found
  have brings : (Operation.call (.send "push") .null : Operation Nat).Brings := trivial
  have arises : now.Arises := (Runner.reached_shutting.operated brings 1).arises kept
  have whole : now.datamodel.Whole := by
    unfold Datamodel.Whole
    rw [List.length_eq_zero_iff.1 bare]
    simp
  have shut : shutDoor.datamodel.Whole := fun value member => absurd member List.not_mem_nil
  have told := beq_iff (Obtained.built build_door).arises arises shut whole
  refine ⟨now, kept, differ, fun same => ?_⟩
  rw [(told.1 .binary).2 same] at differ
  cases differ

end Machine

end Statechart
