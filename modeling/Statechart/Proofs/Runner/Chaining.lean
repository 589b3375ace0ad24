/-
**How far a chain goes and which error ends it.**

One call makes at most one transition more than there may be triggers in a chain, and with cycle
detection at most one more than there are declared events. The errors of the chain say exactly what
ended it: whether the event of a trigger leads anywhere is checked first, then the length of the
chain, then the repetition. A callable may fail with any of these errors too, and then it is the
callable that ended the chain.

* `sendings`: the state and the event of every record of a trigger.
* `Chained`: what the length of a chain and its errors come to.
* `Runner.make_chained`: every call of a loaded runner is chained in this way.
-/

import Statechart.Proofs.Chart.Table
import Statechart.Proofs.Protocol.Call
import Statechart.Proofs.Protocol.Chain
import Statechart.Proofs.Runner.Operation
import Mathlib.Data.List.Perm.Subperm

namespace Statechart

open Json

variable {σ : Type}

/-! ### What is said of a chain -/

/-- The state and the event of every record of a trigger, in order. -/
def sendings (records : List HistoryRecord) : List (Option String × Option String) :=
  (records.filter fun record => record.status = .trigger).map fun record =>
    (record.source, record.event)

/-- A transition on an event leads where the chart says. -/
def Move.Leads (chart : Chart) (move : Move) : Prop :=
  ∀ event ∈ move.event, ∃ source ∈ move.source,
    chart.destination? event source.position = some move.destination

/-- A deed fails with an error of its own. -/
def FailsWith (deeds : List (Deed σ)) (error : Error) : Prop :=
  ∃ deed ∈ deeds, deed.reply = .error error

/-- The event that a deed asks for can be sent from the place that was reached. -/
def Deed.CanSend (chart : Chart) (deed : Deed σ) (event : String) : Prop :=
  (chart.destination? event deed.move.destination.position).isSome

/-- **What the length of a chain and its errors come to**, given what was done, which records were
added to the history and what is answered. -/
structure Chained (setup : Setup σ) (chart : Chart) (deeds : List (Deed σ))
    (added : List HistoryRecord) (answer : Except Error Bool) : Prop where
  bounded : added.length ≤ setup.options.maxTriggerDepth + 1
  /-- An event that was found to lead on is found again when the transition is made. -/
  leads : ∀ deed ∈ deeds, deed.move.Leads chart
  distinct : setup.options.detectTriggerCycles = true → (sendings added).Nodup
  declared : setup.options.detectTriggerCycles = true →
    added.length ≤ 1 + (Chart.arrows chart.states).length
  tooLong : ∀ bound, answer = .error (.triggerChainTooLong bound) ↔
    FailsWith deeds (.triggerChainTooLong bound) ∨
      bound = setup.options.maxTriggerDepth ∧
        added.length = setup.options.maxTriggerDepth + 1 ∧
        ∃ deed ∈ deeds.getLast?, ∃ event, deed.Asks event ∧ deed.CanSend chart event
  cycle : ∀ state event, answer = .error (.triggerCycle state event) ↔
    FailsWith deeds (.triggerCycle state event) ∨
      setup.options.detectTriggerCycles = true ∧
        added.length ≤ setup.options.maxTriggerDepth ∧
        ∃ deed ∈ deeds.getLast?, deed.Asks event ∧ deed.CanSend chart event ∧
          deed.move.destination.state.name = state ∧ (some state, some event) ∈ sendings added
  wrong : ∀ event state, answer = .error (.wrongTrigger event state) ↔
    FailsWith deeds (.wrongTrigger event state) ∨
      ∃ deed ∈ deeds, deed.Asks event ∧ ¬ deed.CanSend chart event ∧
        deed.move.destination.state.name = state

/-- Nothing was done, and what is answered is none of the errors of chains. -/
theorem Chained.of_nothing {setup : Setup σ} {chart : Chart} {answer : Except Error Bool}
    (tooLong : ∀ bound, answer ≠ .error (.triggerChainTooLong bound))
    (cycle : ∀ state event, answer ≠ .error (.triggerCycle state event))
    (wrong : ∀ event state, answer ≠ .error (.wrongTrigger event state)) :
    Chained setup chart ([] : List (Deed σ)) [] answer where
  bounded := Nat.zero_le _
  leads := fun deed member => nomatch member
  distinct := fun _ => .nil
  declared := fun _ => Nat.zero_le _
  tooLong := by simp [tooLong, FailsWith]
  cycle := by simp [cycle, FailsWith]
  wrong := by simp [wrong, FailsWith]

/-! ### The records of links -/

/-- The state and the event of a link. -/
def Link.named (link : Link) : Option String × Option String :=
  (some link.source.state.name, some link.event)

theorem Records.length_eq {added : List HistoryRecord} {made : List Move}
    (records : Records added made) : added.length = made.length :=
  List.Forall₂.length_eq records

/-- The records of triggers are those of the transitions on triggers. -/
theorem Records.sendings_eq {added : List HistoryRecord} {made : List Move}
    (records : Records added made) :
    sendings added = (made.filter fun move => move.status = .trigger).map fun move =>
      (move.source.map fun place => place.state.name, move.event) := by
  unfold sendings
  induction records with
  | nil => rfl
  | @cons record move added made same rest ih =>
    obtain ⟨timestamp, rfl⟩ := same
    by_cases triggered : move.status = .trigger
    · have recorded : (move.record timestamp).status = .trigger := triggered
      rw [List.filter_cons_of_pos (by simpa using recorded),
        List.filter_cons_of_pos (by simpa using triggered), List.map_cons, List.map_cons, ih]
      rfl
    · have recorded : ¬ (move.record timestamp).status = .trigger := triggered
      rw [List.filter_cons_of_neg (by simpa using recorded),
        List.filter_cons_of_neg (by simpa using triggered), ih]

/-- The transitions of links are on triggers. -/
theorem filter_trigger {move : Move} (external : move.status ≠ .trigger) (links : List Link) :
    ((move :: links.map Link.move).filter fun move => move.status = .trigger).map (fun move =>
      (move.source.map fun place => place.state.name, move.event)) = links.map Link.named := by
  rw [List.filter_cons_of_neg (by simpa using external),
    List.filter_eq_self.2 fun other member => ?_, List.map_map]
  · rfl
  · obtain ⟨link, -, rfl⟩ := List.mem_map.1 member
    rfl

/-- A place that stands in a chart is known by its name. -/
theorem Chart.Built.place_inj {chart : Chart} (built : chart.Built) {first second : Place}
    (stands : chart.place? first.position = some first)
    (stands' : chart.place? second.position = some second)
    (same : first.state.name = second.state.name) : first.position = second.position := by
  obtain ⟨position, state⟩ := first
  obtain ⟨position', state'⟩ := second
  obtain ⟨_, found, place⟩ := Option.map_eq_some_iff.1 stands
  obtain ⟨_, found', place'⟩ := Option.map_eq_some_iff.1 stands'
  cases place
  cases place'
  have first := built.index_get? found
  rw [same, built.index_get? found'] at first
  exact (Option.some.inj first).symm

/-- Links of the same name send the same. -/
theorem Link.sending_congr {chart : Chart} (built : chart.Built) {first second : Link}
    (stands : chart.place? first.source.position = some first.source)
    (stands' : chart.place? second.source.position = some second.source)
    (same : first.named = second.named) : first.sending = second.sending := by
  obtain ⟨states, events⟩ := Prod.mk.inj same
  exact Prod.ext (built.place_inj stands stands' (Option.some.inj states)) (Option.some.inj events)

section Linking

variable {setup : Setup σ} {move : Move} {start finish : Motion σ}
  {deeds : List (Deed σ)} {result : Except Error Unit} {links : List Link}
  {sent : List (Nat × String)} {deed : Deed σ} {added : List HistoryRecord} {made : List Move}

namespace Linked

/-- The error of a course is that of a deed, or the event at its end is not followed. -/
theorem error_iff
    (whole : Linked setup [] move start finish deeds result links sent deed added made)
    (error : Error) :
    result = .error error ↔ FailsWith deeds error ∨ ∃ event, deed.Asks event ∧
      setup.follow sent start.machine.chart deed.move.destination event = .error error := by
  obtain ⟨before, rfl, goOn⟩ := whole.earlier
  constructor
  · rintro rfl
    cases whole.ends with
    | failed reply => exact .inl ⟨deed, by simp, reply⟩
    | refused asks refusal => exact .inr ⟨_, asks, refusal⟩
  · rintro (⟨other, member, failed⟩ | ⟨event, asks, refusal⟩)
    · rcases List.mem_append.1 member with early | here
      · obtain ⟨event, replied, -⟩ := goOn other early
        cases replied.symm.trans failed
      · rw [List.mem_singleton.1 here] at failed
        cases whole.ends with
        | failed reply =>
          cases reply.symm.trans failed
          rfl
        | settled reply => cases reply.symm.trans failed
        | refused asks _ => cases asks.2.symm.trans failed
    · cases whole.ends with
      | failed reply => cases reply.symm.trans asks.2
      | settled reply => cases reply.symm.trans asks.2
      | refused asks' refusal' =>
        cases asks'.2.symm.trans asks.2
        cases refusal'.symm.trans refusal
        rfl

/-- If the last deed asks for an event then every transition was made. -/
theorem made_of_asks
    (whole : Linked setup [] move start finish deeds result links sent deed added made)
    {event : String} (asks : deed.Asks event) : made = move :: links.map Link.move := by
  rcases whole.made with all | ⟨-, error, failed⟩
  · exact all
  · cases asks.2.symm.trans failed

/-- The links keep their numbers: each was sent. -/
theorem length_sent
    (whole : Linked setup [] move start finish deeds result links sent deed added made) :
    sent.length = links.length := by
  rw [whole.chain.sent_eq, List.append_nil, List.length_reverse, List.length_map]

/-- No more transitions were made than there are links, and the first one. -/
theorem length_added_le
    (whole : Linked setup [] move start finish deeds result links sent deed added made) :
    added.length ≤ links.length + 1 := by
  rw [whole.records.length_eq]
  rcases whole.made with rfl | ⟨rfl, -⟩
  · rw [List.length_cons, List.length_map]
  · rw [List.length_dropLast, List.length_cons, List.length_map]
    exact Nat.sub_le _ _

/-- The records of triggers are among the links. -/
theorem sendings_sublist
    (whole : Linked setup [] move start finish deeds result links sent deed added made)
    (external : move.status ≠ .trigger) : (sendings added).Sublist (links.map Link.named) := by
  rw [whole.records.sendings_eq, ← filter_trigger external links]
  refine List.Sublist.map _ (List.Sublist.filter _ ?_)
  rcases whole.made with rfl | ⟨rfl, -⟩
  · exact .refl _
  · exact List.dropLast_sublist _

/-- If every transition was made then the records of triggers are those of the links. -/
theorem sendings_eq
    (whole : Linked setup [] move start finish deeds result links sent deed added made)
    (external : move.status ≠ .trigger) {event : String} (asks : deed.Asks event) :
    sendings added = links.map Link.named := by
  rw [whole.records.sendings_eq, whole.made_of_asks asks, filter_trigger external links]

theorem length_of_asks
    (whole : Linked setup [] move start finish deeds result links sent deed added made)
    {event : String} (asks : deed.Asks event) : added.length = sent.length + 1 := by
  rw [whole.records.length_eq, whole.made_of_asks asks, whole.length_sent, List.length_cons,
    List.length_map]

theorem getLast?_eq
    (whole : Linked setup [] move start finish deeds result links sent deed added made) :
    deeds.getLast? = some deed := by
  obtain ⟨before, rfl, -⟩ := whole.earlier
  exact List.getLast?_concat

section Built

variable (whole : Linked setup [] move start finish deeds result links sent deed added made)
  (built : start.machine.chart.Built) (external : move.status ≠ .trigger)
  (stands : start.machine.chart.place? move.destination.position = some move.destination)

include whole stands in
/-- Links begin and end at places of the chart. -/
theorem places :
    (∀ link ∈ links, start.machine.chart.place? link.source.position = some link.source) ∧
    start.machine.chart.place? deed.move.destination.position = some deed.move.destination :=
  whole.chain.sources
    (P := fun place => start.machine.chart.place? place.position = some place) stands
    fun leads => Chart.place?_of_destination? leads

include whole in
theorem nodup_sending (detects : setup.options.detectTriggerCycles = true) :
    (links.map Link.sending).Nodup := by
  have sent := whole.chain.nodup detects .nil
  rw [whole.chain.sent_eq, List.append_nil] at sent
  exact (List.reverse_perm _).nodup_iff.1 sent

include whole built stands in
theorem nodup_named (detects : setup.options.detectTriggerCycles = true) :
    (links.map Link.named).Nodup := by
  have sent := whole.nodup_sending detects
  rw [List.Nodup, List.pairwise_map] at sent ⊢
  have sources := (whole.places stands).1
  refine sent.imp_of_mem fun {first second} among among' differ same => differ ?_
  exact Link.sending_congr built (sources first among) (sources second among') same

include whole built in
/-- With cycle detection there are no more links than declared events. -/
theorem length_links_le (detects : setup.options.detectTriggerCycles = true) :
    links.length ≤ (Chart.arrows start.machine.chart.states).length := by
  have among : links.map Link.sending ⊆
      (Chart.arrows start.machine.chart.states).map fun arrow => (arrow.source, arrow.event) := by
    intro pair member
    obtain ⟨link, among, rfl⟩ := List.mem_map.1 member
    obtain ⟨position, found, -⟩ := Option.bind_eq_some_iff.1 (whole.chain.leads link among)
    obtain ⟨target, arrow, -⟩ := built.arrow_of_lookup found
    exact List.mem_map.2 ⟨_, arrow, rfl⟩
  have few := ((whole.nodup_sending detects).subperm among).length_le
  rwa [List.length_map, List.length_map] at few

include whole built external stands in
/-- The last place sent an event before exactly if there is a record of it. -/
theorem mem_sent_iff {event : String} (asks : deed.Asks event) :
    (deed.move.destination.position, event) ∈ sent ↔
      (some deed.move.destination.state.name, some event) ∈ sendings added := by
  obtain ⟨sources, last⟩ := whole.places stands
  rw [whole.sendings_eq external asks, whole.chain.sent_eq, List.append_nil, List.mem_reverse]
  constructor
  · intro member
    obtain ⟨link, among, same⟩ := List.mem_map.1 member
    obtain ⟨position, rfl⟩ := Prod.mk.inj same
    have source := sources link among
    rw [position, last] at source
    exact List.mem_map.2 ⟨link, among, by rw [Link.named, ← Option.some.inj source]⟩
  · intro member
    obtain ⟨link, among, same⟩ := List.mem_map.1 member
    obtain ⟨name, events⟩ := Prod.mk.inj same
    have position := built.place_inj (sources link among) last (Option.some.inj name)
    exact List.mem_map.2 ⟨link, among, Prod.ext position (Option.some.inj events)⟩

include whole in
theorem tooLong_iff (bound : Nat) :
    result = .error (.triggerChainTooLong bound) ↔
      FailsWith deeds (.triggerChainTooLong bound) ∨
        bound = setup.options.maxTriggerDepth ∧
          added.length = setup.options.maxTriggerDepth + 1 ∧
          ∃ deed ∈ deeds.getLast?, ∃ event, deed.Asks event ∧
            deed.CanSend start.machine.chart event := by
  have room := whole.chain.length_le (Nat.zero_le _)
  rw [whole.error_iff, whole.getLast?_eq]
  refine or_congr Iff.rfl ?_
  simp only [Setup.follow_eq_triggerChainTooLong_iff]
  constructor
  · rintro ⟨event, asks, canSend, long, rfl⟩
    refine ⟨rfl, ?_, deed, rfl, event, asks, canSend⟩
    rw [whole.length_of_asks asks, Nat.le_antisymm room long]
  · rintro ⟨rfl, long, _, ⟨⟩, event, asks, canSend⟩
    rw [whole.length_of_asks asks] at long
    exact ⟨event, asks, canSend, (Nat.succ.inj long).ge, rfl⟩

include whole built external stands in
theorem cycle_iff (state event : String) :
    result = .error (.triggerCycle state event) ↔
      FailsWith deeds (.triggerCycle state event) ∨
        setup.options.detectTriggerCycles = true ∧
          added.length ≤ setup.options.maxTriggerDepth ∧
          ∃ deed ∈ deeds.getLast?, deed.Asks event ∧ deed.CanSend start.machine.chart event ∧
            deed.move.destination.state.name = state ∧
            (some state, some event) ∈ sendings added := by
  rw [whole.error_iff, whole.getLast?_eq]
  refine or_congr Iff.rfl ?_
  simp only [Setup.follow_eq_triggerCycle_iff]
  constructor
  · rintro ⟨event, asks, canSend, short, ⟨detects, again⟩, rfl, rfl⟩
    refine ⟨detects, ?_, deed, rfl, asks, canSend, rfl, ?_⟩
    · rw [whole.length_of_asks asks]
      exact short
    · exact (whole.mem_sent_iff built external stands asks).1 again
  · rintro ⟨detects, short, _, ⟨⟩, asks, canSend, rfl, again⟩
    rw [whole.length_of_asks asks] at short
    have before := (whole.mem_sent_iff built external stands asks).2 again
    exact ⟨event, asks, canSend, short, ⟨detects, before⟩, rfl, rfl⟩

include whole in
/-- A trigger that asks for an event which leads nowhere is the last one. -/
theorem wrong_iff (event state : String) :
    result = .error (.wrongTrigger event state) ↔
      FailsWith deeds (.wrongTrigger event state) ∨
        ∃ deed ∈ deeds, deed.Asks event ∧ ¬ deed.CanSend start.machine.chart event ∧
          deed.move.destination.state.name = state := by
  rw [whole.error_iff]
  refine or_congr Iff.rfl ?_
  simp only [Setup.follow_eq_wrongTrigger_iff]
  obtain ⟨before, rfl, goOn⟩ := whole.earlier
  constructor
  · rintro ⟨_, asks, nowhere, rfl, rfl⟩
    refine ⟨deed, by simp, asks, ?_, rfl⟩
    rw [Deed.CanSend, nowhere]
    exact Bool.false_ne_true
  · rintro ⟨other, member, asks, nowhere, rfl⟩
    rcases List.mem_append.1 member with early | here
    · obtain ⟨asked, replied, leads⟩ := goOn other early
      cases replied.symm.trans asks.2
      exact absurd (leads event rfl) nowhere
    · cases List.mem_singleton.1 here
      exact ⟨event, asks, Option.not_isSome_iff_eq_none.1 nowhere, rfl, rfl⟩

include whole built external stands in
/-- **The course of a call is chained.** -/
theorem chained (leads : move.Leads start.machine.chart) :
    Chained setup start.machine.chart deeds added (result.map fun () => true) := by
  have failing : ∀ error, (result.map fun () => true) = (.error error : Except Error Bool) ↔
      result = .error error := by
    intro error
    cases result <;> simp [Except.map]
  refine ⟨?_, ?_, ?_, ?_, ?_, ?_, ?_⟩
  · have room := whole.chain.length_le (Nat.zero_le _)
    exact whole.length_added_le.trans (Nat.succ_le_succ (whole.length_sent ▸ room))
  · intro other member
    rcases List.mem_cons.1 (whole.moves other member) with first | later
    · rw [first]
      exact leads
    · obtain ⟨link, among, same⟩ := List.mem_map.1 later
      rw [← same]
      rintro event ⟨⟩
      exact ⟨link.source, rfl, whole.chain.leads link among⟩
  · exact fun detects =>
      (whole.sendings_sublist external).nodup (whole.nodup_named built stands detects)
  · intro detects
    have few := whole.length_links_le built detects
    exact whole.length_added_le.trans (by omega)
  · exact fun bound => (failing _).trans (whole.tooLong_iff bound)
  · exact fun state event => (failing _).trans (whole.cycle_iff built external stands state event)
  · exact fun event state => (failing _).trans (whole.wrong_iff event state)

end Built

end Linked

end Linking

/-! ### Calls -/

namespace Runner

variable [Clocked σ] {runner : Runner σ} {call : Call} {machine : Machine}

omit [Clocked σ] in
/-- A call begins with a transition of the chart that is on no trigger. -/
theorem Begins.external {move : Move} (begins : runner.Begins call machine move) :
    move.status ≠ .trigger ∧ move.Leads machine.chart ∧
      machine.chart.place? move.destination.position = some move.destination := by
  cases begins with
  | start loaded fresh =>
    exact ⟨nofun, nofun, machine.chart.place?_initial⟩
  | @send machine source destination event loaded here leads =>
    refine ⟨nofun, ?_, Chart.place?_of_destination? leads⟩
    rintro event ⟨⟩
    exact ⟨source, rfl, leads⟩

omit [Clocked σ] in
/-- A call that declines answers with none of the errors of chains. -/
theorem Declines.chained {answer : Except Error Bool} (declines : runner.Declines call answer)
    (chart : Chart) : Chained runner.toSetup chart ([] : List (Deed σ)) [] answer := by
  cases declines <;> exact .of_nothing nofun nofun nofun

/-- **Every call of a loaded runner is chained.** Its blocks are those that the protocol fixes, and
the records are those that it adds to the history, one for each transition that it makes. -/
theorem make_chained (loaded : runner.machine = some machine) (built : machine.chart.Built)
    (call : Call) (payload : Value) (world : σ) :
    ∃ blocks now added,
      runner.Conducts call payload world blocks (runner.make call payload world) ∧
      (runner.make call payload world).2.1.machine = some now ∧ now.chart = machine.chart ∧
      now.history = machine.history ++ added ∧
      Chained runner.toSetup machine.chart blocks.flatten added
        (runner.make call payload world).1 := by
  obtain ⟨blocks, unique⟩ := runner.conducts_iff call payload world
  have conducts := (unique blocks _).2 ⟨rfl, rfl⟩
  generalize runner.make call payload world = outcome at conducts
  refine ⟨blocks, ?_⟩
  cases conducts with
  | declined declines =>
    exact ⟨machine, [], .declined declines, loaded, rfl, (List.append_nil _).symm,
      declines.chained machine.chart⟩
  | @conducted machine' move _ result finish begins course =>
    cases begins.loaded.symm.trans loaded
    obtain ⟨external, leads, stands⟩ := begins.external
    obtain ⟨links, sent, deed, added, made, whole⟩ := course.linked
    exact ⟨finish.machine, added, .conducted begins course, rfl, whole.chart, whole.history,
      whole.chained built external stands leads⟩

/-! ### A rally -/

/-- Two states, each of which has the other one entered next. -/
def rallyStates : List State :=
  [{ State.new "ping" with
      events := Dict.empty.insert "next" "pong", hooks := { trigger := some "next" },
      isInitial := true, isFinal := false },
    { State.new "pong" with
      events := Dict.empty.insert "next" "ping", hooks := { trigger := some "next" },
      isFinal := false }]

/-- The chart of the two states. -/
def rally : Chart where
  id := Chart.contentId rallyStates
  states := rallyStates
  index := Chart.indexOf rallyStates
  table := Chart.tableOf rallyStates (Chart.indexOf rallyStates)
  initial := 0
  initial_lt := by decide
  finals := Chart.positionsOf State.isFinal rallyStates

theorem built_rally : rally.Built := by
  refine Chart.ofStates?_eq_ok_iff.2 ⟨?_, by decide, rfl, rfl, rfl, rfl, rfl, rfl, rfl⟩
  exact (Chart.sorted_of_pairwise (by decide)).symm

/-- The rally before it begins. -/
def restingRally : Machine where
  chart := rally
  name := "rally"
  current := none
  history := []
  datamodel := ∅

/-- A runner whose triggers always ask for the same event. -/
def rallying : Runner Nat where
  resolver :=
    { callback? := fun _ _ _ => none
      trigger? := fun identifier _ => some fun _ datamodel world =>
        { result := .ok identifier, datamodel, world } }
  machine := some
    { chart := rally, name := "", current := none, history := [], datamodel := ∅ }

/-- The rally ends where it began, with three transitions. -/
theorem make_chained_rally : ∃ blocks : List (List (Deed Nat)),
    Chained rallying.toSetup rally blocks.flatten
      [⟨0, none, none, "ping", .initial⟩, ⟨1, some "next", some "ping", "pong", .trigger⟩,
        ⟨2, some "next", some "pong", "ping", .trigger⟩]
      (.error (.triggerCycle "ping" "next")) := by
  have loaded : rallying.machine = some
      { chart := rally, name := "", current := none, history := [], datamodel := ∅ } := rfl
  obtain ⟨blocks, now, added, -, here, -, history, chained⟩ :=
    make_chained loaded built_rally .start .null 0
  have left : (rallying.make .start .null 0).1 = .error (.triggerCycle "ping" "next") ∧
      (rallying.make .start .null 0).2.1.machine.map Machine.history =
        some [⟨0, none, none, "ping", .initial⟩, ⟨1, some "next", some "ping", "pong", .trigger⟩,
          ⟨2, some "next", some "pong", "ping", .trigger⟩] := by
    decide +kernel
  rw [here, Option.map_some, history, List.nil_append] at left
  rw [left.1, Option.some.inj left.2] at chained
  exact ⟨blocks, chained⟩

end Runner

end Statechart
