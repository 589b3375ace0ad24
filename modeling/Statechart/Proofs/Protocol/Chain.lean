/-
**Chains of triggers.**

The transitions of one call form a chain: the trigger of each place asks for an event, and if the
event is followed then the chain goes on from where the event leads. The links of a chain are the
events that were followed, and they decide how long it may become and how it ends.

* `Setup.follow_eq_ok_iff` and the lemmas beside it: when an event is followed, and which error it
  gives if not. Whether it leads anywhere is asked first, then the length, then the repetition.
* `Links`: the events that a chain follows, one behind the other.
* `Links.nodup`: with cycle detection no event is followed from one place twice.
* `Course.linked`: the course of a call follows its links, its history grows by one record for each
  transition, and how it ends is decided where the last link leads.
-/

import Statechart.Proofs.Protocol.Frame
import Mathlib.Data.List.Forall2

namespace Statechart

open Json

variable {σ : Type}

/-! ### Whether an event is followed -/

section Following

variable {setup : Setup σ} {sent : List (Nat × String)} {chart : Chart} {source : Place}
  {event : String}

/-- An event is followed if it leads on, in a chain that is short enough, and is no repetition where
that is watched for. -/
theorem Setup.follow_eq_ok_iff {destination : Place} :
    setup.follow sent chart source event = .ok destination ↔
      chart.destination? event source.position = some destination ∧
        sent.length < setup.options.maxTriggerDepth ∧
        ¬ (setup.options.detectTriggerCycles ∧ (source.position, event) ∈ sent) := by
  unfold Setup.follow
  cases chart.destination? event source.position with
  | none => simp
  | some reached =>
    dsimp only
    by_cases deep : setup.options.maxTriggerDepth ≤ sent.length
    · simp [deep, Nat.not_lt.2 deep]
    · by_cases again : setup.options.detectTriggerCycles ∧ (source.position, event) ∈ sent
      · simp [deep, again]
      · rw [if_neg deep, if_neg again, Except.ok.injEq, Option.some.injEq]
        exact ⟨fun same => ⟨same, Nat.lt_of_not_le deep, again⟩, And.left⟩

theorem Setup.follow_eq_wrongTrigger_iff {asked state : String} :
    setup.follow sent chart source event = .error (.wrongTrigger asked state) ↔
      chart.destination? event source.position = none ∧ asked = event ∧
        state = source.state.name := by
  unfold Setup.follow
  cases chart.destination? event source.position with
  | none => simp [eq_comm]
  | some reached =>
    dsimp only
    split
    · simp
    · split <;> simp

theorem Setup.follow_eq_triggerChainTooLong_iff {bound : Nat} :
    setup.follow sent chart source event = .error (.triggerChainTooLong bound) ↔
      (chart.destination? event source.position).isSome ∧
        setup.options.maxTriggerDepth ≤ sent.length ∧ bound = setup.options.maxTriggerDepth := by
  unfold Setup.follow
  cases chart.destination? event source.position with
  | none => simp
  | some reached =>
    dsimp only
    by_cases deep : setup.options.maxTriggerDepth ≤ sent.length
    · simp [deep, eq_comm]
    · rw [if_neg deep]
      split <;> simp [deep]

theorem Setup.follow_eq_triggerCycle_iff {state asked : String} :
    setup.follow sent chart source event = .error (.triggerCycle state asked) ↔
      (chart.destination? event source.position).isSome ∧
        sent.length < setup.options.maxTriggerDepth ∧
        (setup.options.detectTriggerCycles ∧ (source.position, event) ∈ sent) ∧
        state = source.state.name ∧ asked = event := by
  unfold Setup.follow
  cases chart.destination? event source.position with
  | none => simp
  | some reached =>
    dsimp only
    by_cases deep : setup.options.maxTriggerDepth ≤ sent.length
    · simp [deep, Nat.not_lt.2 deep]
    · by_cases again : setup.options.detectTriggerCycles ∧ (source.position, event) ∈ sent
      · simp [Nat.lt_of_not_le deep, deep, again, eq_comm]
      · simp [deep, again]

end Following

/-! ### Links -/

/-- One event that a chain follows: the place whose trigger asked for it, and where it leads. -/
structure Link where
  source : Place
  event : String
  destination : Place

/-- What is kept of a link against repetitions. -/
def Link.sending (link : Link) : Nat × String := (link.source.position, link.event)

/-- The transition of a link. -/
def Link.move (link : Link) : Move := .between .trigger link.event link.source link.destination

/-- **The links of a chain** from one place to another, each followed as the setup says given what
was sent before it. -/
inductive Links (setup : Setup σ) (chart : Chart) :
    List (Nat × String) → Place → List Link → List (Nat × String) → Place → Prop
  | done (sent : List (Nat × String)) (place : Place) : Links setup chart sent place [] sent place
  | follow {sent sent' : List (Nat × String)} {source destination last : Place} {event : String}
      {links : List Link} (followed : setup.follow sent chart source event = .ok destination)
      (rest : Links setup chart ((source.position, event) :: sent) destination links sent' last) :
      Links setup chart sent source ({ source, event, destination } :: links) sent' last

namespace Links

variable {setup : Setup σ} {chart : Chart} {sent sent' : List (Nat × String)} {first last : Place}
  {links : List Link}

/-- What was sent in the end is what the links sent, the last one first. -/
theorem sent_eq (chain : Links setup chart sent first links sent' last) :
    sent' = (links.map Link.sending).reverse ++ sent := by
  induction chain with
  | done => rfl
  | follow followed rest ih =>
    rw [ih, List.map_cons, List.reverse_cons, List.append_assoc]
    rfl

/-- A chain does not become longer than its setup says. -/
theorem length_le (chain : Links setup chart sent first links sent' last)
    (room : sent.length ≤ setup.options.maxTriggerDepth) :
    sent'.length ≤ setup.options.maxTriggerDepth := by
  induction chain with
  | done => exact room
  | follow followed rest ih => exact ih (Setup.of_follow followed).2

/-- **With cycle detection no event is followed from one place twice.** -/
theorem nodup (chain : Links setup chart sent first links sent' last)
    (detects : setup.options.detectTriggerCycles = true) (distinct : sent.Nodup) :
    sent'.Nodup := by
  induction chain with
  | done => exact distinct
  | follow followed rest ih =>
    have fresh := (Setup.follow_eq_ok_iff.1 followed).2.2
    exact ih (List.nodup_cons.2 ⟨fun again => fresh ⟨detects, again⟩, distinct⟩)

/-- Every link leads on in the chart. -/
theorem leads (chain : Links setup chart sent first links sent' last) :
    ∀ link ∈ links,
      chart.destination? link.event link.source.position = some link.destination := by
  induction chain with
  | done => exact fun link member => nomatch member
  | follow followed rest ih =>
    exact List.forall_mem_cons.2 ⟨(Setup.follow_eq_ok_iff.1 followed).1, ih⟩

/-- What holds of the place where a chain begins, and of each place to which an event leads, holds
of the source of every link and of the place where the chain ends. -/
theorem sources {P : Place → Prop} (chain : Links setup chart sent first links sent' last)
    (initially : P first)
    (reached : ∀ {event : String} {source destination : Place},
      chart.destination? event source.position = some destination → P destination) :
    (∀ link ∈ links, P link.source) ∧ P last := by
  induction chain with
  | done => exact ⟨fun link member => (nomatch member), initially⟩
  | follow followed rest ih =>
    obtain ⟨later, last⟩ := ih (reached (Setup.follow_eq_ok_iff.1 followed).1)
    exact ⟨List.forall_mem_cons.2 ⟨initially, later⟩, last⟩

end Links

/-! ### Blocks end where they are decided -/

/-- A deed that asks for an event is one of the trigger of the place that was reached. -/
def Deed.Asks (deed : Deed σ) (event : String) : Prop :=
  deed.stage = .trigger deed.move.destination.state ∧ deed.reply = .ok (some event)

variable [Clocked σ] {setup : Setup σ} {payload : Value} {move : Move}

/-- Only triggers ask for events. -/
theorem Stage.trigger_of_perform {stage : Stage} {start finish : Motion σ} {event : String}
    (performed : stage.perform setup move payload start = (.ok (some event), finish)) :
    ∃ state, stage = .trigger state := by
  have replied := congrArg Prod.fst performed
  cases stage with
  | trigger state => exact ⟨state, rfl⟩
  | commit => cases replied
  | flush =>
    simp only [perform] at replied
    cases told : setup.flushHook with
    | none =>
      rw [told] at replied
      cases replied
    | some hook =>
      rw [told] at replied
      dsimp only at replied
      cases said : (start.tell hook).1 <;> rw [said] at replied <;> cases replied
  | hook kind state =>
    simp only [perform, callAssigned] at replied
    cases called : setup.callbackOf state kind with
    | nothing =>
      rw [called] at replied
      cases replied
    | undefined identifier =>
      rw [called] at replied
      cases replied
    | known callable =>
      rw [called] at replied
      dsimp only at replied
      cases said : (start.call callable move payload).1 <;> rw [said] at replied <;> cases replied

theorem Block.stages_ne_nil {stages : List Stage} {start finish : Motion σ}
    {deeds : List (Deed σ)} {reply : StageReply}
    (block : Block setup payload move stages start deeds reply finish) : stages ≠ [] := by
  cases block with
  | last performed => exact List.cons_ne_nil _ _
  | failed performed => exact List.cons_ne_nil _ _
  | next performed rest => exact List.cons_ne_nil _ _

/-- The last deed of a block replies as the block does, and if the last stage alone is a trigger
then the deeds before ask for nothing. -/
theorem Block.last_deed {stages : List Stage} {start finish : Motion σ} {deeds : List (Deed σ)}
    {reply : StageReply} (block : Block setup payload move stages start deeds reply finish)
    (quiet : ∀ stage ∈ stages.dropLast, ∀ state, stage ≠ .trigger state) :
    ∃ earlier deed, deeds = earlier ++ [deed] ∧ deed.move = move ∧ deed.reply = reply ∧
      deed.stage ∈ stages ∧
      (∀ event, reply = .ok (some event) → ∃ state, deed.stage = .trigger state) ∧
      ∀ other ∈ earlier, other.move = move ∧ other.reply = .ok none := by
  induction block with
  | @last stage start finish event performed =>
    refine ⟨[], _, rfl, rfl, rfl, List.mem_cons_self, ?_, fun other member => nomatch member⟩
    rintro asked same
    cases same
    exact Stage.trigger_of_perform performed
  | failed performed =>
    refine ⟨[], _, rfl, rfl, rfl, List.mem_cons_self, ?_, fun other member => nomatch member⟩
    exact fun asked same => nomatch same
  | @next stage later start middle finish event deeds reply performed rest ih =>
    rw [List.dropLast_cons_of_ne_nil rest.stages_ne_nil, List.forall_mem_cons] at quiet
    obtain ⟨earlier, deed, rfl, same, replied, among, asks, before⟩ := ih quiet.2
    have silent : event = none := by
      cases event with
      | none => rfl
      | some event =>
        obtain ⟨state, isTrigger⟩ := Stage.trigger_of_perform performed
        exact absurd isTrigger (quiet.1 state)
    refine ⟨_ :: earlier, deed, rfl, same, replied, List.mem_cons_of_mem _ among, asks, ?_⟩
    exact List.forall_mem_cons.2 ⟨⟨rfl, congrArg Except.ok silent⟩, before⟩

omit [Clocked σ] in
/-- A transition has one trigger, at its end. -/
theorem Move.stages_trigger (move : Move) (setup : Setup σ) :
    ∃ before, move.stages setup = before ++ [.trigger move.destination.state] ∧
      ∀ stage ∈ before, ∀ state, stage ≠ .trigger state := by
  refine ⟨move.departure setup.options ++ [.hook .onEnter move.destination.state, .commit] ++
    (if setup.autosave && setup.flushHook.isSome then [.flush] else []) ++
      [.hook .onChange move.destination.state, .hook .action move.destination.state], ?_, ?_⟩
  · simp [Move.stages]
  · intro stage member state same
    subst same
    simp only [Move.departure, List.mem_append] at member
    rcases member with ((leaving | entering) | telling) | acting
    · split at leaving
      · cases leaving
      · split at leaving <;> simp at leaving
    · simp at entering
    · split at telling <;> simp at telling
    · simp at acting

/-- **What a block replies is what its last deed replies, and only that deed can ask.** -/
theorem Block.decided {start finish : Motion σ} {deeds : List (Deed σ)} {reply : StageReply}
    (block : Block setup payload move (move.stages setup) start deeds reply finish) :
    ∃ earlier deed, deeds = earlier ++ [deed] ∧ (∀ other ∈ deeds, other.move = move) ∧
      deed.reply = reply ∧ (∀ event, reply = .ok (some event) → deed.Asks event) ∧
      ∀ other ∈ earlier, other.reply = .ok none := by
  obtain ⟨before, ending, quiet⟩ := move.stages_trigger setup
  obtain ⟨earlier, deed, rfl, moved, replied, among, asks, others⟩ := block.last_deed (by
    rw [ending, List.dropLast_concat]
    exact quiet)
  have moves : ∀ other ∈ earlier ++ [deed], other.move = move :=
    List.forall_mem_append.2 ⟨fun other member => (others other member).1,
      List.forall_mem_singleton.2 moved⟩
  refine ⟨earlier, deed, rfl, moves, replied, fun event asked => ?_,
    fun other member => (others other member).2⟩
  obtain ⟨state, isTrigger⟩ := asks event asked
  refine ⟨?_, replied.trans asked⟩
  rw [ending, List.mem_append, List.mem_singleton] at among
  rcases among with early | atEnd
  · exact absurd isTrigger (quiet _ early state)
  · rw [atEnd, moved]

/-! ### Whole courses -/

/-- Records of some transitions, one for each. -/
def Records : List HistoryRecord → List Move → Prop :=
  List.Forall₂ fun record move => ∃ timestamp, record = move.record timestamp

/-- How a course ends, given what was sent and the deed at its end: the deed fails and with it the
course, or it asks for nothing and the course succeeds, or what it asks for is not followed. -/
inductive Ends (setup : Setup σ) (chart : Chart) (sent : List (Nat × String)) (deed : Deed σ) :
    Except Error Unit → Prop
  | failed {error : Error} (reply : deed.reply = .error error) : Ends setup chart sent deed
      (.error error)
  | settled (reply : deed.reply = .ok none) : Ends setup chart sent deed (.ok ())
  | refused {event : String} {error : Error} (asks : deed.Asks event)
      (refusal : setup.follow sent chart deed.move.destination event = .error error) :
      Ends setup chart sent deed (.error error)

/-- A deed goes on if it succeeds, and if the event that it may ask for leads on. -/
def Deed.GoesOn (chart : Chart) (deed : Deed σ) : Prop :=
  ∃ event, deed.reply = .ok event ∧
    ∀ asked ∈ event, (chart.destination? asked deed.move.destination.position).isSome

/-- What a course is made of. Every deed but the last one goes on. Only if the last deed fails may
the last transition not have been made. -/
structure Linked (setup : Setup σ) (sent : List (Nat × String)) (move : Move)
    (start finish : Motion σ) (deeds : List (Deed σ)) (result : Except Error Unit)
    (links : List Link) (sent' : List (Nat × String)) (deed : Deed σ) (added : List HistoryRecord)
    (made : List Move) : Prop where
  chart : finish.machine.chart = start.machine.chart
  chain : Links setup start.machine.chart sent move.destination links sent' deed.move.destination
  history : finish.machine.history = start.machine.history ++ added
  records : Records added made
  made : made = move :: links.map Link.move ∨
    made = (move :: links.map Link.move).dropLast ∧ ∃ error, deed.reply = .error error
  ends : Ends setup start.machine.chart sent' deed result
  moves : ∀ other ∈ deeds, other.move ∈ move :: links.map Link.move
  earlier : ∃ before, deeds = before ++ [deed] ∧ ∀ other ∈ before, other.GoesOn start.machine.chart

/-- A course that ends with its first block. -/
theorem Block.linked {sent : List (Nat × String)} {start finish : Motion σ}
    {deeds : List (Deed σ)} {reply : StageReply} {result : Except Error Unit}
    (block : Block setup payload move (move.stages setup) start deeds reply finish)
    (ends : ∀ deed : Deed σ, deed.move = move → deed.reply = reply →
      (∀ event, reply = .ok (some event) → deed.Asks event) →
      Ends setup start.machine.chart sent deed result) :
    ∃ links sent' deed added made,
      Linked setup sent move start finish deeds result links sent' deed added made := by
  obtain ⟨earlier, deed, rfl, moves, replied, asks, quiet⟩ := block.decided
  have moved : deed.move = move := moves deed (by simp)
  have every : ∀ other ∈ earlier ++ [deed], other.move ∈ [move] := fun other member =>
    List.mem_singleton.2 (moves other member)
  have goOn : ∀ other ∈ earlier, other.GoesOn start.machine.chart := fun other member =>
    ⟨none, quiet other member, fun asked nothing => nomatch nothing⟩
  rcases block.makes_or_fails with ⟨timestamp, made⟩ | ⟨⟨error, failed⟩, alike⟩
  · exact ⟨[], sent, deed, [move.record timestamp], [move], made.chart, moved ▸ .done ..,
      made.history, .cons ⟨timestamp, rfl⟩ .nil, .inl rfl, ends deed moved replied asks, every,
      earlier, rfl, goOn⟩
  · refine ⟨[], sent, deed, [], [], alike.chart, moved ▸ .done .., ?_, .nil,
      .inr ⟨rfl, error, replied.trans failed⟩, ends deed moved replied asks, every, earlier, rfl,
      goOn⟩
    rw [alike.history, List.append_nil]

/-- If the event of a block leads on then every deed of it goes on. -/
theorem Block.goesOn {start finish : Motion σ} {deeds : List (Deed σ)} {event : String}
    (block : Block setup payload move (move.stages setup) start deeds (.ok (some event)) finish)
    {chart : Chart} (leads : (chart.destination? event move.destination.position).isSome) :
    ∀ deed ∈ deeds, deed.GoesOn chart := by
  obtain ⟨earlier, last, rfl, moves, replied, -, quiet⟩ := block.decided
  refine List.forall_mem_append.2 ⟨fun deed member => ?_, List.forall_mem_singleton.2 ?_⟩
  · exact ⟨none, quiet deed member, fun asked nothing => nomatch nothing⟩
  · refine ⟨some event, replied, fun asked same => ?_⟩
    cases same
    rw [moves last (by simp)]
    exact leads

/-- A block whose event is followed, and the course after it. -/
theorem Linked.onward {sent sent' : List (Nat × String)} {start middle finish : Motion σ}
    {deeds later : List (Deed σ)} {event : String} {destination : Place}
    {result : Except Error Unit} {links : List Link} {last : Deed σ} {added : List HistoryRecord}
    {made : List Move}
    (block : Block setup payload move (move.stages setup) start deeds (.ok (some event)) middle)
    (followed : setup.follow sent middle.machine.chart move.destination event = .ok destination)
    (whole : Linked setup ((move.destination.position, event) :: sent)
      (.between .trigger event move.destination destination) middle finish later result links sent'
      last added made) :
    ∃ timestamp, Linked setup sent move start finish (deeds ++ later) result
      (⟨move.destination, event, destination⟩ :: links) sent' last
      (move.record timestamp :: added) (move :: made) := by
  rcases block.makes_or_fails with ⟨timestamp, first⟩ | ⟨⟨error, failed⟩, -⟩
  · have chart : middle.machine.chart = start.machine.chart := first.chart
    obtain ⟨_, _, -, moves, -⟩ := block.decided
    obtain ⟨before, split, goOn⟩ := whole.earlier
    rw [chart] at followed goOn
    have leads := Option.isSome_of_eq_some (Setup.of_follow followed).1
    refine ⟨timestamp, whole.chart.trans chart, .follow followed (chart ▸ whole.chain), ?_,
      .cons ⟨timestamp, rfl⟩ whole.records, ?_, chart ▸ whole.ends, ?_, deeds ++ before, ?_, ?_⟩
    · rw [whole.history, first.history]
      exact List.append_assoc ..
    · rcases whole.made with all | ⟨butOne, failed⟩
      · exact .inl (congrArg (move :: ·) all)
      · exact .inr ⟨congrArg (move :: ·) butOne, failed⟩
    · refine List.forall_mem_append.2 ⟨fun other member => ?_, fun other member => ?_⟩
      · rw [moves other member]
        exact List.mem_cons_self
      · exact List.mem_cons_of_mem _ (whole.moves other member)
    · rw [split, List.append_assoc]
    · exact List.forall_mem_append.2 ⟨block.goesOn leads, goOn⟩
  · cases failed

/-- **The course of a call follows its links.** -/
theorem Course.linked {sent : List (Nat × String)} {start finish : Motion σ}
    {blocks : List (List (Deed σ))} {result : Except Error Unit}
    (course : Course setup payload sent move start blocks result finish) :
    ∃ links sent' deed added made,
      Linked setup sent move start finish blocks.flatten result links sent' deed added made := by
  induction course with
  | failed block =>
    rw [List.flatten_singleton]
    exact block.linked fun deed moved replied asks => .failed replied
  | settled block =>
    rw [List.flatten_singleton]
    exact block.linked fun deed moved replied asks => .settled replied
  | @refused sent move start finish deeds event error block refusal =>
    rw [List.flatten_singleton]
    have chart : finish.machine.chart = start.machine.chart := by
      rcases block.makes_or_fails with ⟨_, made⟩ | ⟨-, alike⟩
      · exact made.chart
      · exact alike.chart
    refine block.linked fun deed moved replied asks => .refused (asks event rfl) ?_
    rw [moved, ← chart]
    exact refusal
  | onward block followed rest ih =>
    obtain ⟨links, sent', last, added, made, whole⟩ := ih
    obtain ⟨timestamp, longer⟩ := whole.onward block followed
    exact ⟨_, sent', last, _, _, longer⟩

end Statechart
