/-
**Where errors come from.**

A call that made a start fails because something that was called failed, because an identifier
stands for nothing at a stage that was reached, because the flush hook refused, or because the chain
of triggers cannot go on. Each of these has its own errors, but for what is called, which may fail
with any error.

* `Deed.Raises`, `Deed.Misses`: what is called fails, and an identifier stands for nothing.
* `Blamed`: where an error comes from.
* `Course.blamed`: the error of every course comes from somewhere.
* `Course.visits`: the stages of a course belong to transitions between places of the chart.
-/

import Statechart.Proofs.Protocol.Call
import Statechart.Proofs.Runner.Chronicle

namespace Statechart

open Json

variable {σ : Type}

/-! ### Errors -/

/-- An identifier that stands for nothing is an error of resolution. -/
theorem kind_undefinedHook (state : String) (kind : HookKind) (identifier : String) :
    (undefinedHook state kind identifier).kind = .resolution := by
  cases kind <;> rfl

/-- An event that is not followed is an error of triggers. -/
theorem Setup.kind_of_follow {setup : Setup σ} {sent : List (Nat × String)} {chart : Chart}
    {source : Place} {event : String} {error : Error}
    (refusal : setup.follow sent chart source event = .error error) :
    error.kind = .triggerConsistency := by
  unfold follow at refusal
  split at refusal
  · cases refusal
    rfl
  · split at refusal
    · cases refusal
      rfl
    · split at refusal
      · cases refusal
        rfl
      · cases refusal

/-- What is called at the stage of a deed fails. -/
inductive Deed.Raises (setup : Setup σ) (payload : Value) (deed : Deed σ) (error : Error) : Prop
  | callback {kind : HookKind} {state : State} {callback : Callback σ}
      (stage : deed.stage = .hook kind state)
      (known : setup.callbackOf state kind = .known callback)
      (raised : (deed.before.call callback deed.move payload).1 = .error error)
  | trigger {state : State} {trigger : Trigger σ} (stage : deed.stage = .trigger state)
      (known : setup.triggerOf state = .known trigger)
      (raised : (deed.before.call trigger deed.move payload).1 = .error error)

/-- An identifier that is declared for the stage of a deed stands for nothing. -/
inductive Deed.Misses (setup : Setup σ) (deed : Deed σ) : Error → Prop
  | callback {kind : HookKind} {state : State} {identifier : String}
      (stage : deed.stage = .hook kind state)
      (unknown : setup.callbackOf state kind = .undefined identifier) :
      Misses setup deed (undefinedHook state.name kind identifier)
  | trigger {state : State} {identifier : String} (stage : deed.stage = .trigger state)
      (unknown : setup.triggerOf state = .undefined identifier) :
      Misses setup deed (undefinedHook state.name .trigger identifier)

/-- **Where an error comes from**, given what was done. -/
inductive Blamed (setup : Setup σ) (payload : Value) (deeds : List (Deed σ)) : Error → Prop
  | raised {deed : Deed σ} {error : Error} (among : deed ∈ deeds)
      (raises : deed.Raises setup payload error) : Blamed setup payload deeds error
  | missed {deed : Deed σ} {error : Error} (among : deed ∈ deeds)
      (misses : deed.Misses setup error) : Blamed setup payload deeds error
  | unflushed (fault : FlushFault) : Blamed setup payload deeds (.flush fault)
  | unchained {error : Error} (kind : error.kind = .triggerConsistency) :
      Blamed setup payload deeds error

theorem Deed.Misses.kind {setup : Setup σ} {deed : Deed σ} {error : Error}
    (misses : deed.Misses setup error) : error.kind = .resolution := by
  cases misses <;> exact kind_undefinedHook ..

/-- A precondition that is not met and an event that cannot be sent are found before anything is
done, so an error of these kinds is raised by what is called. -/
theorem Blamed.raises {setup : Setup σ} {payload : Value} {deeds : List (Deed σ)} {error : Error}
    (blamed : Blamed setup payload deeds error)
    (early : error.kind = .precondition ∨ error.kind = .event) :
    ∃ deed ∈ deeds, deed.Raises setup payload error := by
  cases blamed with
  | raised among raises => exact ⟨_, among, raises⟩
  | missed _ misses => rcases early with kind | kind <;> cases misses.kind.symm.trans kind
  | unflushed _ => rcases early with kind | kind <;> cases kind
  | unchained kind' => rcases early with kind | kind <;> cases kind'.symm.trans kind

/-! ### Courses -/

variable [Clocked σ] {setup : Setup σ} {payload : Value}

omit [Clocked σ] in
/-- A call at a stage fails because an identifier stands for nothing, or because what is called
fails. -/
theorem Stage.of_callAssigned {α : Type} {assigned : Assigned σ α} {undefined : String → Error}
    {event : α → Option String} {move : Move} {motion : Motion σ} {error : Error}
    (failed : (callAssigned assigned undefined event move payload motion).1 = .error error) :
    (∃ identifier, assigned = .undefined identifier ∧ undefined identifier = error) ∨
      ∃ callable, assigned = .known callable ∧
        (motion.call callable move payload).1 = .error error := by
  cases assigned with
  | nothing => cases failed
  | undefined identifier => exact .inl ⟨identifier, rfl, Except.error.inj failed⟩
  | known callable =>
    refine .inr ⟨callable, rfl, ?_⟩
    unfold callAssigned at failed
    dsimp only at failed
    cases given : (motion.call callable move payload).1 with
    | ok value => rw [given] at failed; cases failed
    | error raised =>
      rw [given] at failed
      cases failed
      rfl

/-- **The error of a deed comes from somewhere.** -/
theorem Deed.blamed {deed : Deed σ} {error : Error} {deeds : List (Deed σ)} (among : deed ∈ deeds)
    (performed :
      deed.stage.perform setup deed.move payload deed.before = (deed.reply, deed.after))
    (failed : deed.reply = .error error) : Blamed setup payload deeds error := by
  have replied := (congrArg Prod.fst performed).trans failed
  cases reached : deed.stage with
  | hook kind state =>
    rw [reached] at replied
    rcases Stage.of_callAssigned replied with ⟨identifier, unknown, rfl⟩ | ⟨callback, known, raised⟩
    · exact .missed among (.callback reached unknown)
    · exact .raised among (.callback reached known raised)
  | commit => rw [reached] at replied; cases replied
  | flush =>
    rw [reached] at replied
    simp only [Stage.perform, Motion.tell] at replied
    cases set : setup.flushHook with
    | none => rw [set] at replied; cases replied
    | some hook =>
      rw [set] at replied
      dsimp only at replied
      cases said : (hook deed.before.machine deed.before.world).1 with
      | ok told => rw [said] at replied; cases replied
      | error fault =>
        rw [said] at replied
        cases replied
        exact .unflushed fault
  | trigger state =>
    rw [reached] at replied
    rcases Stage.of_callAssigned replied with ⟨identifier, unknown, rfl⟩ | ⟨trigger, known, raised⟩
    · exact .missed among (.trigger reached unknown)
    · exact .raised among (.trigger reached known raised)

/-- The last deed of a block that fails replies with the error. -/
theorem Block.exists_failed {move : Move} {stages : List Stage} {start finish : Motion σ}
    {deeds : List (Deed σ)} {error : Error}
    (block : Block setup payload move stages start deeds (.error error) finish) :
    ∃ deed ∈ deeds, deed.reply = .error error := by
  generalize replied : (Except.error error : StageReply) = reply at block
  induction block with
  | last _ => cases replied
  | failed _ =>
    cases replied
    exact ⟨_, List.mem_cons_self, rfl⟩
  | next _ _ ih =>
    obtain ⟨deed, member, failed⟩ := ih replied
    exact ⟨deed, List.mem_cons_of_mem _ member, failed⟩

/-- **The error of a course comes from somewhere.** -/
theorem Course.blamed {sent : List (Nat × String)} {move : Move} {start finish : Motion σ}
    {blocks : List (List (Deed σ))} {error : Error}
    (course : Course setup payload sent move start blocks (.error error) finish) :
    Blamed setup payload blocks.flatten error := by
  have performed := course.passage.performed
  generalize ended : (Except.error error : Except Error Unit) = result at course
  suffices blamed : (∃ deed ∈ blocks.flatten, deed.reply = .error error) ∨
      error.kind = .triggerConsistency by
    rcases blamed with ⟨deed, among, failed⟩ | kind
    · exact Deed.blamed among (performed deed among) failed
    · exact .unchained kind
  clear performed
  induction course with
  | failed block =>
    cases ended
    rw [List.flatten_singleton]
    exact .inl block.exists_failed
  | settled _ => cases ended
  | refused _ refusal =>
    cases ended
    exact .inr (Setup.kind_of_follow refusal)
  | onward _ _ _ ih =>
    rcases ih ended with ⟨deed, among, failed⟩ | kind
    · exact .inl ⟨deed, List.mem_append_right _ among, failed⟩
    · exact .inr kind

/-! ### Places -/

/-- A transition between places of a chart. -/
structure Move.Within (chart : Chart) (move : Move) : Prop where
  source : ∀ source ∈ move.source, chart.place? source.position = some source
  destination : chart.place? move.destination.position = some move.destination

/-- The stages of a block are among those of its transition. -/
theorem Block.visits {move : Move} {stages : List Stage} {start finish : Motion σ}
    {deeds : List (Deed σ)} {reply : StageReply}
    (block : Block setup payload move stages start deeds reply finish) :
    ∀ deed ∈ deeds, deed.move = move ∧ deed.stage ∈ stages := by
  induction block with
  | last _ => exact List.forall_mem_singleton.2 ⟨rfl, List.mem_cons_self⟩
  | failed _ => exact List.forall_mem_singleton.2 ⟨rfl, List.mem_cons_self⟩
  | next _ _ ih =>
    refine List.forall_mem_cons.2 ⟨⟨rfl, List.mem_cons_self⟩, fun deed member => ?_⟩
    exact ⟨(ih deed member).1, List.mem_cons_of_mem _ (ih deed member).2⟩

/-- **The stages of a course belong to transitions between places of the chart.** -/
theorem Course.visits {sent : List (Nat × String)} {move : Move} {start finish : Motion σ}
    {blocks : List (List (Deed σ))} {result : Except Error Unit}
    (course : Course setup payload sent move start blocks result finish)
    (within : move.Within start.machine.chart) :
    ∀ deed ∈ blocks.flatten,
      deed.move.Within start.machine.chart ∧ deed.stage ∈ deed.move.stages setup := by
  have of_block : ∀ {move : Move} {start finish : Motion σ} {deeds : List (Deed σ)}
      {reply : StageReply},
      Block setup payload move (move.stages setup) start deeds reply finish →
        move.Within start.machine.chart → ∀ deed ∈ deeds,
          deed.move.Within start.machine.chart ∧ deed.stage ∈ deed.move.stages setup := by
    intro move start finish deeds reply block within deed member
    obtain ⟨rfl, among⟩ := block.visits deed member
    exact ⟨within, among⟩
  induction course with
  | failed block => exact List.flatten_singleton ▸ of_block block within
  | settled block => exact List.flatten_singleton ▸ of_block block within
  | refused block _ => exact List.flatten_singleton ▸ of_block block within
  | @onward sent move start middle finish _ event destination _ _ block followed _ ih =>
    have chart : middle.machine.chart = start.machine.chart := by
      rcases block.makes_or_fails with makes | ⟨-, alike⟩
      · exact makes.chart
      · exact alike.chart
    rw [chart] at followed ih
    refine List.forall_mem_append.2 ⟨of_block block within, ih ⟨?_, ?_⟩⟩
    · rintro source ⟨⟩
      exact within.destination
    · exact Chart.place?_of_destination? (Setup.of_follow followed).1

/-! ### Calls -/

namespace Runner

variable {runner : Runner σ} {call : Call}

omit [Clocked σ] in
/-- A call begins with a transition between places of the chart. -/
theorem Begins.within {machine : Machine} {move : Move}
    (begins : runner.Begins call machine move) : move.Within machine.chart := by
  cases begins with
  | start loaded fresh =>
    exact ⟨fun source nowhere => (nomatch nowhere), machine.chart.place?_initial⟩
  | send loaded here leads =>
    refine ⟨?_, Chart.place?_of_destination? leads⟩
    rintro source ⟨⟩
    exact (Machine.current_of_currentPlace? here).2

/-- **A call that fails declines, or its error comes from somewhere.** -/
theorem Conducts.blamed {world : σ} {blocks : List (List (Deed σ))} {outcome : Outcome σ}
    {error : Error} (conducts : runner.Conducts call payload world blocks outcome)
    (failed : outcome.1 = .error error) :
    runner.Declines call (.error error) ∨ Blamed runner.toSetup payload blocks.flatten error := by
  cases conducts with
  | declined declines =>
    cases failed
    exact .inl declines
  | @conducted _ _ _ result _ begins course =>
    cases result with
    | ok done => cases failed
    | error raised =>
      cases failed
      exact .inr course.blamed

end Runner

end Statechart
