/-
**The course of a call.**

One call of a runner makes a transition and then those that its triggers ask for. Its course is a
list of blocks, one for each transition, and a block is a list of deeds, one for each stage that the
transition came to. The relations of this module say which courses are right.

* `Block`: the stages of one transition in their order, up to the first that fails.
* `Setup.follow`: whether a chain goes on with the event that a trigger gave, and where.
* `Course`: one block for the first transition, and a further one for each event that is followed.
* `Block.unique`, `Course.unique`: a course is determined by where it starts.
* `Passage`: the deeds of a course without its blocks, for what every stage keeps.
-/

import Statechart.Proofs.Protocol.Stage

namespace Statechart

open Json

variable {σ : Type}

/-- One stage of a transition as it was gone through. -/
structure Deed (σ : Type) where
  move : Move
  stage : Stage
  before : Motion σ
  reply : StageReply
  after : Motion σ

/-- Whether a chain that sent some events before goes on with the event that the trigger of a place
gave: the event has to lead somewhere from there, the chain has to be short enough, and it may not
repeat itself if that is watched for. -/
def Setup.follow (setup : Setup σ) (sent : List (Nat × String)) (chart : Chart) (source : Place)
    (event : String) : Except Error Place :=
  match chart.destination? event source.position with
  | none => .error (.wrongTrigger event source.state.name)
  | some destination =>
    if setup.options.maxTriggerDepth ≤ sent.length then
      .error (.triggerChainTooLong setup.options.maxTriggerDepth)
    else if setup.options.detectTriggerCycles ∧ (source.position, event) ∈ sent then
      .error (.triggerCycle source.state.name event)
    else .ok destination

/-- What is followed leads on from where the chain is, in a chain that is short enough. -/
theorem Setup.of_follow {setup : Setup σ} {sent : List (Nat × String)} {chart : Chart}
    {source destination : Place} {event : String}
    (followed : setup.follow sent chart source event = .ok destination) :
    chart.destination? event source.position = some destination ∧
      sent.length < setup.options.maxTriggerDepth := by
  unfold Setup.follow at followed
  cases leads : chart.destination? event source.position with
  | none => rw [leads] at followed; cases followed
  | some reached =>
    rw [leads] at followed
    dsimp only at followed
    split at followed
    · cases followed
    · next room =>
      split at followed
      · cases followed
      · cases followed
        exact ⟨rfl, Nat.lt_of_not_le room⟩

variable [Clocked σ]

/-- **A block.** The stages of a transition are gone through in their order, each from where the one
before left, up to the first that fails. The block replies with that failure, or else with what the
last stage replies. -/
inductive Block (setup : Setup σ) (payload : Value) (move : Move) :
    List Stage → Motion σ → List (Deed σ) → StageReply → Motion σ → Prop
  | last {stage : Stage} {start finish : Motion σ} {event : Option String}
      (performed : stage.perform setup move payload start = (.ok event, finish)) :
      Block setup payload move [stage] start [⟨move, stage, start, .ok event, finish⟩] (.ok event)
        finish
  | failed {stage : Stage} {later : List Stage} {start finish : Motion σ} {error : Error}
      (performed : stage.perform setup move payload start = (.error error, finish)) :
      Block setup payload move (stage :: later) start [⟨move, stage, start, .error error, finish⟩]
        (.error error) finish
  | next {stage : Stage} {later : List Stage} {start middle finish : Motion σ}
      {event : Option String} {deeds : List (Deed σ)} {reply : StageReply}
      (performed : stage.perform setup move payload start = (.ok event, middle))
      (rest : Block setup payload move later middle deeds reply finish) :
      Block setup payload move (stage :: later) start
        (⟨move, stage, start, .ok event, middle⟩ :: deeds) reply finish

/-- **A course.** The first block is that of a transition. The call ends with the block if the block
fails, if no trigger gives an event, or if the event is not followed. Else the course goes on with
the transition on that event, from the place that was reached and with the same payload. -/
inductive Course (setup : Setup σ) (payload : Value) :
    List (Nat × String) → Move → Motion σ → List (List (Deed σ)) → Except Error Unit → Motion σ →
      Prop
  | failed {sent : List (Nat × String)} {move : Move} {start finish : Motion σ}
      {deeds : List (Deed σ)} {error : Error}
      (block : Block setup payload move (move.stages setup) start deeds (.error error) finish) :
      Course setup payload sent move start [deeds] (.error error) finish
  | settled {sent : List (Nat × String)} {move : Move} {start finish : Motion σ}
      {deeds : List (Deed σ)}
      (block : Block setup payload move (move.stages setup) start deeds (.ok none) finish) :
      Course setup payload sent move start [deeds] (.ok ()) finish
  | refused {sent : List (Nat × String)} {move : Move} {start finish : Motion σ}
      {deeds : List (Deed σ)} {event : String} {error : Error}
      (block : Block setup payload move (move.stages setup) start deeds (.ok (some event)) finish)
      (refusal : setup.follow sent finish.machine.chart move.destination event = .error error) :
      Course setup payload sent move start [deeds] (.error error) finish
  | onward {sent : List (Nat × String)} {move : Move} {start middle finish : Motion σ}
      {deeds : List (Deed σ)} {event : String} {destination : Place}
      {blocks : List (List (Deed σ))} {result : Except Error Unit}
      (block : Block setup payload move (move.stages setup) start deeds (.ok (some event)) middle)
      (followed : setup.follow sent middle.machine.chart move.destination event = .ok destination)
      (rest : Course setup payload ((move.destination.position, event) :: sent)
        (.between .trigger event move.destination destination) middle blocks result finish) :
      Course setup payload sent move start (deeds :: blocks) result finish

/-- Deeds one after the other, each done as its stage says and from where the one before left. -/
inductive Passage (setup : Setup σ) (payload : Value) :
    Motion σ → List (Deed σ) → Motion σ → Prop
  | done (motion : Motion σ) : Passage setup payload motion [] motion
  | step {move : Move} {stage : Stage} {start middle finish : Motion σ} {reply : StageReply}
      {deeds : List (Deed σ)} (performed : stage.perform setup move payload start = (reply, middle))
      (rest : Passage setup payload middle deeds finish) :
      Passage setup payload start (⟨move, stage, start, reply, middle⟩ :: deeds) finish

section Relations

variable {setup : Setup σ} {payload : Value} {move : Move}

/-! ### One block for each start -/

/-- What a stage gives is determined by where it starts. -/
theorem perform_unique {stage : Stage} {start finish finish' : Motion σ} {reply reply' : StageReply}
    (first : stage.perform setup move payload start = (reply, finish))
    (second : stage.perform setup move payload start = (reply', finish')) :
    reply = reply' ∧ finish = finish' := by
  rw [first] at second
  exact ⟨congrArg Prod.fst second, congrArg Prod.snd second⟩

/-- **The block of some stages is determined by where it starts.** -/
theorem Block.unique {stages : List Stage} {start finish finish' : Motion σ}
    {deeds deeds' : List (Deed σ)} {reply reply' : StageReply}
    (first : Block setup payload move stages start deeds reply finish)
    (second : Block setup payload move stages start deeds' reply' finish') :
    deeds = deeds' ∧ reply = reply' ∧ finish = finish' := by
  induction first generalizing deeds' reply' finish' with
  | last performed =>
    cases second with
    | last performed' =>
      obtain ⟨same, rfl⟩ := perform_unique performed performed'
      cases same
      exact ⟨rfl, rfl, rfl⟩
    | failed performed' => cases (perform_unique performed performed').1
    | next _ rest => cases rest
  | failed performed =>
    cases second with
    | last performed' => cases (perform_unique performed performed').1
    | failed performed' =>
      obtain ⟨same, rfl⟩ := perform_unique performed performed'
      cases same
      exact ⟨rfl, rfl, rfl⟩
    | next performed' _ => cases (perform_unique performed performed').1
  | next performed rest ih =>
    cases second with
    | last _ => cases rest
    | failed performed' => cases (perform_unique performed performed').1
    | next performed' rest' =>
      obtain ⟨same, rfl⟩ := perform_unique performed performed'
      cases same
      obtain ⟨rfl, rfl, rfl⟩ := ih rest'
      exact ⟨rfl, rfl, rfl⟩

/-- **The course of a call is determined by where it starts.** -/
theorem Course.unique {sent : List (Nat × String)} {start finish finish' : Motion σ}
    {blocks blocks' : List (List (Deed σ))} {result result' : Except Error Unit}
    (first : Course setup payload sent move start blocks result finish)
    (second : Course setup payload sent move start blocks' result' finish') :
    blocks = blocks' ∧ result = result' ∧ finish = finish' := by
  induction first generalizing blocks' result' finish' with
  | failed block =>
    cases second with
    | failed block' =>
      obtain ⟨rfl, same, rfl⟩ := block.unique block'
      cases same
      exact ⟨rfl, rfl, rfl⟩
    | settled block' => cases (block.unique block').2.1
    | refused block' _ => cases (block.unique block').2.1
    | onward block' _ _ => cases (block.unique block').2.1
  | settled block =>
    cases second with
    | failed block' => cases (block.unique block').2.1
    | settled block' =>
      obtain ⟨rfl, _, rfl⟩ := block.unique block'
      exact ⟨rfl, rfl, rfl⟩
    | refused block' _ => cases (block.unique block').2.1
    | onward block' _ _ => cases (block.unique block').2.1
  | refused block refusal =>
    cases second with
    | failed block' => cases (block.unique block').2.1
    | settled block' => cases (block.unique block').2.1
    | refused block' refusal' =>
      obtain ⟨rfl, same, rfl⟩ := block.unique block'
      cases same
      cases refusal.symm.trans refusal'
      exact ⟨rfl, rfl, rfl⟩
    | onward block' followed _ =>
      obtain ⟨rfl, same, rfl⟩ := block.unique block'
      cases same
      cases refusal.symm.trans followed
  | onward block followed _ ih =>
    cases second with
    | failed block' => cases (block.unique block').2.1
    | settled block' => cases (block.unique block').2.1
    | refused block' refusal =>
      obtain ⟨rfl, same, rfl⟩ := block.unique block'
      cases same
      cases followed.symm.trans refusal
    | onward block' followed' rest' =>
      obtain ⟨rfl, same, rfl⟩ := block.unique block'
      cases same
      cases followed.symm.trans followed'
      obtain ⟨rfl, rfl, rfl⟩ := ih rest'
      exact ⟨rfl, rfl, rfl⟩

/-! ### Deeds without blocks -/

/-- A passage may be followed by another one. -/
theorem Passage.append {start middle finish : Motion σ} {first second : List (Deed σ)}
    (before : Passage setup payload start first middle)
    (after : Passage setup payload middle second finish) :
    Passage setup payload start (first ++ second) finish := by
  induction before with
  | done => exact after
  | step performed _ ih => exact .step performed (ih after)

/-- The deeds of a block follow each other. -/
theorem Block.passage {stages : List Stage} {start finish : Motion σ} {deeds : List (Deed σ)}
    {reply : StageReply} (block : Block setup payload move stages start deeds reply finish) :
    Passage setup payload start deeds finish := by
  induction block with
  | last performed => exact .step performed (.done _)
  | failed performed => exact .step performed (.done _)
  | next performed _ ih => exact .step performed ih

/-- The deeds of a course follow each other. -/
theorem Course.passage {sent : List (Nat × String)} {start finish : Motion σ}
    {blocks : List (List (Deed σ))} {result : Except Error Unit}
    (course : Course setup payload sent move start blocks result finish) :
    Passage setup payload start blocks.flatten finish := by
  induction course with
  | failed block => simpa using block.passage
  | settled block => simpa using block.passage
  | refused block _ => simpa using block.passage
  | onward block _ _ ih => exact block.passage.append ih

/-- **What every stage keeps, a passage keeps.** -/
theorem Passage.keeps {P : Motion σ → Prop} {start finish : Motion σ} {deeds : List (Deed σ)}
    (passage : Passage setup payload start deeds finish)
    (kept : ∀ deed ∈ deeds, P deed.before → P (deed.stage.perform setup deed.move payload
      deed.before).2)
    (initially : P start) : P finish := by
  induction passage with
  | done => exact initially
  | step performed _ ih =>
    refine ih (fun later member => kept later (List.mem_cons_of_mem _ member)) ?_
    have here := kept _ List.mem_cons_self initially
    rwa [performed] at here

/-- What every stage keeps holds before and after each deed of a passage. -/
theorem Passage.throughout {P : Motion σ → Prop} {start finish : Motion σ} {deeds : List (Deed σ)}
    (passage : Passage setup payload start deeds finish)
    (kept : ∀ deed ∈ deeds, P deed.before → P (deed.stage.perform setup deed.move payload
      deed.before).2)
    (initially : P start) : ∀ deed ∈ deeds, P deed.before ∧ P deed.after := by
  induction passage with
  | done => exact fun deed member => nomatch member
  | step performed _ ih =>
    have here := kept _ List.mem_cons_self initially
    rw [performed] at here
    refine List.forall_mem_cons.2 ⟨⟨initially, here⟩, ?_⟩
    exact ih (fun later member => kept later (List.mem_cons_of_mem _ member)) here

/-- Each deed of a passage does what its stage says. -/
theorem Passage.performed {start finish : Motion σ} {deeds : List (Deed σ)}
    (passage : Passage setup payload start deeds finish) :
    ∀ deed ∈ deeds,
      deed.stage.perform setup deed.move payload deed.before = (deed.reply, deed.after) := by
  induction passage with
  | done => exact fun deed member => nomatch member
  | step performed _ ih => exact List.forall_mem_cons.2 ⟨performed, ih⟩

end Relations

end Statechart
