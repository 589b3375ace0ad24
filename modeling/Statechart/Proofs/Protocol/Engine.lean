/-
**The engine takes the course of a call.**

The engine is a program in a monad of failures and motions, and a course is a relation that does not
mention it. The engine's steps are rewritten into the stages of a transition, one at a time, until a
chain is a visit of the stages and a decision on the event that comes out of it.

* `Engine.apply_eq`: a transition with its trigger is a visit of its stages.
* `Engine.on_chain`: a chain decides on the event of the trigger as `Setup.follow` does.
* `Engine.transition_course`: what the engine gives and leaves is the end of a course.
-/

import Statechart.Proofs.Protocol.Course

namespace Statechart

open Json

variable {σ α β : Type}

namespace Engine

/-! ### Steps of the engine on a motion -/

/-- What a step of the engine gives and leaves. -/
def on (step : Engine σ α) (motion : Motion σ) : Except Error α × Motion σ :=
  (ExceptT.run step).run motion

/-- Steps that give and leave the same are the same. -/
theorem ext {first second : Engine σ α} (same : ∀ motion, first.on motion = second.on motion) :
    first = second :=
  ExceptT.ext (StateT.ext same)

@[simp] theorem on_pure (value : α) (motion : Motion σ) :
    on (pure value : Engine σ α) motion = (.ok value, motion) := rfl

@[simp] theorem on_throw (error : Error) (motion : Motion σ) :
    on (throw error : Engine σ α) motion = (.error error, motion) := rfl

@[simp] theorem on_get (motion : Motion σ) :
    on (get : Engine σ (Motion σ)) motion = (.ok motion, motion) := rfl

@[simp] theorem on_set (motion next : Motion σ) :
    on (set next : Engine σ PUnit) motion = (.ok ⟨⟩, next) := rfl

@[simp] theorem on_ofExcept (result : Except Error α) (motion : Motion σ) :
    on (MonadExcept.ofExcept result : Engine σ α) motion = (result, motion) := by
  cases result <;> rfl

/-- A failure ends a sequence of steps and leaves the motion as the failed step left it. -/
theorem on_bind (step : Engine σ α) (next : α → Engine σ β) (motion : Motion σ) :
    on (step >>= next) motion =
      match step.on motion with
      | (.ok value, motion) => (next value).on motion
      | (.error error, motion) => (.error error, motion) := by
  unfold on
  rw [ExceptT.run_bind, StateT.run_bind]
  generalize (ExceptT.run step).run motion = left
  change Except Error α × Motion σ at left
  rcases left with ⟨_ | _, _⟩ <;> rfl

/-! ### What is called -/

theorem on_call (callable : Callable σ α) (move : Move) (payload : Value) (motion : Motion σ) :
    on (call callable move payload) motion = motion.call callable move payload := by
  simp [call, Motion.call, on_bind]

/-- The engine looks for a callback where `Assigned.of` does. -/
theorem callback?_eq (setup : Setup σ) (state : State) (kind : HookKind) :
    callback? setup state kind =
      match setup.callbackOf state kind with
      | .nothing => .ok none
      | .known callback => .ok (some callback)
      | .undefined identifier => .error (undefinedHook state.name kind identifier) := by
  unfold callback? Setup.callbackOf Assigned.of
  cases setup.overrides.callback? state.name kind with
  | some callback => rfl
  | none =>
    cases state.hooks.get kind with
    | none => rfl
    | some identifier =>
      dsimp only
      cases setup.resolver.callback? identifier state.name kind <;> rfl

/-- The engine looks for a trigger where `Assigned.of` does. -/
theorem trigger?_eq (setup : Setup σ) (state : State) :
    trigger? setup state =
      match setup.triggerOf state with
      | .nothing => .ok none
      | .known trigger => .ok (some trigger)
      | .undefined identifier => .error (undefinedHook state.name .trigger identifier) := by
  unfold trigger? Setup.triggerOf Assigned.of Hooks.get
  cases setup.overrides.trigger? state.name with
  | some trigger => rfl
  | none =>
    cases state.hooks.trigger with
    | none => rfl
    | some identifier =>
      dsimp only
      cases setup.resolver.trigger? identifier state.name <;> rfl

theorem on_flush (setup : Setup σ) (motion : Motion σ) :
    on (flush setup) motion =
      match setup.flushHook with
      | none => (.ok (), motion)
      | some flushHook => motion.tell flushHook := by
  unfold flush
  cases setup.flushHook with
  | none => rfl
  | some hook =>
    simp only [on_bind, on_get, on_set, Motion.tell]
    rcases hook motion.machine motion.world with ⟨_ | _, _⟩ <;> rfl

/-! ### Stages as steps -/

variable [Clocked σ]

/-- A stage of a transition as a step of the engine. -/
def step (setup : Setup σ) (move : Move) (payload : Value) (stage : Stage) :
    Engine σ (Option String) :=
  ExceptT.mk fun motion => stage.perform setup move payload motion

/-- The stages of a transition, one after the other. -/
def visit (setup : Setup σ) (move : Move) (payload : Value) (stages : List Stage) :
    Engine σ (Option String) :=
  stages.foldlM (fun _ stage => step setup move payload stage) none

section Steps

variable (setup : Setup σ) (move : Move) (payload : Value)

@[simp] theorem on_step (stage : Stage) (motion : Motion σ) :
    on (step setup move payload stage) motion = stage.perform setup move payload motion := rfl

theorem fire_eq (kind : HookKind) (state : State) :
    fire setup kind state move payload =
      (do let _ ← step setup move payload (.hook kind state)) := by
  apply Engine.ext
  intro motion
  unfold fire
  simp only [on_bind, on_ofExcept, on_step, callback?_eq, Stage.perform]
  cases setup.callbackOf state kind with
  | nothing => rfl
  | undefined identifier => rfl
  | known callback =>
    simp only [on_call, Stage.callAssigned]
    rcases motion.call callback move payload with ⟨_ | _, _⟩ <;> rfl

theorem commit_eq : commit setup move payload = (do let _ ← step setup move payload .commit) := by
  apply Engine.ext
  intro motion
  unfold commit
  simp only [on_bind, on_get, on_set, on_step, Stage.perform]
  rfl

theorem flush_eq : flush setup = (do let _ ← step setup move payload .flush) := by
  apply Engine.ext
  intro motion
  simp only [on_flush, on_bind, on_step, Stage.perform]
  cases setup.flushHook with
  | none => rfl
  | some hook =>
    dsimp only
    rcases motion.tell hook with ⟨_ | _, _⟩ <;> rfl

/-- Without a hook nothing is told. -/
theorem step_flush_none (silent : setup.flushHook = none) :
    step setup move payload .flush = pure none := by
  apply Engine.ext
  intro motion
  rw [on_step, on_pure, Stage.perform, silent]

/-- **A transition with its trigger is a visit of its stages.** -/
theorem apply_eq :
    (do
      apply setup move payload
      step setup move payload (.trigger move.destination.state)) =
      visit setup move payload (move.stages setup) := by
  unfold apply leave visit Move.stages Move.departure
  simp only [fire_eq, commit_eq, flush_eq setup move payload]
  -- The stages depend on the source, two options and the hook; in each case both are one sequence.
  cases told : setup.flushHook with
  | none =>
    rw [step_flush_none setup move payload told]
    cases move.source <;> cases setup.options.sourceOnChange <;> simp
  | some hook =>
    cases move.source <;> cases setup.options.sourceOnChange <;> cases setup.autosave <;> simp

/-- The event of a trigger is followed if it leads somewhere. -/
theorem nextMove?_eq :
    nextMove? setup move payload = (do
      match ← step setup move payload (.trigger move.destination.state) with
      | none => return none
      | some event =>
        let { machine, .. } ← get
        match machine.chart.destination? event move.destination.position with
        | some place => return some (event, place)
        | none => throw (.wrongTrigger event move.destination.state.name)) := by
  apply Engine.ext
  intro motion
  unfold nextMove?
  simp only [on_bind, on_ofExcept, on_step, trigger?_eq, Stage.perform]
  cases setup.triggerOf move.destination.state with
  | nothing => rfl
  | undefined identifier => rfl
  | known callback =>
    simp only [on_bind, on_call, Stage.callAssigned]
    rcases motion.call callback move payload with ⟨_ | _, _⟩ <;> rfl

/-- A chain as one transition and what comes of its trigger. -/
theorem chain_eq (left : Nat) (sent : List (Nat × String)) :
    chain setup payload left sent move = (do
      apply setup move payload
      match ← nextMove? setup move payload with
      | none => return ()
      | some (event, destination) =>
        match left with
        | 0 => throw (.triggerChainTooLong setup.options.maxTriggerDepth)
        | left + 1 =>
          if setup.options.detectTriggerCycles ∧ (move.destination.position, event) ∈ sent then
            throw (.triggerCycle move.destination.state.name event)
          else
            chain setup payload left ((move.destination.position, event) :: sent)
              (.between .trigger event move.destination destination)) := by
  rw [chain.eq_def]
  refine bind_congr fun _ => bind_congr fun next? => ?_
  rcases next? with _ | ⟨event, destination⟩
  · rfl
  · cases left with
    | zero => rfl
    | succ left => simp

end Steps

/-! ### Visits and chains on a motion -/

section Motions

variable (setup : Setup σ) (payload : Value)

/-- **A chain decides on the event of the trigger as its setup says.** The transitions that are left
and those that were chained are as many as there may be. -/
theorem on_chain {left : Nat} {sent : List (Nat × String)}
    (budget : left + sent.length = setup.options.maxTriggerDepth) (move : Move)
    (motion : Motion σ) :
    on (chain setup payload left sent move) motion =
      match on (visit setup move payload (move.stages setup)) motion with
      | (.error error, motion) => (.error error, motion)
      | (.ok none, motion) => (.ok (), motion)
      | (.ok (some event), motion) =>
        match setup.follow sent motion.machine.chart move.destination event with
        | .error error => (.error error, motion)
        | .ok destination =>
          on (chain setup payload (left - 1) ((move.destination.position, event) :: sent)
            (.between .trigger event move.destination destination)) motion := by
  rw [chain_eq, ← apply_eq, on_bind, on_bind]
  rcases on (apply setup move payload) motion with ⟨_ | _, applied⟩
  · rfl
  simp only [on_bind, nextMove?_eq, on_step]
  rcases Stage.perform setup move payload (.trigger move.destination.state) applied with
    ⟨_ | _ | event, asked⟩
  · rfl
  · rfl
  simp only [on_bind, on_get, Setup.follow]
  cases asked.machine.chart.destination? event move.destination.position with
  | none => rfl
  | some destination =>
    cases left with
    | zero =>
      have deep : setup.options.maxTriggerDepth ≤ sent.length := by omega
      simp only [on_pure, deep, if_true]
      rfl
    | succ left =>
      have shallow : ¬ setup.options.maxTriggerDepth ≤ sent.length := by omega
      simp only [on_pure, shallow, if_false, Nat.add_sub_cancel]
      by_cases repeated :
          setup.options.detectTriggerCycles ∧ (move.destination.position, event) ∈ sent
      · simp only [if_pos repeated, on_throw]
      · simp only [if_neg repeated]

/-- A visit of stages is a block. -/
theorem visit_block (move : Move) {stages : List Stage} (occupied : stages ≠ [])
    (motion : Motion σ) :
    ∃ deeds, Block setup payload move stages motion deeds
      (on (visit setup move payload stages) motion).1
      (on (visit setup move payload stages) motion).2 := by
  unfold visit
  -- What the stages before replied is thrown away, so the induction is for any such reply.
  generalize (none : Option String) = before
  induction stages generalizing before motion with
  | nil => exact absurd rfl occupied
  | cons stage later ih =>
    rw [List.foldlM_cons, on_bind, on_step]
    rcases performed : stage.perform setup move payload motion with ⟨error | event, next⟩
    · exact ⟨_, .failed performed⟩
    · by_cases further : later = []
      · subst further
        exact ⟨_, .last performed⟩
      · obtain ⟨deeds, rest⟩ := ih further next event
        exact ⟨_, .next performed rest⟩

/-- A chain takes a course. -/
theorem chain_course (left : Nat) (sent : List (Nat × String))
    (budget : left + sent.length = setup.options.maxTriggerDepth) (move : Move)
    (motion : Motion σ) :
    ∃ blocks, Course setup payload sent move motion blocks
      (on (chain setup payload left sent move) motion).1
      (on (chain setup payload left sent move) motion).2 := by
  induction left using Nat.strongRecOn generalizing sent move motion with
  | ind left ih =>
    obtain ⟨deeds, block⟩ :=
      visit_block setup payload move (move.stages_ne_nil setup) motion
    rw [on_chain setup payload budget]
    revert block
    rcases on (visit setup move payload (move.stages setup)) motion with ⟨error | _ | event, next⟩
    · exact fun block => ⟨_, .failed block⟩
    · exact fun block => ⟨_, .settled block⟩
    · intro block
      dsimp only at block ⊢
      rcases decision : setup.follow sent next.machine.chart move.destination event with
        refusal | destination
      · exact ⟨_, .refused block decision⟩
      · have short := (Setup.of_follow decision).2
        obtain ⟨blocks, rest⟩ := ih (left - 1) (by omega)
          ((move.destination.position, event) :: sent) (by rw [List.length_cons]; omega)
          (.between .trigger event move.destination destination) next
        exact ⟨_, .onward block decision rest⟩

/-- **What the engine gives and leaves is the end of a course.** -/
theorem transition_course (move : Move) (motion : Motion σ) :
    ∃ blocks, Course setup payload [] move motion blocks
      (on (transition setup move payload) motion).1
      (on (transition setup move payload) motion).2 :=
  chain_course setup payload _ [] (Nat.add_zero _) move motion

end Motions

end Engine

end Statechart
