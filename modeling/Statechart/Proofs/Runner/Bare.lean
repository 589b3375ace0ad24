/-
**Charts without callables.**

A runner that knows no identifier and verifies callables takes a machine only if its chart declares
none. Every transition of such a machine is made at once: nothing is called, the machine moves, and
the flush hook is told. A call that begins with a transition fails only if the hook refuses.

* `Setup.Bare`: nothing is called for the states of a chart.
* `Setup.Bare.course`: the course of a transition where nothing is called.
* `Runner.make_of_bare`: what a call gives and leaves then.
-/

import Statechart.Proofs.Runner.Verification

namespace Statechart

open Json

variable {σ : Type} {setup : Setup σ} {chart : Chart} {move : Move}

/-! ### What is not called -/

/-- **Nothing is called for any state of a chart.** -/
structure Setup.Bare (setup : Setup σ) (chart : Chart) : Prop where
  callbacks : ∀ state ∈ chart.states, ∀ kind, setup.callbackOf state kind = .nothing
  triggers : ∀ state ∈ chart.states, setup.triggerOf state = .nothing

/-- A chart that is complete where no identifier stands for anything declares none. -/
theorem Setup.Complete.bare (complete : setup.Complete chart) (unresolved : setup.resolver = .none)
    (unbound : setup.overrides = ∅) : setup.Bare chart := by
  have undeclared : ∀ state ∈ chart.states, ∀ kind, state.hooks.get kind = none := by
    intro state member kind
    cases declared : state.hooks.get kind with
    | none => rfl
    | some identifier =>
      have provides := complete state member kind identifier declared
      rw [unresolved, unbound] at provides
      cases kind <;> exact absurd provides (by rintro (covers | resolves) <;> contradiction)
  refine ⟨fun state member kind => ?_, fun state member => ?_⟩
  · unfold callbackOf
    rw [undeclared state member kind, unbound]
    cases kind <;> rfl
  · unfold triggerOf
    rw [undeclared state member .trigger, unbound]
    rfl

/-- A hook where nothing is called declares nothing. -/
theorem Assigned.declared_of_nothing {α : Type} {bound : Option (Callable σ α)}
    {declared : Option String} {resolve : String → Option (Callable σ α)}
    (nothing : Assigned.of bound declared resolve = .nothing) : declared = none := by
  cases declared with
  | none => rfl
  | some identifier =>
    unfold Assigned.of at nothing
    cases bound with
    | some callable => cases nothing
    | none =>
      dsimp only at nothing
      split at nothing <;> cases nothing

/-- A chart where nothing is called is complete. -/
theorem Setup.Bare.complete (bare : setup.Bare chart) : setup.Complete chart := by
  intro state member kind identifier declared
  cases (Assigned.declared_of_nothing (bare.callbacks state member kind)).symm.trans declared

/-! ### The course of a transition -/

/-- What the flush hook says of a motion, if it is told. -/
def Setup.flushed (setup : Setup σ) (motion : Motion σ) : Except Error Unit × Motion σ :=
  match setup.autosave, setup.flushHook with
  | true, some hook => motion.tell hook
  | _, _ => (.ok (), motion)

variable [Clocked σ] {payload : Value}

/-- Stages at which nothing happens may stand before those of a block. -/
theorem Block.after {before later : List Stage} {start finish : Motion σ} {deeds : List (Deed σ)}
    {reply : StageReply} (block : Block setup payload move later start deeds reply finish)
    (idle : ∀ stage ∈ before, stage.perform setup move payload start = (.ok none, start)) :
    ∃ deeds', Block setup payload move (before ++ later) start deeds' reply finish := by
  induction before with
  | nil => exact ⟨deeds, block⟩
  | cons stage before ih =>
    obtain ⟨deeds', rest⟩ := ih fun other member => idle other (List.mem_cons_of_mem _ member)
    exact ⟨_, .next (idle stage List.mem_cons_self) rest⟩

/-- The flush hook is told in a block, if it is told at all. -/
theorem Block.flushed {later : List Stage} {start told finish : Motion σ} {deeds : List (Deed σ)}
    {reply : StageReply} (block : Block setup payload move later told deeds reply finish)
    (agreed : setup.flushed start = (.ok (), told)) :
    ∃ deeds', Block setup payload move
      ((if setup.autosave && setup.flushHook.isSome then [.flush] else []) ++ later) start deeds'
      reply finish := by
  unfold Setup.flushed at agreed
  cases flushes : setup.autosave with
  | false =>
    rw [flushes] at agreed
    cases agreed
    exact ⟨deeds, block⟩
  | true =>
    cases hooked : setup.flushHook with
    | none =>
      rw [flushes, hooked] at agreed
      cases agreed
      exact ⟨deeds, block⟩
    | some hook =>
      rw [flushes, hooked] at agreed
      have performed :
          Stage.perform setup move payload .flush start = (.ok none, told) := by
        unfold Stage.perform
        rw [hooked]
        dsimp only at agreed ⊢
        rw [agreed]
        rfl
      exact ⟨_, .next performed block⟩

namespace Setup.Bare

/-- Nothing happens at the hooks of a chart's places. -/
theorem perform_hook (bare : setup.Bare chart) {place : Place}
    (stands : chart.place? place.position = some place) (kind : HookKind) (motion : Motion σ) :
    Stage.perform setup move payload (.hook kind place.state) motion = (.ok none, motion) := by
  unfold Stage.perform
  dsimp only
  rw [bare.callbacks place.state (Chart.mem_of_place? stands) kind]
  rfl

/-- Nothing happens at the trigger of a chart's place. -/
theorem perform_trigger (bare : setup.Bare chart) {place : Place}
    (stands : chart.place? place.position = some place) (motion : Motion σ) :
    Stage.perform setup move payload (.trigger place.state) motion = (.ok none, motion) := by
  unfold Stage.perform
  dsimp only
  rw [bare.triggers place.state (Chart.mem_of_place? stands)]
  rfl

/-- **The course of a transition where nothing is called**: the machine moves, and the flush hook is
told. -/
theorem course (bare : setup.Bare chart) (within : move.Within chart)
    (sent : List (Nat × String)) {start finish : Motion σ}
    (agreed : setup.flushed (start.commit setup.options.mergePayload move payload) =
      (.ok (), finish)) :
    ∃ deeds, Course setup payload sent move start [deeds] (.ok ()) finish := by
  have arrival := within.destination
  have leaving : ∀ stage ∈ move.departure setup.options,
      stage.perform setup move payload start = (.ok none, start) := by
    intro stage member
    unfold Move.departure at member
    split at member
    · cases member
    · next source there =>
      have stands := within.source source there
      rcases List.mem_cons.1 member with rfl | among
      · exact bare.perform_hook stands ..
      · split at among
        · obtain rfl := List.mem_singleton.1 among
          exact bare.perform_hook stands ..
        · cases among
  have ending : Block setup payload move
      [.hook .onChange move.destination.state, .hook .action move.destination.state,
        .trigger move.destination.state] finish _ (.ok none) finish :=
    .next (bare.perform_hook arrival ..) (.next (bare.perform_hook arrival ..)
      (.last (bare.perform_trigger arrival _)))
  obtain ⟨told, telling⟩ := ending.flushed agreed
  have moving : Block setup payload move (.commit :: _) start _ (.ok none) finish :=
    .next rfl telling
  have entering : ∀ stage ∈ [Stage.hook .onEnter move.destination.state],
      stage.perform setup move payload start = (.ok none, start) :=
    List.forall_mem_singleton.2 (bare.perform_hook arrival ..)
  obtain ⟨deeds, block⟩ := moving.after (List.forall_mem_append.2 ⟨leaving, entering⟩)
  refine ⟨deeds, .settled ?_⟩
  unfold Move.stages
  simpa using block

end Setup.Bare

/-- **A call where nothing is called** makes its transition, and succeeds if the flush hook agrees
to it. -/
theorem Runner.make_of_bare {runner : Runner σ} {call : Call} {machine : Machine} {world : σ}
    (begins : runner.Begins call machine move) (bare : runner.toSetup.Bare machine.chart)
    {finish : Motion σ}
    (agreed : runner.toSetup.flushed
      (Motion.commit { machine, world } runner.options.mergePayload move payload) =
        (.ok (), finish)) :
    runner.make call payload world =
      (.ok true, { runner with machine := some finish.machine }, finish.world) := by
  obtain ⟨deeds, course⟩ := bare.course begins.within [] agreed
  obtain ⟨blocks, unique⟩ := runner.conducts_iff call payload world
  exact ((unique _ _).1 (.conducted begins course)).2.symm

end Statechart
