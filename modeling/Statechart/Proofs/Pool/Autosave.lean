/-
**What a call leaves in the store.**

A runner whose hook is that of a pool, and which is to call it, writes its machine right after each
commit. So when a call ends, be it well or with an error, its key has the machine as of the last
commit of the call, whatever is called after that. A runner that is not to call its hook, or has
another one that leaves the store alone, writes nothing.

* `lastCommitted?`: the machine as of the last commit among some deeds.
* `Runner.Tuned`: a runner that writes each commit under a key.
* `Runner.Mute`: a runner that writes nothing.
* `Runner.Conducts.saves`, `Runner.Conducts.spare`: what their calls leave in the store.
* `Runner.Conducts.committed`: a call that makes a transition has a last commit.
-/

import Statechart.Proofs.Pool.Sparing
import Statechart.Proofs.Protocol.Blame

namespace Statechart

open Json

variable {σ : Type} {kept : σ → MachineKey → Option Bytes} {store : MachineStore σ}

/-! ### The last commit -/

/-- The machine that a deed commits, if it is a commit. -/
def Deed.committed? (deed : Deed σ) : Option Machine :=
  match deed.stage with
  | .commit => some deed.after.machine
  | _ => none

/-- **The machine as of the last commit** among some deeds. -/
def lastCommitted? (deeds : List (Deed σ)) : Option Machine :=
  (deeds.filterMap Deed.committed?).getLast?

section Commits

variable {deeds deeds' : List (Deed σ)} {deed : Deed σ}

theorem Deed.committed?_eq_none (other : deed.stage ≠ .commit) : deed.committed? = none := by
  unfold committed?
  split
  · next here => exact absurd here other
  · rfl

theorem Deed.committed?_eq_some (here : deed.stage = .commit) :
    deed.committed? = some deed.after.machine := by
  unfold committed?
  rw [here]

theorem lastCommitted?_append : lastCommitted? (deeds ++ deeds') =
    (lastCommitted? deeds').or (lastCommitted? deeds) := by
  unfold lastCommitted?
  rw [List.filterMap_append, List.getLast?_append]

theorem lastCommitted?_eq_none (quiet : ∀ deed ∈ deeds, deed.stage ≠ .commit) :
    lastCommitted? deeds = none := by
  unfold lastCommitted?
  rw [List.filterMap_eq_nil_iff.2 fun deed member => Deed.committed?_eq_none (quiet deed member)]
  rfl

theorem lastCommitted?_ne_none (member : deed ∈ deeds) (here : deed.stage = .commit) :
    lastCommitted? deeds ≠ none := by
  unfold lastCommitted?
  rw [Ne, List.getLast?_eq_none_iff, List.filterMap_eq_nil_iff]
  intro quiet
  cases (Deed.committed?_eq_some here).symm.trans (quiet deed member)

/-- A deed that is no commit does not count. -/
theorem lastCommitted?_cons (other : deed.stage ≠ .commit) :
    lastCommitted? (deed :: deeds) = lastCommitted? deeds := by
  unfold lastCommitted?
  rw [List.filterMap_cons_none (Deed.committed?_eq_none other)]

end Commits

/-- What is kept after a machine is written under a key, if there is one to write. -/
def savedUnder (dumps : MachineKey → Option Bytes) (key : MachineKey) :
    Option Machine → MachineKey → Option Bytes
  | none => dumps
  | some machine => Function.update dumps key (some (machine.encode .binary))

/-- Of two machines that are written one after the other the second stays. -/
theorem savedUnder_savedUnder (dumps : MachineKey → Option Bytes) (key : MachineKey)
    (first second : Option Machine) :
    savedUnder (savedUnder dumps key first) key second =
      savedUnder dumps key (second.or first) := by
  cases second with
  | none => rfl
  | some machine =>
    cases first with
    | none => rfl
    | some old => exact Function.update_idem ..

/-! ### Setups whose callables spare a store -/

/-- All callables leave alone what is kept. -/
structure Setup.Spares (kept : σ → MachineKey → Option Bytes) (setup : Setup σ) : Prop where
  resolver : setup.resolver.Spares kept
  overrides : Overrides.Spares kept setup.overrides

variable {setup : Setup σ} {payload : Value} {move : Move} {key : MachineKey}

theorem Runner.Tied.spares {runner : Runner σ} {entry : Option MachineKey}
    (tied : runner.Tied kept store entry) : runner.toSetup.Spares kept :=
  ⟨tied.resolver, tied.overrides⟩

/-- Without its hook such a setup is tied to no key. -/
theorem Setup.Spares.tied (spares : setup.Spares kept) (store : MachineStore σ) :
    ({ setup with flushHook := none, machine := none } : Runner σ).Tied kept store none :=
  ⟨spares.resolver, spares.overrides, fun _ set => nomatch set⟩

/-- What is written under no entry is not written. -/
theorem Written.eq_of_none {owner : Option MachineKey} {first second : σ}
    (written : Written kept none owner first second) : kept second = kept first := by
  rcases written with same | ⟨target, told, under, -⟩
  · exact same
  · cases under

section Stages

variable [Clocked σ] {start finish : Motion σ} {deeds : List (Deed σ)} {reply : StageReply}
  {stages : List Stage}

/-- A stage that does not flush leaves alone what is kept. -/
theorem Stage.spare_perform (keeps : store.Keeps kept) (clock : Clocked.Spares kept)
    (spares : setup.Spares kept) {stage : Stage} (other : stage ≠ .flush) (move : Move)
    (payload : Value) (motion : Motion σ) :
    kept (stage.perform setup move payload motion).2.world = kept motion.world := by
  have still : motion.Steady kept none motion := ⟨rfl, .inl rfl⟩
  have steady := still.perform keeps clock (spares.tied store) move payload stage
  cases stage with
  | flush => exact absurd rfl other
  | hook kind state => exact steady.2.eq_of_none
  | commit => exact steady.2.eq_of_none
  | trigger state => exact steady.2.eq_of_none

/-- A stage that calls the hook of a pool writes the machine, as saves do not fail. -/
theorem Stage.flush_saves (keeps : store.Keeps kept)
    (saves : ∀ key bytes world, (store.save key bytes world).1 = .ok ())
    (hooked : setup.flushHook = some (Pool.autosaveHook store key)) (move : Move)
    (payload : Value) (motion : Motion σ) :
    ∃ world, Stage.flush.perform setup move payload motion = (.ok none, { motion with world }) ∧
      kept world = savedUnder (kept motion.world) key (some motion.machine) := by
  have done := saves key (motion.machine.encode .binary) motion.world
  rcases saved : store.save key (motion.machine.encode .binary) motion.world with ⟨fault | _, world⟩
  · rw [saved] at done
    cases done
  · refine ⟨world, ?_, keeps.saved saved⟩
    unfold Stage.perform
    rw [hooked]
    dsimp only
    unfold Motion.tell Pool.autosaveHook
    rw [saved]
    rfl

/-- Stages that do not flush leave alone what is kept. -/
theorem Block.spare (keeps : store.Keeps kept) (clock : Clocked.Spares kept)
    (spares : setup.Spares kept) (quiet : ∀ stage ∈ stages, stage ≠ .flush)
    (block : Block setup payload move stages start deeds reply finish) :
    kept finish.world = kept start.world := by
  refine block.passage.keeps (P := fun motion => kept motion.world = kept start.world) ?_ rfl
  intro deed member before
  have other := quiet deed.stage (block.visits deed member).2
  exact (Stage.spare_perform keeps clock spares other _ _ _).trans before

/-- **Stages that flush right after their commit leave the machine as of the commit.** -/
theorem Block.saves_of (keeps : store.Keeps kept)
    (saves : ∀ key bytes world, (store.save key bytes world).1 = .ok ())
    (clock : Clocked.Spares kept) (spares : setup.Spares kept)
    (hooked : setup.flushHook = some (Pool.autosaveHook store key)) {before after : List Stage}
    (early : ∀ stage ∈ before, stage ≠ .commit ∧ stage ≠ .flush)
    (late : ∀ stage ∈ after, stage ≠ .commit ∧ stage ≠ .flush)
    (block : Block setup payload move (before ++ .commit :: .flush :: after) start deeds reply
      finish) :
    kept finish.world = savedUnder (kept start.world) key (lastCommitted? deeds) := by
  induction before generalizing start deeds with
  | nil =>
    rw [List.nil_append] at block
    cases block with
    | failed performed => cases performed
    | @next _ _ _ middle _ event _ _ performed rest =>
      have committed := Stage.spare_perform keeps clock spares
        (show Stage.commit ≠ .flush from nofun) move payload start
      rw [performed] at committed
      obtain ⟨world, flushed, saved⟩ := Stage.flush_saves keeps saves hooked move payload middle
      cases rest with
      | last performed' =>
        cases performed'.symm.trans flushed
        rw [← committed]
        exact saved
      | failed performed' => cases performed'.symm.trans flushed
      | @next _ _ _ _ _ _ deeds _ performed' rest' =>
        cases performed'.symm.trans flushed
        have still := rest'.spare keeps clock spares fun stage member => (late stage member).2
        have nothing : lastCommitted? (⟨move, .flush, middle, .ok none, { middle with world }⟩ ::
            deeds) = none :=
          lastCommitted?_eq_none (List.forall_mem_cons.2 ⟨nofun, fun deed member =>
            (late deed.stage (rest'.visits deed member).2).1⟩)
        rw [← List.singleton_append, lastCommitted?_append, nothing, ← committed, still]
        exact saved
  | cons stage before ih =>
    have alone : before ++ .commit :: .flush :: after ≠ [] := by simp
    have here := early stage List.mem_cons_self
    rw [List.cons_append] at block
    generalize before ++ .commit :: .flush :: after = later at block ih alone
    have first := Stage.spare_perform keeps clock spares here.2 move payload start
    cases block with
    | last performed => exact absurd rfl alone
    | failed performed =>
      rw [performed] at first
      rw [lastCommitted?_cons here.1]
      exact first
    | next performed rest =>
      rw [performed] at first
      rw [lastCommitted?_cons here.1,
        ih (fun stage member => early stage (List.mem_cons_of_mem _ member)) rest, first]

/-- A block that succeeds went through all its stages. -/
theorem Block.map_stage {event : Option String}
    (block : Block setup payload move stages start deeds (.ok event) finish) :
    deeds.map Deed.stage = stages := by
  generalize replied : (.ok event : StageReply) = reply at block
  induction block with
  | last _ => rfl
  | failed _ => cases replied
  | next _ _ ih => rw [List.map_cons, ih replied]

end Stages

/-! ### Runners -/

/-- At the source of a transition there is neither a commit nor a flush. -/
theorem Move.of_mem_departure {options : RunnerOptions} (move : Move) :
    ∀ stage ∈ move.departure options, stage ≠ .commit ∧ stage ≠ .flush := by
  unfold departure
  split
  · exact fun stage member => nomatch member
  · split <;> simp

/-- The stages of a transition that is flushed. -/
theorem Move.stages_of_flushed (on : setup.autosave = true) {hook : FlushHook σ}
    (hooked : setup.flushHook = some hook) (move : Move) :
    ∃ before after, move.stages setup = before ++ .commit :: .flush :: after ∧
      (∀ stage ∈ before, stage ≠ .commit ∧ stage ≠ .flush) ∧
      ∀ stage ∈ after, stage ≠ .commit ∧ stage ≠ .flush := by
  refine ⟨move.departure setup.options ++ [.hook .onEnter move.destination.state],
    [.hook .onChange move.destination.state, .hook .action move.destination.state,
      .trigger move.destination.state], ?_, ?_, ?_⟩
  · simp [Move.stages, on, hooked]
  · refine List.forall_mem_append.2 ⟨move.of_mem_departure, ?_⟩
    simp
  · simp

/-- The stages of a transition that is not flushed. -/
theorem Move.flush_notMem_stages (off : setup.autosave = false) (move : Move) :
    ∀ stage ∈ move.stages setup, stage ≠ .flush := by
  rintro stage member rfl
  unfold Move.stages at member
  rw [off, Bool.false_and, if_neg Bool.false_ne_true] at member
  dsimp only at member
  rw [List.append_nil, List.append_assoc] at member
  rcases List.mem_append.1 member with leaving | later
  · exact (move.of_mem_departure _ leaving).2 rfl
  · simp at later

/-- **A runner that writes each commit**, given the key to write it under if there is one. -/
structure Runner.Tuned (store : MachineStore σ) (key : Option MachineKey) (runner : Runner σ) :
    Prop where
  autosave : runner.autosave = true
  hook : ∀ entry, key = some entry → runner.flushHook = some (Pool.autosaveHook store entry)

/-- **A runner that writes nothing**: it is not to call its hook, or the hook leaves alone what is
kept. -/
def Runner.Mute (kept : σ → MachineKey → Option Bytes) (runner : Runner σ) : Prop :=
  runner.autosave = false ∨ ∀ hook, runner.flushHook = some hook → FlushHook.Spares kept hook

section Calls

variable [Clocked σ] {start finish : Motion σ} {sent : List (Nat × String)}
  {blocks : List (List (Deed σ))} {result : Except Error Unit}

/-- **A course leaves the machine as of its last commit.** -/
theorem Course.saves (keeps : store.Keeps kept)
    (saves : ∀ key bytes world, (store.save key bytes world).1 = .ok ())
    (clock : Clocked.Spares kept) (spares : setup.Spares kept) (on : setup.autosave = true)
    (hooked : setup.flushHook = some (Pool.autosaveHook store key))
    (course : Course setup payload sent move start blocks result finish) :
    kept finish.world = savedUnder (kept start.world) key (lastCommitted? blocks.flatten) := by
  have of_block : ∀ {move : Move} {start finish : Motion σ} {deeds : List (Deed σ)}
      {reply : StageReply},
      Block setup payload move (move.stages setup) start deeds reply finish →
        kept finish.world = savedUnder (kept start.world) key (lastCommitted? deeds) := by
    intro move start finish deeds reply block
    obtain ⟨before, after, same, early, late⟩ := move.stages_of_flushed on hooked
    rw [same] at block
    exact block.saves_of keeps saves clock spares hooked early late
  induction course with
  | failed block => exact List.flatten_singleton ▸ of_block block
  | settled block => exact List.flatten_singleton ▸ of_block block
  | refused block _ => exact List.flatten_singleton ▸ of_block block
  | onward block _ _ ih =>
    rw [List.flatten_cons, lastCommitted?_append, ← savedUnder_savedUnder, ih, of_block block]

/-- A course that is not flushed leaves alone what is kept. -/
theorem Course.spare (keeps : store.Keeps kept) (clock : Clocked.Spares kept)
    (spares : setup.Spares kept) (off : setup.autosave = false)
    (course : Course setup payload sent move start blocks result finish) :
    kept finish.world = kept start.world := by
  induction course with
  | failed block => exact block.spare keeps clock spares (Move.flush_notMem_stages off _)
  | settled block => exact block.spare keeps clock spares (Move.flush_notMem_stages off _)
  | refused block _ => exact block.spare keeps clock spares (Move.flush_notMem_stages off _)
  | onward block _ _ ih =>
    exact ih.trans (block.spare keeps clock spares (Move.flush_notMem_stages off _))

/-- A course that succeeds has a last commit. -/
theorem Course.committed
    (course : Course setup payload sent move start blocks (.ok ()) finish) :
    lastCommitted? blocks.flatten ≠ none := by
  have of_block : ∀ {move : Move} {start finish : Motion σ} {deeds : List (Deed σ)}
      {event : Option String},
      Block setup payload move (move.stages setup) start deeds (.ok event) finish →
        lastCommitted? deeds ≠ none := by
    intro move start finish deeds event block
    obtain ⟨before, after, same, -⟩ := move.stages_eq setup
    have among : Stage.commit ∈ deeds.map Deed.stage := by
      rw [block.map_stage, same]
      exact List.mem_append_right _ List.mem_cons_self
    obtain ⟨deed, member, here⟩ := List.mem_map.1 among
    exact lastCommitted?_ne_none member here
  cases course with
  | settled block => exact List.flatten_singleton ▸ of_block block
  | onward block _ _ =>
    rw [List.flatten_cons, lastCommitted?_append, Ne, Option.or_eq_none_iff]
    exact fun nothing => of_block block nothing.2

namespace Runner.Conducts

variable {runner : Runner σ} {call : Call} {world : σ} {outcome : Outcome σ}

/-- **A call of a tuned runner leaves the machine as of its last commit**, whether it succeeds or
fails. -/
theorem saves (keeps : store.Keeps kept)
    (saves : ∀ key bytes world, (store.save key bytes world).1 = .ok ())
    (clock : Clocked.Spares kept) (spares : runner.toSetup.Spares kept)
    (tuned : runner.Tuned store (some key))
    (conducts : runner.Conducts call payload world blocks outcome) :
    kept outcome.2.2 = savedUnder (kept world) key (lastCommitted? blocks.flatten) := by
  cases conducts with
  | declined declines => rfl
  | conducted begins course =>
    exact course.saves keeps saves clock spares tuned.autosave (tuned.hook key rfl)

/-- **A call of a mute runner leaves alone what is kept.** -/
theorem spare (keeps : store.Keeps kept) (clock : Clocked.Spares kept)
    (spares : runner.toSetup.Spares kept) (mute : runner.Mute kept)
    (conducts : runner.Conducts call payload world blocks outcome) :
    kept outcome.2.2 = kept world := by
  cases conducts with
  | declined declines => rfl
  | conducted begins course =>
    rcases mute with off | aside
    · exact course.spare keeps clock spares off
    · have tied : runner.Tied kept store none :=
        ⟨spares.resolver, spares.overrides, fun hook set => .inl (aside hook set)⟩
      have steady := course.passage.keeps (P := Motion.Steady kept none _)
        (fun deed _ steady => steady.perform keeps clock tied deed.move payload deed.stage)
        ⟨rfl, .inl rfl⟩
      exact steady.2.eq_of_none

/-- **A call that makes a transition has a last commit.** -/
theorem committed (conducts : runner.Conducts call payload world blocks outcome)
    (done : outcome.1 = .ok true) : ∃ machine, lastCommitted? blocks.flatten = some machine := by
  cases conducts with
  | declined declines =>
    cases declines with
    | started _ _ => cases done
    | _ => cases done
  | @conducted _ _ _ result _ begins course =>
    cases result with
    | error error => cases done
    | ok _ => exact Option.ne_none_iff_exists'.1 course.committed

end Runner.Conducts

end Calls

end Statechart
