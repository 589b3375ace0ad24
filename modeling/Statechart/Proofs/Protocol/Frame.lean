/-
**What a transition leaves alone.**

Callables and hooks see the machine but change its data only, and not even there its owner. So
between two moves a machine stays where it is, with its definition, its name and its history.

* `Machine.Alike`: machines that differ in their data at most, and not in their owner.
* `Stage.alike_perform`: every stage but the commit gives a machine that is alike.
* `Block.committed_of`: a block commits its transition once, or fails before.
-/

import Statechart.Proofs.Protocol.Course
import Statechart.Store.Key

namespace Statechart

open Json

variable {σ α : Type}

/-! ### Owners -/

namespace Datamodel

theorem owner?_congr {first second : Datamodel}
    (same : sameDatum (first.get? ownerKey) (second.get? ownerKey) = true) :
    second.owner? = first.owner? := by
  unfold owner?
  cases before : first.get? ownerKey with
  | none =>
    cases after : second.get? ownerKey with
    | none => rfl
    | some _ => rw [before, after] at same; cases same
  | some datum =>
    cases after : second.get? ownerKey with
    | none => rw [before, after] at same; cases same
    | some datum' =>
      rw [before, after] at same
      change datum.equal datum' = true at same
      show datum'.string? = datum.string?
      cases datum <;> cases datum' <;> first | rfl | cases same | skip
      · next first second =>
        rw [of_decide_eq_true same]

/-- Data that keep their owner have the same owner. -/
theorem owner?_keepOwner (before after : Datamodel) :
    (before.keepOwner after).owner? = before.owner? := by
  unfold keepOwner
  split
  · next same => exact owner?_congr same
  · unfold owner?
    cases before.get? ownerKey with
    | none => rw [Dict.get?_erase, if_pos rfl]
    | some datum => rw [Dict.get?_insert, if_pos rfl]

/-- A payload does not change the owner. -/
theorem owner?_merge (datamodel : Datamodel) (payload : Value) :
    (datamodel.merge payload).owner? = datamodel.owner? := by
  unfold merge
  split
  · next fields =>
    induction fields generalizing datamodel with
    | nil => rfl
    | cons field fields ih =>
      rw [List.foldl_cons, ih]
      split
      · rfl
      · next other => rw [owner?, owner?, Dict.get?_insert, if_neg other]
  · rfl

end Datamodel

/-! ### Machines -/

/-- Machines that differ in their data at most, and not in their owner. -/
structure Machine.Alike (first second : Machine) : Prop where
  chart : second.chart = first.chart
  name : second.name = first.name
  current : second.current = first.current
  history : second.history = first.history
  owner : second.owner? = first.owner?

namespace Machine.Alike

variable {first second third : Machine}

theorem refl (machine : Machine) : Alike machine machine := ⟨rfl, rfl, rfl, rfl, rfl⟩

theorem trans (before : Alike first second) (after : Alike second third) : Alike first third :=
  ⟨after.chart.trans before.chart, after.name.trans before.name,
    after.current.trans before.current, after.history.trans before.history,
    after.owner.trans before.owner⟩

theorem key? (alike : Alike first second) : second.key? = first.key? := by
  unfold Machine.key?
  rw [alike.owner, alike.name]

end Machine.Alike

/-- A machine that is given an owner has the key of this owner. -/
theorem Machine.key?_withOwner (machine : Machine) (owner : String) :
    (machine.withOwner owner).key? = some ⟨owner, machine.name⟩ := by
  unfold Machine.key? Machine.owner? Datamodel.owner? Machine.withOwner
  dsimp only
  rw [Dict.get?_insert, if_pos rfl]
  rfl

/-- A machine after it makes a transition, and whatever happens to its data. -/
def Machine.Makes (start : Machine) (move : Move) (finish : Machine) : Prop :=
  ∃ timestamp, (start.commit move.destination.position (move.record timestamp)).Alike finish

/-! ### Stages -/

theorem Motion.alike_call (motion : Motion σ) (callable : Callable σ α) (move : Move)
    (payload : Value) : motion.machine.Alike (motion.call callable move payload).2.machine :=
  ⟨rfl, rfl, rfl, rfl, Datamodel.owner?_keepOwner _ _⟩

theorem Stage.alike_callAssigned (assigned : Assigned σ α) (undefined : String → Error)
    (event : α → Option String) (move : Move) (payload : Value) (motion : Motion σ) :
    motion.machine.Alike (callAssigned assigned undefined event move payload motion).2.machine := by
  cases assigned with
  | nothing => exact .refl _
  | undefined identifier => exact .refl _
  | known callable => exact motion.alike_call callable move payload

variable [Clocked σ]

/-- **Every stage but the commit gives a machine that is alike.** -/
theorem Stage.alike_perform (setup : Setup σ) (move : Move) (payload : Value) {stage : Stage}
    (other : stage ≠ .commit) (motion : Motion σ) :
    motion.machine.Alike (stage.perform setup move payload motion).2.machine := by
  cases stage with
  | hook kind state => exact alike_callAssigned ..
  | commit => exact absurd rfl other
  | flush =>
    unfold perform
    cases setup.flushHook with
    | none => exact .refl _
    | some hook => exact .refl _
  | trigger state => exact alike_callAssigned ..

/-- The commit makes the transition. -/
theorem Motion.makes_commit (motion : Motion σ) (merges : Bool) (move : Move) (payload : Value) :
    motion.machine.Makes move (motion.commit merges move payload).machine := by
  refine ⟨(Clocked.now motion.world).1, ⟨rfl, rfl, rfl, rfl, ?_⟩⟩
  cases merges with
  | false => rfl
  | true => exact Datamodel.owner?_merge _ _

/-! ### Blocks -/

variable {setup : Setup σ} {payload : Value} {move : Move}

theorem Machine.Makes.alike {start middle finish : Machine} (makes : start.Makes move middle)
    (alike : middle.Alike finish) : start.Makes move finish := by
  obtain ⟨timestamp, made⟩ := makes
  exact ⟨timestamp, made.trans alike⟩

theorem Machine.Alike.makes {start middle finish : Machine} (alike : start.Alike middle)
    (makes : middle.Makes move finish) : start.Makes move finish := by
  obtain ⟨timestamp, made⟩ := makes
  refine ⟨timestamp, made.chart.trans alike.chart, made.name.trans alike.name, made.current, ?_,
    made.owner.trans alike.owner⟩
  rw [made.history]
  show middle.history ++ _ = start.history ++ _
  rw [alike.history]

theorem Stage.alike_of_perform {stage : Stage} (other : stage ≠ .commit) {start finish : Motion σ}
    {reply : StageReply} (performed : stage.perform setup move payload start = (reply, finish)) :
    start.machine.Alike finish.machine := by
  have alike := Stage.alike_perform setup move payload other start
  rwa [performed] at alike

/-- Stages among which there is no commit leave the machine alike. -/
theorem Block.alike {stages : List Stage} (quiet : ∀ stage ∈ stages, stage ≠ .commit)
    {start finish : Motion σ} {deeds : List (Deed σ)} {reply : StageReply}
    (block : Block setup payload move stages start deeds reply finish) :
    start.machine.Alike finish.machine := by
  induction block with
  | last performed => exact Stage.alike_of_perform (quiet _ List.mem_cons_self) performed
  | failed performed => exact Stage.alike_of_perform (quiet _ List.mem_cons_self) performed
  | next performed _ ih =>
    have before := Stage.alike_of_perform (quiet _ List.mem_cons_self) performed
    exact before.trans (ih fun stage member => quiet stage (List.mem_cons_of_mem _ member))

/-- Stages with one commit among them make the transition, or fail before and do not. -/
theorem Block.committed_of {before after : List Stage}
    (early : ∀ stage ∈ before, stage ≠ .commit) (late : ∀ stage ∈ after, stage ≠ .commit)
    {start finish : Motion σ} {deeds : List (Deed σ)} {reply : StageReply}
    (block : Block setup payload move (before ++ .commit :: after) start deeds reply finish) :
    start.machine.Makes move finish.machine ∨
      (∃ error, reply = .error error) ∧ start.machine.Alike finish.machine := by
  induction before generalizing start deeds with
  | nil =>
    have makes := start.makes_commit setup.options.mergePayload move payload
    rw [List.nil_append] at block
    cases block with
    | last performed =>
      cases performed
      exact .inl makes
    | failed performed => cases performed
    | next performed rest =>
      cases performed
      exact .inl (makes.alike (rest.alike late))
  | cons stage before ih =>
    have alone : before ++ .commit :: after ≠ [] := by simp
    rw [List.cons_append] at block
    generalize before ++ .commit :: after = later at block ih alone
    cases block with
    | last performed => exact absurd rfl alone
    | failed performed =>
      exact .inr ⟨⟨_, rfl⟩, Stage.alike_of_perform (early stage List.mem_cons_self) performed⟩
    | next performed rest =>
      have alike := Stage.alike_of_perform (early stage List.mem_cons_self) performed
      rcases ih (fun stage member => early stage (List.mem_cons_of_mem _ member)) rest with
        makes | ⟨failed, later⟩
      · exact .inl (alike.makes makes)
      · exact .inr ⟨failed, alike.trans later⟩

omit [Clocked σ] in
/-- The machine moves at one stage of a transition. -/
theorem Move.stages_eq (move : Move) (setup : Setup σ) :
    ∃ before after, move.stages setup = before ++ .commit :: after ∧
      (∀ stage ∈ before, stage ≠ .commit) ∧ ∀ stage ∈ after, stage ≠ .commit := by
  refine ⟨move.departure setup.options ++ [.hook .onEnter move.destination.state],
    (if setup.autosave && setup.flushHook.isSome then [.flush] else []) ++
      [.hook .onChange move.destination.state, .hook .action move.destination.state,
        .trigger move.destination.state], ?_, ?_, ?_⟩
  · simp [Move.stages]
  · intro stage member same
    subst same
    unfold Move.departure at member
    split at member
    · simp at member
    · split at member <;> simp at member
  · intro stage member same
    subst same
    split at member <;> simp at member

/-- **A block makes its transition, or fails before and leaves the machine alike.** -/
theorem Block.makes_or_fails {start finish : Motion σ} {deeds : List (Deed σ)} {reply : StageReply}
    (block : Block setup payload move (move.stages setup) start deeds reply finish) :
    start.machine.Makes move finish.machine ∨
      (∃ error, reply = .error error) ∧ start.machine.Alike finish.machine := by
  obtain ⟨before, after, same, early, late⟩ := move.stages_eq setup
  rw [same] at block
  exact block.committed_of early late

end Statechart
