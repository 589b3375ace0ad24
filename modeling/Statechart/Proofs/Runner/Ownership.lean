/-
**Owners.**

The owner of a machine is a datum under a name of its own, of any value or none. Callables may
change the data as they like, a payload may be merged into them, and any of them may fail, but the
owner is put back after every call and is skipped by every merge. So a machine has one owner from
the first stage of a call to the last, however long the chain is and however it ends.

* `Datamodel.SameOwner`: data with the same owner, or the same lack of one.
* `Stage.sameIdentity_perform`: every stage leaves the owner and the type of the machine.
* `Runner.make_sameIdentity`: every call does, and so no call moves a machine to another key.
-/

import Statechart.Proofs.Json.Equality
import Statechart.Proofs.Runner.Chaining

namespace Statechart

open Json

variable {σ α : Type}

/-! ### Data -/

namespace Datamodel

/-- Data whose owners are the same or equal, a missing owner being equal to a missing one. -/
def SameOwner (first second : Datamodel) : Prop :=
  second.get? ownerKey = first.get? ownerKey ∨
    sameDatum (first.get? ownerKey) (second.get? ownerKey) = true

theorem sameDatum_trans : ∀ {first second third : Option Value}, sameDatum first second = true →
    sameDatum second third = true → sameDatum first third = true
  | none, none, _, _, after => after
  | some _, some _, some _, before, after => Value.equal_trans before after

namespace SameOwner

variable {first second third : Datamodel}

theorem refl (datamodel : Datamodel) : datamodel.SameOwner datamodel := .inl rfl

theorem trans (before : first.SameOwner second) (after : second.SameOwner third) :
    first.SameOwner third := by
  unfold SameOwner at before after ⊢
  rcases before with same | equal
  · rw [← same]
    exact after
  · rcases after with same' | equal'
    · rw [same']
      exact .inr equal
    · exact .inr (sameDatum_trans equal equal')

/-- Data with the same owner have the same text for an owner, or none. -/
theorem owner? (same : first.SameOwner second) : second.owner? = first.owner? := by
  rcases same with same | equal
  · unfold Datamodel.owner?
    rw [same]
  · exact owner?_congr equal

end SameOwner

/-- **Changed data keep the owner that they had.** -/
theorem sameOwner_keepOwner (before after : Datamodel) :
    before.SameOwner (before.keepOwner after) := by
  unfold keepOwner
  split
  · next equal => exact .inr equal
  · refine .inl ?_
    cases before.get? ownerKey with
    | none => rw [Dict.get?_erase, if_pos rfl]
    | some owner => rw [Dict.get?_insert, if_pos rfl]

/-- **A payload that is merged brings no owner.** -/
theorem sameOwner_merge (datamodel : Datamodel) (payload : Value) :
    datamodel.SameOwner (datamodel.merge payload) := by
  refine .inl ?_
  unfold merge
  split
  · next fields =>
    induction fields generalizing datamodel with
    | nil => rfl
    | cons field fields ih =>
      rw [List.foldl_cons, ih]
      split
      · rfl
      · next other => rw [Dict.get?_insert, if_neg other]
  · rfl

end Datamodel

/-! ### Machines -/

/-- Machines of one type and of one owner. -/
structure Machine.SameIdentity (first second : Machine) : Prop where
  name : second.name = first.name
  owner : first.datamodel.SameOwner second.datamodel

namespace Machine.SameIdentity

variable {first second third : Machine}

theorem refl (machine : Machine) : machine.SameIdentity machine := ⟨rfl, .refl _⟩

theorem trans (before : first.SameIdentity second) (after : second.SameIdentity third) :
    first.SameIdentity third :=
  ⟨after.name.trans before.name, before.owner.trans after.owner⟩

theorem owner? (same : first.SameIdentity second) : second.owner? = first.owner? :=
  same.owner.owner?

/-- Machines of one type and owner have one key. -/
theorem key? (same : first.SameIdentity second) : second.key? = first.key? := by
  unfold Machine.key?
  rw [same.owner?, same.name]

end Machine.SameIdentity

/-! ### Stages -/

theorem Motion.sameIdentity_call (motion : Motion σ) (callable : Callable σ α) (move : Move)
    (payload : Value) :
    motion.machine.SameIdentity (motion.call callable move payload).2.machine :=
  ⟨rfl, Datamodel.sameOwner_keepOwner _ _⟩

theorem Stage.sameIdentity_callAssigned (assigned : Assigned σ α) (undefined : String → Error)
    (event : α → Option String) (move : Move) (payload : Value) (motion : Motion σ) :
    motion.machine.SameIdentity
      (callAssigned assigned undefined event move payload motion).2.machine := by
  cases assigned with
  | nothing => exact .refl _
  | undefined identifier => exact .refl _
  | known callable => exact motion.sameIdentity_call callable move payload

variable [Clocked σ]

/-- **Every stage leaves the owner and the type of the machine.** -/
theorem Stage.sameIdentity_perform (setup : Setup σ) (move : Move) (payload : Value)
    (stage : Stage) (motion : Motion σ) :
    motion.machine.SameIdentity (stage.perform setup move payload motion).2.machine := by
  cases stage with
  | hook kind state => exact sameIdentity_callAssigned ..
  | commit =>
    refine ⟨rfl, ?_⟩
    show motion.machine.datamodel.SameOwner (if setup.options.mergePayload then _ else _)
    split
    · exact Datamodel.sameOwner_merge _ _
    · exact .refl _
  | flush =>
    unfold perform
    cases setup.flushHook with
    | none => exact .refl _
    | some hook => exact .refl _
  | trigger state => exact sameIdentity_callAssigned ..

/-! ### Calls -/

omit [Clocked σ] in
/-- Whom a runner is occupied by is told by the type and the owner of its machine. -/
theorem Runner.isOccupiedBy_congr {first second : Runner σ} {machine now : Machine}
    (loaded : first.machine = some machine) (there : second.machine = some now)
    (same : machine.SameIdentity now) (owner name : String) :
    second.isOccupiedBy owner name = first.isOccupiedBy owner name := by
  unfold isOccupiedBy
  rw [loaded, there, Option.any_some, Option.any_some, same.owner?, same.name]

/-- **The owner is fixed while a machine runs.** Whatever is called and whatever the payload holds,
every stage of a call starts and ends with the owner that the machine had before the call, and so
does the call itself, whether it succeeds or fails. The machine keeps its key, and the runner is
occupied by whom it was. -/
theorem Runner.make_sameIdentity {runner : Runner σ} {machine : Machine}
    (loaded : runner.machine = some machine) (call : Call) (payload : Value) (world : σ) :
    ∃ blocks now,
      runner.Conducts call payload world blocks (runner.make call payload world) ∧
      (runner.make call payload world).2.1.machine = some now ∧
      machine.SameIdentity now ∧ now.key? = machine.key? ∧
      (∀ deed ∈ blocks.flatten, machine.SameIdentity deed.before.machine ∧
        machine.SameIdentity deed.after.machine) ∧
      ∀ owner name, (runner.make call payload world).2.1.isOccupiedBy owner name =
        runner.isOccupiedBy owner name := by
  obtain ⟨blocks, unique⟩ := runner.conducts_iff call payload world
  have conducts := (unique blocks _).2 ⟨rfl, rfl⟩
  generalize runner.make call payload world = outcome at conducts
  refine ⟨blocks, ?_⟩
  cases conducts with
  | declined declines =>
    exact ⟨machine, .declined declines, loaded, .refl machine, rfl,
      fun deed member => (nomatch member), fun _ _ => rfl⟩
  | @conducted _ move _ result finish begins course =>
    cases begins.loaded.symm.trans loaded
    let Owned : Motion σ → Prop := fun motion => machine.SameIdentity motion.machine
    have kept : ∀ deed ∈ blocks.flatten, Owned deed.before →
        Owned (deed.stage.perform runner.toSetup deed.move payload deed.before).2 :=
      fun deed _ before => before.trans (deed.stage.sameIdentity_perform ..)
    have within := course.passage.throughout (P := Owned) kept (.refl machine)
    have same := course.passage.keeps (P := Owned) kept (.refl machine)
    exact ⟨finish.machine, .conducted begins course, rfl, same, same.key?, within,
      isOccupiedBy_congr loaded rfl same⟩

/-! ### A rally among thieves -/

namespace Runner

/-- A payload that names another owner. -/
def theft : Value := .record [(ownerKey, .string "bob"), ("ball", .null)]

/-- A runner of the rally in which a callable takes the machine from its owner, and the triggers
give it to another one. -/
def thieving : Runner Nat where
  resolver :=
    { callback? := fun _ _ _ => none
      trigger? := fun identifier _ => some fun _ datamodel world =>
        { result := .ok identifier, world
          datamodel := datamodel.insert ownerKey (.string "bob") } }
  overrides := Overrides.bind ∅ "pong" .onEnter fun _ datamodel world =>
    { result := .ok (), datamodel := datamodel.erase ownerKey, world }
  options := { mergePayload := true }
  machine := some (restingRally.withOwner "ann")

/-- The machine is still that of its owner after three transitions. -/
theorem make_sameIdentity_rally :
    ∃ now, (thieving.make .start theft 0).2.1.machine = some now ∧ now.history.length = 3 ∧
      now.datamodel.keys = ["ball", "owner"] ∧ now.key? = some ⟨"ann", "rally"⟩ := by
  obtain ⟨blocks, now, -, there, -, keyed, -⟩ :=
    make_sameIdentity (show thieving.machine = some _ from rfl) .start theft 0
  have left : (thieving.make .start theft 0).2.1.machine.map (fun now : Machine =>
      (now.history.length, now.datamodel.keys)) = some (3, ["ball", "owner"]) := by
    decide +kernel
  rw [there, Option.map_some, Option.some.injEq, Prod.mk.injEq] at left
  exact ⟨now, there, left.1, left.2, keyed⟩

end Runner

end Statechart
