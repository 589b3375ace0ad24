/-
**Which dumps are read back.**

Texts of payloads and data are read alone, with their own allowance for nesting, and what they give
stands two levels deeper in a dump. So a value may pass that is too deep for a dump that holds it.
Such a dump is written, to a store as well as anywhere else, and never read. Apart from the length
that a frame can tell, nothing else stands in the way of any machine that was read from a text,
after any run.

* `Setup.Proper`: whatever is called leaves data as they can be.
* `Runner.makeAll_proper`: calls with payloads that were read keep the data so.
* `Runner.makeAll_decoded_iff`: a dump is decoded exactly if no datum is nested too deep.
-/

import Statechart.Proofs.Description.Data
import Statechart.Proofs.Runner.Resuming

namespace Statechart

open Json Text

variable {σ α : Type}

/-! ### Callables -/

/-- A callable that leaves data as they can be if it is shown such. -/
def KeepsProper (callable : Callable σ α) : Prop :=
  ∀ (view : View) (datamodel : Datamodel) (world : σ), view.payload.Proper → datamodel.Proper →
    (callable view datamodel world).datamodel.Proper

/-- What is known at a hook was bound to it, or is what an identifier stands for. -/
theorem Assigned.bound_or_resolved {bound : Option (Callable σ α)} {declared : Option String}
    {resolve : String → Option (Callable σ α)} {callable : Callable σ α}
    (known : Assigned.of bound declared resolve = .known callable) :
    bound = some callable ∨ ∃ identifier, resolve identifier = some callable := by
  cases bound with
  | some other => exact .inl (congrArg some (Assigned.known.inj known))
  | none =>
    cases declared with
    | none => cases known
    | some identifier =>
      unfold Assigned.of at known
      dsimp only at known
      split at known
      · next found =>
        exact .inr ⟨identifier, found.trans (congrArg some (Assigned.known.inj known))⟩
      · cases known

/-- **Whatever is called leaves data as they can be.** -/
structure Setup.Proper (setup : Setup σ) : Prop where
  callbacks : ∀ {state : State} {kind : HookKind} {callback : Callback σ},
    setup.callbackOf state kind = .known callback → KeepsProper callback
  triggers : ∀ {state : State} {trigger : Trigger σ},
    setup.triggerOf state = .known trigger → KeepsProper trigger

namespace Stage

variable {motion : Motion σ} {payload : Value}

theorem proper_callAssigned {assigned : Assigned σ α}
    (keeps : ∀ callable, assigned = .known callable → KeepsProper callable)
    (undefined : String → Error) (event : α → Option String) (move : Move)
    (fits : payload.Proper) (proper : motion.machine.datamodel.Proper) :
    (callAssigned assigned undefined event move payload motion).2.machine.datamodel.Proper := by
  cases assigned with
  | nothing => exact proper
  | undefined identifier => exact proper
  | known callable => exact proper.keepOwner (keeps callable rfl _ _ _ fits proper)

/-- **Every stage keeps data as they can be.** -/
theorem proper_perform [Clocked σ] {setup : Setup σ} (keeps : setup.Proper) (move : Move)
    (fits : payload.Proper) (stage : Stage) (proper : motion.machine.datamodel.Proper) :
    (stage.perform setup move payload motion).2.machine.datamodel.Proper := by
  cases stage with
  | hook kind state =>
    exact proper_callAssigned (fun _ found => keeps.callbacks found) _ _ move fits proper
  | commit =>
    show Datamodel.Proper (if setup.options.mergePayload then _ else _)
    split
    · exact proper.merge fits
    · exact proper
  | flush =>
    unfold perform
    cases setup.flushHook with
    | none => exact proper
    | some hook => exact proper
  | trigger state =>
    exact proper_callAssigned (fun _ found => keeps.triggers found) _ _ move fits proper

end Stage

/-! ### Runs -/

namespace Runner

variable [Clocked σ] {runner : Runner σ} {machine : Machine}

theorem make_proper (keeps : runner.toSetup.Proper) (loaded : runner.machine = some machine)
    (proper : machine.datamodel.Proper) (call : Call) {payload : Value} (fits : payload.Proper)
    (world : σ) :
    ∃ now, (runner.make call payload world).2.1.machine = some now ∧ now.datamodel.Proper := by
  rcases make_cases loaded call payload world with
    same | ⟨move, blocks, result, finish, begins, course, there, -⟩
  · rw [same]
    exact ⟨machine, loaded, proper⟩
  · exact ⟨finish.machine, there, course.passage.keeps
      (P := fun motion => motion.machine.datamodel.Proper)
      (fun deed _ before => deed.stage.proper_perform keeps deed.move fits before) proper⟩

/-- **Calls with payloads as they can be keep the data so.** -/
theorem makeAll_proper (keeps : runner.toSetup.Proper) (loaded : runner.machine = some machine)
    (proper : machine.datamodel.Proper) {calls : List (Call × Value)}
    (fits : ∀ call ∈ calls, call.2.Proper) (world : σ) :
    ∃ now, (runner.makeAll calls world).2.1.machine = some now ∧ now.datamodel.Proper := by
  induction calls generalizing runner machine world with
  | nil => exact ⟨machine, loaded, proper⟩
  | cons first later ih =>
    obtain ⟨next, there, kept⟩ :=
      make_proper keeps loaded proper first.1 (fits first List.mem_cons_self) world
    refine ih ?_ there kept (fun call member => fits call (List.mem_cons_of_mem _ member)) _
    rw [toSetup_make]
    exact keeps

end Runner

/-! ### Machines -/

namespace Machine

/-- A machine of a description that was read from a text, with an owner or without. -/
inductive Written : Machine → Prop
  | built {description : Description} {machine : Machine} (written : description.Written)
      (described : description.build = .ok machine) : Written machine
  | owned {machine : Machine} (written : Written machine) (owner : String) :
      Written (machine.withOwner owner)

variable {machine : Machine}

theorem Written.regular (written : machine.Written) : machine.Regular := by
  induction written with
  | built _ described => exact (Obtained.built described).regular
  | owned _ _ ih => exact ⟨⟨ih.built, ih.inside⟩, ih.fit⟩

/-- **The data of a machine that was read from a text are as they can be.** -/
theorem Written.proper (written : machine.Written) : machine.datamodel.Proper := by
  induction written with
  | built written described =>
    obtain ⟨-, -, -, data⟩ := Description.rest_of_build described
    rw [data]
    exact Description.Written.proper written
  | owned _ owner ih => exact ih.insert ownerKey (.string owner)

/-- **A machine is decoded exactly if no datum is nested too deep** and, where its text stands in a
frame, the header can tell the length. -/
theorem Regular.exists_decode?_encode_iff (regular : machine.Regular)
    (proper : machine.datamodel.Proper) (format : DumpFormat) :
    (∃ found, decode? (machine.encode format) = .ok found) ↔
      (∀ value ∈ machine.datamodel.values, value.depth ≤ Dump.dataLevels) ∧
        (format = .binary → (utf8 machine.text).length < Nat.pow 2 32) := by
  rw [regular.toPlaced.exists_decode?_encode_iff regular.fit, Dump.isSome_reread?_iff]
  refine and_congr_left fun _ => forall_congr' fun value => forall_congr' fun member => ?_
  exact (proper value member).isSome_iff Dump.dataLevels

end Machine

/-! ### Dumps of runs -/

namespace Runner

variable [Clocked σ]

/-- **A dump is decoded exactly if no datum is nested too deep.** A machine that was read from a
data text or a marked-up one is loaded and driven by any calls, with payloads that were read from
texts. Its dump in either form is decoded if and only if no datum is nested deeper than a dump
allows for and, in a frame, the header can tell the length of the text. -/
theorem makeAll_decoded_iff (clock : Clocked.Fits σ) {machine : Machine}
    (written : machine.Written) {unloaded runner : Runner σ}
    (loaded : unloaded.load machine = (.ok (), runner)) (keeps : runner.toSetup.Proper)
    {calls : List (Call × Value)}
    (read : ∀ call ∈ calls, ∃ text, Value.parse? text = some call.2) (world : σ) :
    ∃ now, (runner.makeAll calls world).2.1.machine = some now ∧ ∀ format,
      (∃ found, Machine.decode? (now.encode format) = .ok found) ↔
        (∀ value ∈ now.datamodel.values, value.depth ≤ Dump.dataLevels) ∧
          (format = .binary → (utf8 now.text).length < Nat.pow 2 32) := by
  have there := machine_of_load loaded
  have fits : ∀ call ∈ calls, call.2.Proper := by
    intro call member
    obtain ⟨text, given⟩ := read call member
    exact Value.proper_of_parseWithin? given
  obtain ⟨now, here, regular, -⟩ := makeAll_regular clock there written.regular calls world
  obtain ⟨now', here', proper⟩ := makeAll_proper keeps there written.proper fits world
  cases here.symm.trans here'
  exact ⟨now, here, regular.exists_decode?_encode_iff proper⟩

/-! ### A door with a deep datum -/

/-- The text of the door. -/
def doorText : String :=
  "[\x7b\"id\":\"shut\",\"initial\":true,\"events\":\x7b\"push\":\"wide\"\x7d\x7d," ++
    "\x7b\"id\":\"wide\"\x7d]"

theorem ofJson_doorText : Description.ofJson doorText = .ok door := by
  have read : (Description.ofJson doorText).toOption.map (fun description : Description =>
      (description.name, description.states, description.datamodel.entries.isEmpty)) =
        some (door.name, door.states, true) := by
    decide +kernel
  cases given : Description.ofJson doorText with
  | error fault => rw [given] at read; cases read
  | ok description =>
    rw [given] at read
    obtain ⟨name, read⟩ := Prod.mk.inj (Option.some.inj read)
    obtain ⟨states, none⟩ := Prod.mk.inj read
    have data : description.datamodel = ∅ := Dict.ext (List.isEmpty_iff.1 none)
    cases description
    cases name
    cases states
    cases data
    rfl

theorem written_door : door.Written := .json ofJson_doorText

/-- A list in a list, and so on. -/
def nested : Nat → Value
  | 0 => .list []
  | levels + 1 => .list [nested levels]

theorem depth_nested (levels : Nat) : (nested levels).depth = levels + 1 := by
  induction levels with
  | zero => rfl
  | succ levels ih => simp [nested, Value.depth, Value.depthItems, ih]

theorem sound_nested (levels : Nat) : (nested levels).Sound Number.IsWhole := by
  induction levels with
  | zero => exact .list (List.forall_mem_nil _)
  | succ levels ih => exact .list fun item member => List.mem_singleton.1 member ▸ ih

theorem proper_painter : painter.toSetup.Proper where
  callbacks {_ kind _} known := by
    rcases Assigned.bound_or_resolved known with bound | ⟨identifier, resolved⟩
    · cases kind <;> cases bound
    · cases resolved
  triggers known := by
    rcases Assigned.bound_or_resolved known with bound | ⟨identifier, resolved⟩
    · cases bound
    · cases resolved

/-- A payload that is read alone. -/
def deep : Value := .record [("x", nested Dump.dataLevels)]

theorem parse?_deep : Value.parse? deep.render = some deep := by
  have sound : deep.Sound Number.IsWhole :=
    .record (List.pairwise_singleton _ _) fun field member =>
      List.mem_singleton.1 member ▸ sound_nested Dump.dataLevels
  refine sound.parseWithin?_render ?_
  simp [deep, Value.depth, Value.depthFields, depth_nested, Dump.dataLevels, nestingLimit]

/-- The door takes in a payload that was read, and neither of its dumps is decoded. -/
theorem makeAll_decoded_iff_door :
    ∃ now, (paintedDoor.makeAll [(.start, deep)] ()).2.1.machine = some now ∧
      now.datamodel.values.map Value.depth = [Dump.dataLevels + 1] ∧
      ∀ format, ¬ ∃ found, Machine.decode? (now.encode format) = .ok found := by
  have loaded : painter.load shutDoor = (.ok (), paintedDoor) := rfl
  have read : ∀ call ∈ [(Call.start, deep)], ∃ text, Value.parse? text = some call.2 :=
    fun call member => ⟨deep.render, List.mem_singleton.1 member ▸ parse?_deep⟩
  obtain ⟨now, there, decoded⟩ :=
    makeAll_decoded_iff timeless_fits (.built written_door build_door) loaded proper_painter read ()
  have left : (paintedDoor.makeAll [(.start, deep)] ()).2.1.machine.map (fun now : Machine =>
      now.datamodel.values.map Value.depth) = some [Dump.dataLevels + 1] := by
    decide +kernel
  rw [there] at left
  have depths : now.datamodel.values.map Value.depth = _ := Option.some.inj left
  refine ⟨now, there, depths, fun format found => ?_⟩
  have shallow : ∀ depth ∈ now.datamodel.values.map Value.depth, depth ≤ Dump.dataLevels :=
    List.forall_mem_map.2 ((decoded format).1 found).1
  rw [depths] at shallow
  exact Nat.not_succ_le_self _ (shallow _ List.mem_cons_self)

end Runner

end Statechart
