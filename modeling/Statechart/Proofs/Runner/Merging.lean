/-
**What a call does to the data of a machine.**

Between its first stage and its last a call changes nothing of a machine but its place, its history
and its data, and the data only in two ways: what is called may leave others behind, and a commit
puts the fields of the payload in their places if the runner merges payloads. Merging once more
changes nothing, so if nothing that is called writes, then a chain of any length leaves what one
transition leaves.

* `Datamodel.get?_merge`: what merged data answer.
* `Deed.Frames`: what a deed changes.
* `Passage.frames`: every deed of a passage changes no more than that.
* `Block.flush_behind_commit`: the flush hook is told what the commit left.
* `Runner.make_merged`: what a call does to the data of a machine.
-/

import Statechart.Proofs.Dict
import Statechart.Proofs.Protocol.Blame
import Statechart.Proofs.Runner.Ownership

namespace Statechart

open Json

variable {σ α : Type}

/-! ### Merged data -/

namespace Datamodel

/-- What a payload gives for a name. Only records give something, and none of them an owner. -/
def given? (payload : Value) (key : String) : Option Value :=
  match payload with
  | .record fields => if key = ownerKey then none else (Dict.ofList fields).get? key
  | _ => none

/-- A field of a record without repeated names is given, unless it is that of the owner. -/
theorem given?_record {fields : List (String × Value)} (distinct : (fields.map Prod.fst).Nodup)
    {key : String} (other : key ≠ ownerKey) :
    given? (.record fields) key = (Value.record fields).field? key :=
  (if_neg other).trans (Dict.get?_ofList distinct key)

/-- **Merged data answer what the payload gives, and for other names what they did before.** -/
theorem get?_merge (datamodel : Datamodel) (payload : Value) (key : String) :
    (datamodel.merge payload).get? key = (given? payload key).or (datamodel.get? key) := by
  cases payload with
  | record fields =>
    -- The induction is over both folds at once: one into the data, the other into a dictionary.
    suffices general : ∀ first second : Datamodel,
        first.get? key =
          (if key = ownerKey then none else second.get? key).or (datamodel.get? key) →
        (first.merge (.record fields)).get? key =
          (if key = ownerKey then none else
            (fields.foldl (fun data field => data.insert field.1 field.2) second).get? key).or
            (datamodel.get? key) by
      refine general datamodel .empty ?_
      rw [Dict.get?_empty, ite_self]
      rfl
    induction fields with
    | nil => exact fun first second same => same
    | cons field fields ih =>
      intro first second same
      refine ih (if field.1 = ownerKey then first else first.insert field.1 field.2)
        (second.insert field.1 field.2) ?_
      rw [Dict.get?_insert]
      by_cases here : field.1 = key
      · rw [if_pos here]
        by_cases owner : key = ownerKey
        · rw [if_pos owner] at same ⊢
          rw [if_pos (here.trans owner)]
          exact same
        · rw [if_neg owner, if_neg (here ▸ owner), Dict.get?_insert, if_pos here]
          rfl
      · rw [if_neg here]
        split
        · exact same
        · rw [Dict.get?_insert, if_neg here]
          exact same
  | _ => rfl

/-- Data that are left as they were keep their owner, and are the same. -/
theorem keepOwner_self (datamodel : Datamodel) : datamodel.keepOwner datamodel = datamodel := by
  refine Dict.ext_get? fun key => ?_
  unfold keepOwner
  split
  · rfl
  · cases owner : datamodel.get? ownerKey with
    | none =>
      rw [Dict.get?_erase]
      split
      · next same => rw [← same, owner]
      · rfl
    | some datum =>
      rw [Dict.get?_insert]
      split
      · next same => rw [← same, owner]
      · rfl

/-- Data that keep the owner of others answer for every other name as they did. -/
theorem get?_keepOwner (before after : Datamodel) {key : String} (other : key ≠ ownerKey) :
    (before.keepOwner after).get? key = after.get? key := by
  unfold keepOwner
  split
  · rfl
  · cases before.get? ownerKey with
    | none => rw [Dict.get?_erase, if_neg (Ne.symm other)]
    | some datum => rw [Dict.get?_insert, if_neg (Ne.symm other)]

end Datamodel

/-- What a commit puts into the data, which is nothing if payloads are not merged. -/
def Setup.given? (setup : Setup σ) (payload : Value) (key : String) : Option Value :=
  if setup.options.mergePayload then Datamodel.given? payload key else none

/-! ### Deeds -/

/-- The data that something leaves behind which is called at the stage of a deed. -/
inductive Deed.Leaves (setup : Setup σ) (payload : Value) (deed : Deed σ) : Datamodel → Prop
  | callback {kind : HookKind} {state : State} {callback : Callback σ}
      (stage : deed.stage = .hook kind state)
      (known : setup.callbackOf state kind = .known callback) :
      Leaves setup payload deed (callback (deed.move.view deed.before.machine payload)
        deed.before.machine.datamodel deed.before.world).datamodel
  | trigger {state : State} {trigger : Trigger σ} (stage : deed.stage = .trigger state)
      (known : setup.triggerOf state = .known trigger) :
      Leaves setup payload deed (trigger (deed.move.view deed.before.machine payload)
        deed.before.machine.datamodel deed.before.world).datamodel

/-- **What a deed changes.** The definition and the type of the machine stay. A commit puts into the
data what the payload gives. What is called leaves the data that it leaves, but for the owner. Else
the data stay. -/
structure Deed.Frames (setup : Setup σ) (payload : Value) (deed : Deed σ) : Prop where
  chart : deed.after.machine.chart = deed.before.machine.chart
  name : deed.after.machine.name = deed.before.machine.name
  committed : deed.stage = .commit → ∀ key, deed.after.machine.datamodel.get? key =
    (setup.given? payload key).or (deed.before.machine.datamodel.get? key)
  written : ∀ left, deed.Leaves setup payload left →
    (∀ key, key ≠ ownerKey → deed.after.machine.datamodel.get? key = left.get? key) ∧
      deed.before.machine.datamodel.SameOwner deed.after.machine.datamodel
  untouched : deed.stage ≠ .commit → (∀ left, ¬ deed.Leaves setup payload left) →
    deed.after.machine.datamodel = deed.before.machine.datamodel

/-- A deed at which nothing is called that writes. -/
def Deed.Silent (setup : Setup σ) (payload : Value) (deed : Deed σ) : Prop :=
  ∀ left, deed.Leaves setup payload left → left = deed.before.machine.datamodel

section Performing

variable [Clocked σ] {setup : Setup σ} {payload : Value}

/-- What a commit leaves answers what the payload gives. -/
theorem Motion.get?_commit (motion : Motion σ) (move : Move) (key : String) :
    (motion.commit setup.options.mergePayload move payload).machine.datamodel.get? key =
      (setup.given? payload key).or (motion.machine.datamodel.get? key) := by
  unfold Motion.commit Setup.given?
  cases setup.options.mergePayload with
  | false => rfl
  | true => exact Datamodel.get?_merge _ _ _

omit [Clocked σ] in
theorem Deed.leaves_hook_iff {deed : Deed σ} {kind : HookKind} {state : State}
    (reached : deed.stage = .hook kind state) {left : Datamodel} :
    deed.Leaves setup payload left ↔ ∃ callback, setup.callbackOf state kind = .known callback ∧
      left = (callback (deed.move.view deed.before.machine payload)
        deed.before.machine.datamodel deed.before.world).datamodel := by
  constructor
  · intro leaves
    cases leaves with
    | callback stage known =>
      cases reached.symm.trans stage
      exact ⟨_, known, rfl⟩
    | trigger stage _ => cases reached.symm.trans stage
  · rintro ⟨callback, known, rfl⟩
    exact .callback reached known

omit [Clocked σ] in
theorem Deed.leaves_trigger_iff {deed : Deed σ} {state : State}
    (reached : deed.stage = .trigger state) {left : Datamodel} :
    deed.Leaves setup payload left ↔ ∃ trigger, setup.triggerOf state = .known trigger ∧
      left = (trigger (deed.move.view deed.before.machine payload)
        deed.before.machine.datamodel deed.before.world).datamodel := by
  constructor
  · intro leaves
    cases leaves with
    | callback stage _ => cases reached.symm.trans stage
    | trigger stage known =>
      cases reached.symm.trans stage
      exact ⟨_, known, rfl⟩
  · rintro ⟨trigger, known, rfl⟩
    exact .trigger reached known

omit [Clocked σ] in
/-- Nothing is called at a commit, nor when the flush hook is told. -/
theorem Deed.not_leaves {deed : Deed σ} (uncalled : deed.stage = .commit ∨ deed.stage = .flush)
    (left : Datamodel) : ¬ deed.Leaves setup payload left := by
  intro leaves
  cases leaves with
  | callback stage _ => simp [stage] at uncalled
  | trigger stage _ => simp [stage] at uncalled

/-- The data after a stage that is no commit: those of before, or what is called leaves them. -/
theorem Deed.datamodel_of_performed {deed : Deed σ}
    (performed : deed.stage.perform setup deed.move payload deed.before = (deed.reply, deed.after))
    (other : deed.stage ≠ .commit) :
    (∀ left, ¬ deed.Leaves setup payload left) ∧
        deed.after.machine.datamodel = deed.before.machine.datamodel ∨
      ∃ left, (∀ left', deed.Leaves setup payload left' ↔ left' = left) ∧
        deed.after.machine.datamodel = deed.before.machine.datamodel.keepOwner left := by
  have left := congrArg (fun result => result.2.machine.datamodel) performed
  cases reached : deed.stage with
  | commit => exact absurd reached other
  | flush =>
    rw [reached] at left
    refine .inl ⟨not_leaves (.inr reached), ?_⟩
    rw [← left]
    unfold Stage.perform
    cases setup.flushHook <;> rfl
  | hook kind state =>
    rw [reached] at left
    cases assigned : setup.callbackOf state kind with
    | known callback =>
      simp only [Stage.perform, assigned, Stage.callAssigned] at left
      refine .inr ⟨_, fun left' => ?_, left.symm⟩
      simp [leaves_hook_iff reached, assigned]
    | nothing | undefined identifier =>
      simp only [Stage.perform, assigned, Stage.callAssigned] at left
      refine .inl ⟨fun left' => ?_, left.symm⟩
      simp [leaves_hook_iff reached, assigned]
  | trigger state =>
    rw [reached] at left
    cases assigned : setup.triggerOf state with
    | known trigger =>
      simp only [Stage.perform, assigned, Stage.callAssigned] at left
      refine .inr ⟨_, fun left' => ?_, left.symm⟩
      simp [leaves_trigger_iff reached, assigned]
    | nothing | undefined identifier =>
      simp only [Stage.perform, assigned, Stage.callAssigned] at left
      refine .inl ⟨fun left' => ?_, left.symm⟩
      simp [leaves_trigger_iff reached, assigned]

/-- **A deed that is done as its stage says changes no more than a deed may.** -/
theorem Deed.frames {deed : Deed σ}
    (performed :
      deed.stage.perform setup deed.move payload deed.before = (deed.reply, deed.after)) :
    deed.Frames setup payload := by
  have after := congrArg Prod.snd performed
  by_cases commits : deed.stage = .commit
  · rw [commits] at after
    have committed : deed.before.commit setup.options.mergePayload deed.move payload = deed.after :=
      after
    refine ⟨?_, ?_, fun _ key => ?_, fun left leaves => ?_, fun other => absurd commits other⟩
    · rw [← committed]
      rfl
    · rw [← committed]
      rfl
    · rw [← committed]
      exact deed.before.get?_commit deed.move key
    · exact absurd leaves (not_leaves (.inl commits) left)
  · have alike := Stage.alike_of_perform commits performed
    refine ⟨alike.chart, alike.name, fun here => absurd here commits, ?_, ?_⟩
    · intro left leaves
      rcases datamodel_of_performed performed commits with ⟨silent, -⟩ | ⟨left', all, kept⟩
      · exact absurd leaves (silent left)
      · rw [kept, (all left).1 leaves]
        exact ⟨fun key other => Datamodel.get?_keepOwner _ _ other,
          Datamodel.sameOwner_keepOwner _ _⟩
    · intro _ silent
      rcases datamodel_of_performed performed commits with ⟨-, same⟩ | ⟨left', all, -⟩
      · exact same
      · exact absurd ((all left').2 rfl) (silent left')

/-- A deed at which nothing writes leaves the data, if it is no commit. -/
theorem Deed.Silent.datamodel_eq {deed : Deed σ} (silent : deed.Silent setup payload)
    (performed : deed.stage.perform setup deed.move payload deed.before = (deed.reply, deed.after))
    (other : deed.stage ≠ .commit) :
    deed.after.machine.datamodel = deed.before.machine.datamodel := by
  rcases datamodel_of_performed performed other with ⟨-, same⟩ | ⟨left, all, kept⟩
  · exact same
  · rw [kept, silent left ((all left).2 rfl), Datamodel.keepOwner_self]

/-! ### Passages -/

variable {start finish : Motion σ} {deeds : List (Deed σ)}

/-- **Every deed of a passage changes no more than a deed may**, and the machine keeps its
definition and its type throughout. -/
theorem Passage.frames (passage : Passage setup payload start deeds finish) :
    (∀ deed ∈ deeds, deed.Frames setup payload ∧
      deed.before.machine.chart = start.machine.chart ∧
      deed.before.machine.name = start.machine.name) ∧
    finish.machine.chart = start.machine.chart ∧ finish.machine.name = start.machine.name := by
  induction passage with
  | done => exact ⟨fun deed member => (nomatch member), rfl, rfl⟩
  | @step move stage start middle finish reply deeds performed _ ih =>
    have frames : Deed.Frames setup payload ⟨move, stage, start, reply, middle⟩ :=
      Deed.frames performed
    obtain ⟨each, chart, name⟩ := ih
    refine ⟨List.forall_mem_cons.2 ⟨⟨frames, rfl, rfl⟩, fun deed member => ?_⟩,
      chart.trans frames.chart, name.trans frames.name⟩
    obtain ⟨later, chart, name⟩ := each deed member
    exact ⟨later, chart.trans frames.chart, name.trans frames.name⟩

/-- The history grows at commits only. -/
theorem Passage.history (passage : Passage setup payload start deeds finish) :
    ∃ added, finish.machine.history = start.machine.history ++ added ∧
      (added = [] ↔ ∀ deed ∈ deeds, deed.stage ≠ .commit) := by
  induction passage with
  | done =>
    exact ⟨[], (List.append_nil _).symm, fun _ deed member => (nomatch member), fun _ => rfl⟩
  | @step move stage start middle finish reply deeds performed _ ih =>
    obtain ⟨added, history, none⟩ := ih
    by_cases commits : stage = .commit
    · subst commits
      cases performed
      refine ⟨move.record (Clocked.now start.world).1 :: added, ?_, ?_⟩
      · rw [history]
        exact List.append_assoc ..
      · simp
    · refine ⟨added, ?_, ?_⟩
      · rw [history, (Stage.alike_of_perform commits performed).history]
      · rw [none, List.forall_mem_cons, and_iff_right commits]

/-- **A passage at which nothing writes** leaves the data without a commit, and with one or more it
leaves what the payload gives before what was there. -/
theorem Passage.merged (passage : Passage setup payload start deeds finish)
    (silent : ∀ deed ∈ deeds, deed.Silent setup payload) :
    ((∀ deed ∈ deeds, deed.stage ≠ .commit) →
      finish.machine.datamodel = start.machine.datamodel) ∧
    ((∃ deed ∈ deeds, deed.stage = .commit) → ∀ key, finish.machine.datamodel.get? key =
      (setup.given? payload key).or (start.machine.datamodel.get? key)) := by
  induction passage with
  | done =>
    refine ⟨fun _ => rfl, ?_⟩
    rintro ⟨deed, member, -⟩
    cases member
  | @step move stage start middle finish reply deeds performed _ ih =>
    obtain ⟨quiet, later⟩ := List.forall_mem_cons.1 silent
    obtain ⟨uncommitted, committed⟩ := ih later
    have frames : Deed.Frames setup payload ⟨move, stage, start, reply, middle⟩ :=
      Deed.frames performed
    have same (other : stage ≠ .commit) : middle.machine.datamodel = start.machine.datamodel :=
      quiet.datamodel_eq performed other
    refine ⟨fun all => ?_, fun some key => ?_⟩
    · obtain ⟨other, rest⟩ := List.forall_mem_cons.1 all
      rw [uncommitted rest, same other]
    · by_cases again : ∃ deed ∈ deeds, deed.stage = .commit
      · rw [committed again]
        by_cases commits : stage = .commit
        · -- What the payload gives stands in its place already.
          have here : middle.machine.datamodel.get? key = _ := frames.committed commits key
          rw [here, ← Option.or_assoc, Option.or_self]
        · rw [same commits]
      · obtain ⟨deed, member, commits⟩ := some
        rcases List.mem_cons.1 member with rfl | inRest
        · rw [uncommitted fun other among there => again ⟨other, among, there⟩]
          exact frames.committed commits key
        · exact absurd ⟨deed, inRest, commits⟩ again

/-! ### Flush hooks -/

/-- Whether a stage may stand behind another one: the flush hook is told right after the commit. -/
def Stage.MayFollow (previous next : Stage) : Prop := next = .flush → previous = .commit

omit [Clocked σ] in
/-- The flush hook is told right after the commit, and nowhere else. -/
theorem Move.stages_ordered (move : Move) (setup : Setup σ) :
    (move.stages setup).IsChain Stage.MayFollow ∧
      ∀ stage ∈ (move.stages setup).head?, stage ≠ .flush := by
  unfold Move.stages Move.departure
  cases move.source with
  | none =>
    dsimp only
    split <;> simp [Stage.MayFollow]
  | some source =>
    dsimp only
    split <;> split <;> simp [Stage.MayFollow]

/-- The flush hook of a block is told what a commit of the block left, or stands first. -/
theorem Block.flush_behind_commit {move : Move} {stages : List Stage} {reply : StageReply}
    (block : Block setup payload move stages start deeds reply finish)
    (ordered : stages.IsChain Stage.MayFollow) :
    ∀ deed ∈ deeds, deed.stage = .flush →
      (stages.head? = some .flush ∧ deed.before = start) ∨
        ∃ commit ∈ deeds, commit.stage = .commit ∧ commit.move = deed.move ∧
          deed.before = commit.after := by
  induction block with
  | last performed =>
    refine List.forall_mem_singleton.2 fun flushes => ?_
    exact .inl ⟨congrArg some flushes, rfl⟩
  | failed performed =>
    refine List.forall_mem_singleton.2 fun flushes => ?_
    exact .inl ⟨congrArg some flushes, rfl⟩
  | @next stage later start middle finish event deeds reply performed rest ih =>
    obtain ⟨here, behind⟩ := List.isChain_cons.1 ordered
    refine List.forall_mem_cons.2 ⟨fun flushes => .inl ⟨congrArg some flushes, rfl⟩, ?_⟩
    intro deed member flushes
    rcases ih behind deed member flushes with ⟨first, same⟩ | ⟨commit, among, told⟩
    · have commits : stage = .commit := here .flush first rfl
      exact .inr ⟨_, List.mem_cons_self, commits, (rest.visits deed member).1.symm, same⟩
    · exact .inr ⟨commit, List.mem_cons_of_mem _ among, told⟩

/-- **The flush hook is told what the commit of the transition left.** -/
theorem Course.flush_behind_commit {move : Move} {sent : List (Nat × String)}
    {blocks : List (List (Deed σ))} {result : Except Error Unit}
    (course : Course setup payload sent move start blocks result finish) :
    ∀ deed ∈ blocks.flatten, deed.stage = .flush →
      ∃ commit ∈ blocks.flatten, commit.stage = .commit ∧ commit.move = deed.move ∧
        deed.before = commit.after := by
  have of_block : ∀ {move : Move} {start finish : Motion σ} {deeds : List (Deed σ)}
      {reply : StageReply},
      Block setup payload move (move.stages setup) start deeds reply finish →
        ∀ deed ∈ deeds, deed.stage = .flush →
          ∃ commit ∈ deeds, commit.stage = .commit ∧ commit.move = deed.move ∧
            deed.before = commit.after := by
    intro move start finish deeds reply block deed member flushes
    obtain ⟨ordered, head⟩ := move.stages_ordered setup
    rcases block.flush_behind_commit ordered deed member flushes with ⟨first, -⟩ | told
    · exact absurd rfl (head _ first)
    · exact told
  induction course with
  | failed block => exact List.flatten_singleton ▸ of_block block
  | settled block => exact List.flatten_singleton ▸ of_block block
  | refused block _ => exact List.flatten_singleton ▸ of_block block
  | onward block _ _ ih =>
    rw [List.flatten_cons]
    intro deed member flushes
    rcases List.mem_append.1 member with first | later
    · obtain ⟨commit, among, told⟩ := of_block block deed first flushes
      exact ⟨commit, List.mem_append_left _ among, told⟩
    · obtain ⟨commit, among, told⟩ := ih deed later flushes
      exact ⟨commit, List.mem_append_right _ among, told⟩

end Performing

/-! ### Calls -/

namespace Runner

variable [Clocked σ] {runner : Runner σ} {machine : Machine}

/-- **What a call does to the data of a machine.** Whether the call succeeds or fails and however
long its chain is, its deeds follow one another from the machine before the call to the one
afterwards, none of them changes more than a deed may, and the machine keeps its definition and its
type. Every flush hook is told what a commit left. If nothing that is called writes, then the data
are those of before if nothing was committed, and else what the payload gives stands in its place,
however often it was merged. -/
theorem make_merged (loaded : runner.machine = some machine) (call : Call) (payload : Value)
    (world : σ) :
    ∃ blocks now added,
      runner.Conducts call payload world blocks (runner.make call payload world) ∧
      (runner.make call payload world).2.1.machine = some now ∧
      now.chart = machine.chart ∧ now.name = machine.name ∧
      now.history = machine.history ++ added ∧
      Passage runner.toSetup payload ⟨machine, world⟩ blocks.flatten
        ⟨now, (runner.make call payload world).2.2⟩ ∧
      (∀ deed ∈ blocks.flatten, deed.Frames runner.toSetup payload ∧
        deed.before.machine.chart = machine.chart ∧ deed.before.machine.name = machine.name) ∧
      (∀ deed ∈ blocks.flatten, deed.stage = .flush →
        ∃ commit ∈ blocks.flatten, commit.stage = .commit ∧ commit.move = deed.move ∧
          deed.before = commit.after) ∧
      (added = [] ↔ ∀ deed ∈ blocks.flatten, deed.stage ≠ .commit) ∧
      ((∀ deed ∈ blocks.flatten, deed.Silent runner.toSetup payload) →
        (added = [] → now.datamodel = machine.datamodel) ∧
        (added ≠ [] → ∀ key, now.datamodel.get? key =
          (runner.given? payload key).or (machine.datamodel.get? key))) := by
  obtain ⟨blocks, unique⟩ := runner.conducts_iff call payload world
  have conducts := (unique blocks _).2 ⟨rfl, rfl⟩
  generalize runner.make call payload world = outcome at conducts
  refine ⟨blocks, ?_⟩
  cases conducts with
  | declined declines =>
    exact ⟨machine, [], .declined declines, loaded, rfl, rfl, (List.append_nil _).symm, .done _,
      fun deed member => (nomatch member), fun deed member => (nomatch member),
      ⟨fun _ deed member => (nomatch member), fun _ => rfl⟩,
      fun _ => ⟨fun _ => rfl, fun some => absurd rfl some⟩⟩
  | @conducted _ move _ result finish begins course =>
    cases begins.loaded.symm.trans loaded
    have passage := course.passage
    obtain ⟨each, chart, name⟩ := passage.frames
    obtain ⟨added, history, none⟩ := passage.history
    refine ⟨finish.machine, added, .conducted begins course, rfl, chart, name, history, passage,
      each, course.flush_behind_commit, none, fun silent => ?_⟩
    obtain ⟨uncommitted, committed⟩ := passage.merged silent
    refine ⟨fun nothing => uncommitted (none.1 nothing), fun some => committed ?_⟩
    by_contra never
    exact some (none.2 fun deed member commits => never ⟨deed, member, commits⟩)

/-! ### A rally with a ball -/

/-- A rally of an owner in which payloads are merged and nothing that is called writes. -/
def serving : Runner Nat :=
  { rallying with
    options := { mergePayload := true }, machine := some (restingRally.withOwner "ann") }

/-- Nothing that is called in the rally writes. -/
theorem silent_serving (payload : Value) (deed : Deed Nat) :
    deed.Silent serving.toSetup payload := by
  intro left leaves
  cases leaves with
  | @callback kind state callback _ known =>
    have unbound : serving.overrides.callback? state.name kind = none := by cases kind <;> rfl
    rw [Setup.callbackOf, unbound] at known
    cases declared : state.hooks.get kind <;>
      · rw [declared] at known
        cases known
  | @trigger state trigger _ known =>
    have unbound : serving.overrides.trigger? state.name = none := rfl
    rw [Setup.triggerOf, unbound] at known
    cases declared : state.hooks.get .trigger with
    | none =>
      rw [declared] at known
      cases known
    | some identifier =>
      rw [declared] at known
      cases known
      rfl

/-- The ball of the payload is among the data after three transitions, its owner is not. -/
theorem make_merged_rally :
    ∃ now, (serving.make .start theft 0).2.1.machine = some now ∧ now.history.length = 3 ∧
      now.datamodel.owner? = some "ann" ∧
      now.datamodel.get? "ball" = theft.field? "ball" := by
  obtain ⟨blocks, now, added, -, there, -, -, history, -, -, -, -, merged⟩ :=
    make_merged (show serving.machine = some _ from rfl) .start theft 0
  have length : (serving.make .start theft 0).2.1.machine.map (fun now : Machine =>
      now.history.length) = some 3 := by
    decide +kernel
  rw [there, Option.map_some, Option.some.injEq] at length
  have some : added ≠ [] := by
    rintro rfl
    rw [history] at length
    cases length
  have answers := (merged fun deed _ => silent_serving theft deed).2 some
  refine ⟨now, there, length, ?_, ?_⟩
  · unfold Datamodel.owner?
    rw [answers]
    rfl
  · have distinct : ([(ownerKey, Value.string "bob"), ("ball", .null)].map Prod.fst).Nodup := by
      decide
    have given : serving.given? theft "ball" = theft.field? "ball" :=
      Datamodel.given?_record distinct (by decide : "ball" ≠ ownerKey)
    rw [answers, given]
    rfl

end Runner

end Statechart
