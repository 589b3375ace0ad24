/-
**Verification at load.**

A runner that verifies callables looks at every identifier that the states of a chart declare. It
takes the machine exactly if each of them is covered by an override or stands for a callable, and
else it names the first that does not and is left unloaded. What is asked at load agrees with what
is asked in a run: no call reaches an identifier that stands for nothing, wherever it goes in the
chart, as long as what was covered at load stays covered.

* `Setup.Complete`: every declared identifier is covered or stands for something.
* `Setup.FirstMissing`: the first that does not, in order of states and of kinds.
* `Setup.Complete.not_misses`: a stage of a complete chart misses nothing.
* `Runner.load_verified`: what verification decides, and what it is good for.
-/

import Statechart.Proofs.Protocol.Blame
import Statechart.Proofs.Runner.Chaining

namespace Statechart

open Json

variable {σ α : Type}

/-! ### What is verified -/

/-- What a state declares for a kind is covered, or stands for a callable. -/
def Setup.Provides (setup : Setup σ) (state : State) (kind : HookKind) : Prop :=
  ∀ identifier, state.hooks.get kind = some identifier →
    setup.overrides.covers state.name kind = true ∨
      setup.resolver.canResolve identifier state.name kind = true

/-- **Whatever the states of a chart declare is covered, or stands for a callable.** -/
def Setup.Complete (setup : Setup σ) (chart : Chart) : Prop :=
  ∀ state ∈ chart.states, ∀ kind, setup.Provides state kind

/-- **The first identifier that is neither covered nor stands for a callable**, by the names of the
states and then by the kinds of hooks. -/
structure Setup.FirstMissing (setup : Setup σ) (chart : Chart) (state : State) (kind : HookKind)
    (identifier : String) : Prop where
  member : state ∈ chart.states
  declared : state.hooks.get kind = some identifier
  missing : ¬ setup.Provides state kind
  first : ∀ other ∈ chart.states, ∀ kind', ¬ setup.Provides other kind' →
    state.name < other.name ∨
      other = state ∧ HookKind.all.idxOf kind ≤ HookKind.all.idxOf kind'

theorem HookKind.mem_all (kind : HookKind) : kind ∈ all := by
  cases kind <;> decide

namespace Runner

variable {setup : Setup σ} {chart : Chart} {state : State} {kind : HookKind} {error : Error}

theorem hookFault?_eq_none_iff :
    hookFault? setup state kind = none ↔ setup.Provides state kind := by
  unfold hookFault? Setup.Provides
  cases state.hooks.get kind with
  | none => simp
  | some identifier =>
    cases setup.overrides.covers state.name kind <;>
      cases setup.resolver.canResolve identifier state.name kind <;> simp

theorem of_hookFault? (fault : hookFault? setup state kind = some error) :
    ∃ identifier, state.hooks.get kind = some identifier ∧
      error = undefinedHook state.name kind identifier := by
  unfold hookFault? at fault
  cases declared : state.hooks.get kind with
  | none => rw [declared] at fault; cases fault
  | some identifier =>
    rw [declared] at fault
    dsimp only at fault
    split at fault
    · cases fault
    · split at fault
      · cases fault
      · exact ⟨identifier, rfl, (Option.some.inj fault).symm⟩

theorem kind_firstFault? (fault : firstFault? setup chart = some error) :
    error.kind = .resolution := by
  obtain ⟨state, -, found⟩ := List.exists_of_findSome?_eq_some fault
  obtain ⟨kind, -, found'⟩ := List.exists_of_findSome?_eq_some found
  obtain ⟨identifier, -, rfl⟩ := of_hookFault? found'
  exact kind_undefinedHook state.name kind identifier

/-- **No fault is found exactly in a complete chart.** -/
theorem firstFault?_eq_none_iff : firstFault? setup chart = none ↔ setup.Complete chart := by
  unfold firstFault? Setup.Complete
  simp only [List.findSome?_eq_none_iff, hookFault?_eq_none_iff]
  exact forall₂_congr fun state _ =>
    ⟨fun provides kind => provides kind kind.mem_all, fun provides kind _ => provides kind⟩

/-- **The fault that is found is the first.** -/
theorem of_firstFault? (built : chart.Built) (fault : firstFault? setup chart = some error) :
    ∃ state kind identifier, setup.FirstMissing chart state kind identifier ∧
      error = undefinedHook state.name kind identifier := by
  obtain ⟨before, state, after, split, found, earlier⟩ := List.findSome?_eq_some_iff.1 fault
  obtain ⟨before', kind, after', split', found', earlier'⟩ := List.findSome?_eq_some_iff.1 found
  obtain ⟨identifier, declared, same⟩ := of_hookFault? found'
  have missing : ¬ setup.Provides state kind := fun provides => by
    cases (hookFault?_eq_none_iff.2 provides).symm.trans found'
  have member : state ∈ chart.states := split ▸ List.mem_append_right _ List.mem_cons_self
  refine ⟨state, kind, identifier, ⟨member, declared, missing, ?_⟩, same⟩
  intro other among kind' missing'
  rw [split, List.mem_append, List.mem_cons] at among
  rcases among with early | rfl | late
  · have nothing := List.findSome?_eq_none_iff.1 (earlier other early) kind' kind'.mem_all
    exact absurd (hookFault?_eq_none_iff.1 nothing) missing'
  · refine .inr ⟨rfl, ?_⟩
    have notEarly : ∀ {kind}, ¬ setup.Provides other kind → kind ∉ before' := fun missing early =>
      missing (hookFault?_eq_none_iff.1 (earlier' _ early))
    rw [split', List.idxOf_append_of_notMem (notEarly missing), List.idxOf_cons_self,
      List.idxOf_append_of_notMem (notEarly missing')]
    exact Nat.add_le_add_left (Nat.zero_le _) _
  · have ascending := built.ascending
    rw [split, List.map_append, List.map_cons, List.pairwise_append, List.pairwise_cons]
      at ascending
    exact .inl (ascending.2.1.1 other.name (List.mem_map_of_mem late))

variable {runner : Runner σ} {machine : Machine}

/-- A runner that verifies callables is loaded if no fault is found. -/
theorem load_of_sound (verifies : runner.options.verifyCallbacksOnLoad = true)
    (sound : firstFault? runner.toSetup machine.chart = none) :
    runner.load machine = (.ok (), { runner with machine := some machine }) := by
  unfold load
  rw [if_pos verifies, sound]

/-- A runner that verifies callables is left unloaded with the fault that is found. -/
theorem load_of_fault (verifies : runner.options.verifyCallbacksOnLoad = true)
    (fault : firstFault? runner.toSetup machine.chart = some error) :
    runner.load machine = (.error error, runner.clear) := by
  unfold load
  rw [if_pos verifies, fault]

/-- Loading fails with the first fault, where callables are verified. -/
theorem of_load_error (failed : (runner.load machine).1 = .error error) :
    runner.options.verifyCallbacksOnLoad = true ∧
      firstFault? runner.toSetup machine.chart = some error := by
  unfold load at failed
  dsimp only at failed
  split at failed
  · next found =>
    cases failed
    split at found
    · next verifies => exact ⟨verifies, found⟩
    · cases found
  · cases failed

end Runner

/-! ### What is asked in a run -/

/-- An identifier stands for nothing if nothing is bound in its place. -/
theorem Assigned.of_undefined {bound : Option (Callable σ α)} {declared : Option String}
    {resolve : String → Option (Callable σ α)} {identifier : String}
    (unknown : Assigned.of bound declared resolve = .undefined identifier) :
    bound = none ∧ declared = some identifier ∧ resolve identifier = none := by
  cases bound with
  | some callable => cases unknown
  | none =>
    cases declared with
    | none => cases unknown
    | some name =>
      unfold Assigned.of at unknown
      dsimp only at unknown
      split at unknown
      · cases unknown
      · next missing =>
        cases unknown
        exact ⟨rfl, rfl, missing⟩

section Missing

variable {setup : Setup σ} {state : State} {kind : HookKind} {identifier : String}

/-- A callback that stands for nothing was not provided for. -/
theorem Setup.not_provides_callback (callback : kind ≠ .trigger)
    (unknown : setup.callbackOf state kind = .undefined identifier) :
    ¬ setup.Provides state kind := by
  obtain ⟨unbound, declared, missing⟩ := Assigned.of_undefined unknown
  intro provides
  have covered : setup.overrides.covers state.name kind = false := by
    cases kind <;> first | exact absurd rfl callback | exact Option.isSome_eq_false_iff.2 (by
      rw [unbound]; rfl)
  have resolved : setup.resolver.canResolve identifier state.name kind = false := by
    cases kind <;> first | exact absurd rfl callback | exact Option.isSome_eq_false_iff.2 (by
      rw [missing]; rfl)
  rcases provides identifier declared with covers | resolves
  · cases covered.symm.trans covers
  · cases resolved.symm.trans resolves

/-- A trigger that stands for nothing was not provided for. -/
theorem Setup.not_provides_trigger (unknown : setup.triggerOf state = .undefined identifier) :
    ¬ setup.Provides state .trigger := by
  obtain ⟨unbound, declared, missing⟩ := Assigned.of_undefined unknown
  intro provides
  rcases provides identifier declared with covers | resolves
  · unfold Overrides.covers at covers
    rw [unbound] at covers
    cases covers
  · unfold Resolver.canResolve at resolves
    dsimp only at resolves
    rw [missing] at resolves
    cases resolves

/-- The hooks of a transition are callbacks of its source or its destination. -/
theorem Move.of_mem_stages_hook {move : Move} (among : .hook kind state ∈ move.stages setup) :
    kind ≠ .trigger ∧
      (state = move.destination.state ∨ ∃ source ∈ move.source, state = source.state) := by
  unfold stages departure at among
  simp only [List.mem_append] at among
  rcases among with ((leaving | entering) | telling) | acting
  · split at leaving
    · cases leaving
    · next source there =>
      split at leaving <;>
        simp only [List.mem_cons, Stage.hook.injEq, List.not_mem_nil, or_false] at leaving
      · rcases leaving with ⟨rfl, rfl⟩ | ⟨rfl, rfl⟩ <;>
          exact ⟨nofun, .inr ⟨source, there, rfl⟩⟩
      · obtain ⟨rfl, rfl⟩ := leaving
        exact ⟨nofun, .inr ⟨source, there, rfl⟩⟩
  · simp only [List.mem_cons, Stage.hook.injEq, reduceCtorEq, List.not_mem_nil, or_self,
      or_false] at entering
    obtain ⟨rfl, rfl⟩ := entering
    exact ⟨nofun, .inl rfl⟩
  · split at telling <;> simp at telling
  · simp only [List.mem_cons, Stage.hook.injEq, reduceCtorEq, List.not_mem_nil, or_self,
      or_false] at acting
    rcases acting with ⟨rfl, rfl⟩ | ⟨rfl, rfl⟩ <;> exact ⟨nofun, .inl rfl⟩

end Missing

/-- **A stage of a complete chart misses nothing.** -/
theorem Setup.Complete.not_misses {setup : Setup σ} {chart : Chart}
    (complete : setup.Complete chart) {deed : Deed σ} (within : deed.move.Within chart)
    (visits : deed.stage ∈ deed.move.stages setup) (error : Error) : ¬ deed.Misses setup error := by
  intro misses
  cases misses with
  | @callback kind state identifier stage unknown =>
    rw [stage] at visits
    obtain ⟨callback, whose⟩ := Move.of_mem_stages_hook visits
    have member : state ∈ chart.states := by
      rcases whose with rfl | ⟨source, left, rfl⟩
      · exact Chart.mem_of_place? within.destination
      · exact Chart.mem_of_place? (within.source source left)
    exact Setup.not_provides_callback callback unknown (complete state member kind)
  | @trigger state identifier stage unknown =>
    rw [stage] at visits
    obtain ⟨before, ending, quiet⟩ := deed.move.stages_trigger setup
    have member : state ∈ chart.states := by
      rw [ending, List.mem_append, List.mem_singleton] at visits
      rcases visits with early | same
      · exact absurd rfl (quiet _ early state)
      · cases same
        exact Chart.mem_of_place? within.destination
    exact Setup.not_provides_trigger unknown (complete state member .trigger)

/-! ### Runs -/

/-- Operations that keep the machine loaded, and covered whatever some overrides cover. -/
def Operation.KeepsCovered (overrides : Overrides σ) : Operation σ → Prop
  | call _ _ | flush | modifyData _ => True
  | override later => ∀ state kind, overrides.covers state kind = true →
      later.covers state kind = true
  | _ => False

namespace Runner

/-- A runner with a machine of a chart that is loaded as a setup let it, and has everything covered
that the setup had. -/
structure Verified (setup : Setup σ) (chart : Chart) (runner : Runner σ) : Prop where
  resolver : runner.resolver = setup.resolver
  covers : ∀ state kind, setup.overrides.covers state kind = true →
    runner.overrides.covers state kind = true
  loaded : ∃ machine, runner.machine = some machine ∧ machine.chart = chart

namespace Verified

variable {setup : Setup σ} {chart : Chart} {runner : Runner σ}

/-- What was complete is complete while no covering is lost. -/
theorem complete (verified : runner.Verified setup chart) (complete : setup.Complete chart) :
    runner.toSetup.Complete chart := by
  intro state member kind identifier declared
  rcases complete state member kind identifier declared with covered | resolved
  · exact .inl (verified.covers state.name kind covered)
  · rw [verified.resolver]
    exact .inr resolved

variable [Clocked σ]

theorem perform (verified : runner.Verified setup chart) {operation : Operation σ}
    (keeps : operation.KeepsCovered setup.overrides) (world : σ) :
    (operation.perform runner world).1.Verified setup chart := by
  obtain ⟨resolver, covers, machine, loaded, rfl⟩ := verified
  cases operation with
  | call made payload =>
    have same := runner.toSetup_make made payload world
    refine ⟨?_, ?_, ?_⟩
    · exact (congrArg Setup.resolver same).trans resolver
    · show ∀ state kind, _ → (runner.make made payload world).2.1.toSetup.overrides.covers _ _ = _
      rw [same]
      exact covers
    · show ∃ now, (runner.make made payload world).2.1.machine = some now ∧ _
      rcases make_cases loaded made payload world with
        left | ⟨move, blocks, result, finish, begins, course, there, -⟩
      · rw [left]
        exact ⟨machine, loaded, rfl⟩
      · obtain ⟨_, _, _, _, _, whole⟩ := course.linked
        exact ⟨finish.machine, there, whole.chart⟩
  | flush =>
    have same := runner.toSetup_flush world
    refine ⟨(congrArg Setup.resolver same).trans resolver, ?_, machine,
      (Operation.machine_flush runner world).trans loaded, rfl⟩
    show ∀ state kind, _ → (runner.flush world).2.1.toSetup.overrides.covers _ _ = _
    rw [same]
    exact covers
  | modifyData change =>
    unfold Operation.perform modifyData
    rw [loaded]
    exact ⟨resolver, covers, _, rfl, rfl⟩
  | override later => exact ⟨resolver, keeps, machine, loaded, rfl⟩
  | resume _ => cases keeps
  | load _ => cases keeps
  | loadDump _ => cases keeps
  | loadDescription _ => cases keeps
  | clear => cases keeps

theorem run (verified : runner.Verified setup chart) {operations : List (Operation σ)}
    (keeps : ∀ operation ∈ operations, operation.KeepsCovered setup.overrides) (world : σ) :
    (Operation.run operations runner world).1.Verified setup chart := by
  induction operations generalizing runner world with
  | nil => exact verified
  | cons operation operations ih =>
    exact ih (verified.perform (keeps operation List.mem_cons_self) world)
      (fun later member => keeps later (List.mem_cons_of_mem _ member)) _

/-- **No call of a verified runner misses anything.** If a call fails because an identifier cannot
be resolved then what was called says so. -/
theorem make (verified : runner.Verified setup chart) (complete : setup.Complete chart)
    (call : Call) (payload : Value) (world : σ) :
    ∃ blocks, runner.Conducts call payload world blocks (runner.make call payload world) ∧
      (∀ deed ∈ blocks.flatten, ∀ error, ¬ deed.Misses runner.toSetup error) ∧
      ∀ error, (runner.make call payload world).1 = .error error → error.kind = .resolution →
        ∃ deed ∈ blocks.flatten, deed.Raises runner.toSetup payload error := by
  obtain ⟨blocks, unique⟩ := runner.conducts_iff call payload world
  have conducts := (unique blocks _).2 ⟨rfl, rfl⟩
  generalize runner.make call payload world = outcome at conducts ⊢
  have finds : ∀ deed ∈ blocks.flatten, ∀ error, ¬ deed.Misses runner.toSetup error := by
    obtain ⟨machine, loaded, rfl⟩ := verified.loaded
    cases conducts with
    | declined _ => exact fun deed member => nomatch member
    | conducted begins course =>
      cases begins.loaded.symm.trans loaded
      intro deed member
      obtain ⟨within, visits⟩ := course.visits begins.within deed member
      exact (verified.complete complete).not_misses within visits
  refine ⟨blocks, conducts, finds, fun error failed unresolved => ?_⟩
  rcases conducts.blamed failed with declines | blamed
  · cases declines <;> cases unresolved
  · cases blamed with
    | raised among raises => exact ⟨_, among, raises⟩
    | missed among misses => exact absurd misses (finds _ among error)
    | unflushed _ => cases unresolved
    | unchained kind => cases kind.symm.trans unresolved

end Verified

variable [Clocked σ]

/-- **Verification at load is exact, and enough for every run.** A runner that verifies callables is
loaded if and only if whatever the chart declares is covered or stands for a callable. If not, the
first that is missing is named by the error of its kind, and the runner is left unloaded. If so, no
call misses anything after any operations that keep covered what was covered, and an error of
resolution is raised by what is called. -/
theorem load_verified {runner : Runner σ} (verifies : runner.options.verifyCallbacksOnLoad = true)
    {machine : Machine} (built : machine.chart.Built) :
    ((runner.load machine).1 = .ok () ↔ runner.toSetup.Complete machine.chart) ∧
    ((runner.load machine).1 ≠ .ok () → ∃ state kind identifier,
      runner.toSetup.FirstMissing machine.chart state kind identifier ∧
      runner.load machine = (.error (undefinedHook state.name kind identifier), runner.clear)) ∧
    ((runner.load machine).1 = .ok () → ∀ operations : List (Operation σ),
      (∀ operation ∈ operations, operation.KeepsCovered runner.overrides) →
      ∀ (world : σ) (call : Call) (payload : Value),
      let left := Operation.run operations (runner.load machine).2 world
      ∃ blocks, left.1.Conducts call payload left.2 blocks (left.1.make call payload left.2) ∧
        (∀ deed ∈ blocks.flatten, ∀ error, ¬ deed.Misses left.1.toSetup error) ∧
        ∀ error, (left.1.make call payload left.2).1 = .error error → error.kind = .resolution →
          ∃ deed ∈ blocks.flatten, deed.Raises left.1.toSetup payload error) := by
  cases fault : firstFault? runner.toSetup machine.chart with
  | none =>
    rw [load_of_sound verifies fault]
    have complete := firstFault?_eq_none_iff.1 fault
    refine ⟨⟨fun _ => complete, fun _ => rfl⟩, fun failed => absurd rfl failed, ?_⟩
    intro _ operations keeps world call payload
    have verified : Verified runner.toSetup machine.chart { runner with machine := some machine } :=
      ⟨rfl, fun _ _ covered => covered, machine, rfl, rfl⟩
    exact (verified.run keeps world).make complete call payload _
  | some error =>
    rw [load_of_fault verifies fault]
    obtain ⟨state, kind, identifier, missing, rfl⟩ := of_firstFault? built fault
    refine ⟨⟨nofun, fun complete => ?_⟩, fun _ => ⟨state, kind, identifier, missing, rfl⟩, nofun⟩
    exact absurd (complete state missing.member kind) missing.missing

/-! ### A rally that one side cannot play -/

/-- A runner that has a trigger bound to one state, and resolves nothing. -/
def onesided : Runner Nat where
  resolver := .none
  overrides := Overrides.bindTrigger ∅ "ping" fun _ datamodel world =>
    { result := .ok "next", datamodel, world }

/-- The trigger of the other state is missing. -/
theorem load_verified_rally : ∃ state,
    onesided.toSetup.FirstMissing rally state .trigger "next" ∧ state.name = "pong" := by
  have verifies : onesided.options.verifyCallbacksOnLoad = true := rfl
  have built : restingRally.chart.Built := built_rally
  obtain ⟨-, fails, -⟩ := load_verified verifies built
  have failed : (onesided.load restingRally).1 = .error (.undefinedTrigger "pong" "next") := by
    decide +kernel
  obtain ⟨state, kind, identifier, missing, left⟩ := fails (by rw [failed]; exact nofun)
  rw [left, Except.error.injEq] at failed
  cases kind with
  | trigger =>
    obtain ⟨named, rfl⟩ := Error.undefinedTrigger.inj failed
    exact ⟨state, missing, named⟩
  | _ => cases failed

end Runner

end Statechart
