/-
**What a refusal leaves.**

Before a pool takes a runner from its machine for the sake of another machine, it looks for a runner
to take, fetches the machine that is asked for, and writes the one that has to go. Whatever fails
until then leaves the machines of all runners, the guards that are out and what is kept as they
were. Only whether the callables of the fetched machine can be resolved is found out later, when the
runner has lost its machine.

* `Session.Unchanged`: the same machines are resident, lent and kept.
* `Session.Refuses`: what a request leaves that is answered with an error.
* `Session.Refuses.unchanged_iff`: when nothing is changed.
* `Session.refuses_dealt`: any request for a runner, after any deals.
-/

import Statechart.Proofs.Pool.Table
import Statechart.Proofs.Runner.Verification

namespace Statechart

variable {σ : Type} {kept : σ → MachineKey → Option Bytes}

/-! ### What is changed -/

/-- The key of a slot, and the machine that its runner holds if the runner is there. -/
def Slot.seen (slot : Slot σ) : Option MachineKey × Option (Option Machine) :=
  (slot.key, slot.runner.map Runner.machine)

/-- **The same machines are resident, lent and kept.** -/
structure Session.Unchanged (kept : σ → MachineKey → Option Bytes) (session next : Session σ) :
    Prop where
  slots : next.pool.slots.map Slot.seen = session.pool.slots.map Slot.seen
  guards : next.guards = session.guards
  kept : kept next.world = kept session.world

/-- A request for the runner of a key, or for an emptied one in its place. -/
inductive Request.IsFor (key : MachineKey) : Request σ → Prop
  | acquire : IsFor key (.acquire key)
  | acquireCurrent : IsFor key (.acquireCurrent key)
  | acquireForEviction : IsFor key (.acquireForEviction key)

/-- Whether an error is that of an identifier that stands for nothing. -/
def PoolError.isUnresolved : PoolError → Bool
  | .core error => error.kind = .resolution
  | _ => false

/-- The slot after its runner is emptied. -/
def Slot.emptied (slot : Slot σ) : Slot σ :=
  { slot with runner := slot.runner.map Pool.emptied, key := none }

theorem Slot.emptied_runner {slot : Slot σ} {runner : Runner σ}
    (there : slot.runner = some runner) : slot.emptied.runner = some (Pool.emptied runner) := by
  unfold Slot.emptied
  rw [there, Option.map_some]

theorem Slot.isFree_iff {slot : Slot σ} {runner : Runner σ} (there : slot.runner = some runner) :
    slot.isFree = true ↔ runner.machine = none := by
  unfold Slot.isFree Runner.isLoaded
  rw [there, Option.any_some, Bool.not_eq_true', Option.isSome_eq_false_iff,
    Option.isNone_iff_eq_none]

/-- What is kept after the machine of a slot is written, if it has a key. -/
def Slot.written (slot : Slot σ) (kept : MachineKey → Option Bytes) : MachineKey → Option Bytes :=
  match slot.key, slot.runner.bind Runner.machine with
  | some key, some machine => Function.update kept key (some (machine.encode .binary))
  | _, _ => kept

/-- **What a request for a runner leaves that is answered with an error.** -/
inductive Session.Refuses (kept : σ → MachineKey → Option Bytes) (session : Session σ)
    (key : MachineKey) : Request σ → PoolError → Session σ → Prop
  /-- The pool and what is kept are as they were. -/
  | early {request : Request σ} {error : PoolError} {world : σ}
      (resolved : error.isUnresolved = false) (same : kept world = kept session.world) :
      Refuses kept session key request error { session with world }
  /-- A runner is emptied after its machine is written, and then the machine that was fetched for it
  declares an identifier that stands for nothing. -/
  | late {position : Nat} {slot : Slot σ} {runner : Runner σ} {machine : Machine} {fault : Error}
      {world : σ} (absent : session.pool.Lacks key)
      (taken : session.pool.evictionCandidate? key = some position)
      (stands : session.pool.slots[position]? = some slot) (there : slot.runner = some runner)
      (fetched : session.Fetches kept key machine)
      (verifies : runner.options.verifyCallbacksOnLoad = true)
      (found : Runner.firstFault? runner.toSetup machine.chart = some fault)
      (written : kept world = slot.written (kept session.world)) :
      Refuses kept session key (.acquire key) (.core fault)
        { session with pool := session.pool.withSlot position slot.emptied, world }

/-- The keys of the resident machines are seen. -/
theorem Session.Unchanged.residentKeys {session next : Session σ}
    (unchanged : session.Unchanged kept next) :
    next.pool.residentKeys = session.pool.residentKeys := by
  have keys : ∀ slots : List (Slot σ),
      slots.filterMap Slot.key = (slots.map Slot.seen).filterMap Prod.fst := by
    intro slots
    rw [List.filterMap_map]
    rfl
  unfold Pool.residentKeys
  rw [keys, keys, unchanged.slots]

/-! ### Steps that fail -/

/-- A machine that cannot be written is no matter of identifiers. -/
theorem PoolError.OfWriting.resolved {error : PoolError} (of_writing : error.OfWriting) :
    error.isUnresolved = false := by
  cases of_writing <;> rfl

/-- A machine that cannot be fetched is no matter of identifiers. -/
theorem PoolError.OfFetching.resolved {error : PoolError} {key : MachineKey}
    (of_fetching : error.OfFetching key) : error.isUnresolved = false := by
  cases of_fetching <;> rfl

namespace Pool

variable {pool : Pool σ} {position : Nat} {slot : Slot σ} {runner : Runner σ} {key : MachineKey}
  {error : PoolError}

theorem getElem?_withSlot (stands : pool.slots[position]? = some slot) (slot' : Slot σ) :
    (pool.withSlot position slot').slots[position]? = some slot' :=
  List.getElem?_set_self (List.getElem?_eq_some_iff.1 stands).1

/-- **An eviction writes and empties**, or it fails and changes nothing. -/
theorem evict_writes (keeps : pool.store.Keeps kept) (stands : pool.slots[position]? = some slot)
    (world : σ) :
    (∃ world', pool.evict position world = (.ok (), pool.withSlot position slot.emptied, world') ∧
        kept world' = slot.written (kept world)) ∨
      ∃ error world', pool.evict position world = (.error error, pool, world') ∧
        error.isUnresolved = false ∧ kept world' = kept world := by
  unfold evict Slot.written
  rw [stands]
  rcases persistSlot_cases keeps slot world with ⟨quiet, unloaded⟩ |
    ⟨key, runner, machine, there, keyed, loaded, ⟨world', written, saved⟩ |
      ⟨error, world', refused, same⟩⟩
  · refine .inl ⟨world, ?_, ?_⟩
    · simp only [quiet]
      rfl
    · cases keyed : slot.key with
      | none => rfl
      | some key =>
        cases there : slot.runner with
        | none => rfl
        | some runner =>
          have nothing := unloaded runner there (by rw [keyed]; exact Option.some_ne_none key)
          rw [Option.bind_some, nothing]
  · refine .inl ⟨world', ?_, ?_⟩
    · simp only [written]
      rfl
    · rw [saved, keyed, there, Option.bind_some, loaded]
  · have resolved := (persistSlot_error (congrArg Prod.fst refused)).resolved
    refine .inr ⟨error, world', ?_, resolved, same⟩
    simp only [refused]

/-- An emptied runner that cannot be lent for a machine is left as it is, and the first fault of the
machine is told. -/
theorem lend_fails (stands : pool.slots[position]? = some slot) (there : slot.runner = some runner)
    (unloaded : runner.machine = none) {machine : Machine} {pool' : Pool σ}
    (left : pool.lend position key machine = (.error error, pool')) :
    pool' = pool ∧ ∃ fault, error = .core fault ∧
      runner.options.verifyCallbacksOnLoad = true ∧
      Runner.firstFault? runner.toSetup machine.chart = some fault := by
  have loading : ∀ {fault : Error}, (pool.lend position key machine).1 = .error (.core fault) →
      (runner.load machine).1 = .error fault := by
    intro fault failed
    unfold lend fill at failed
    rw [stands] at failed
    dsimp only at failed
    rw [there] at failed
    rcases loaded : runner.load machine with ⟨fault' | _, runner'⟩
    · simp only [loaded] at failed
      cases failed
      rfl
    · simp only [loaded] at failed
      unfold checkOut at failed
      rw [checkOut?_eq (getElem?_withSlot stands _) rfl] at failed
      cases failed
  rcases lend_cases stands there unloaded key machine with ⟨fault, failed⟩ | lent
  · have found := Runner.of_load_error (loading (congrArg Prod.fst failed))
    rw [failed] at left
    cases left
    exact ⟨rfl, fault, rfl, found⟩
  · rw [lent] at left
    cases left

/-- Of a slot that was emptied a runner without a machine is seen. -/
theorem seen_emptied (pool : Pool σ) (position : Nat) (there : slot.runner = some runner) :
    (pool.withSlot position slot.emptied).slots.map Slot.seen =
      (pool.slots.map Slot.seen).set position (none, some none) := by
  unfold withSlot
  rw [List.map_set]
  unfold Slot.seen
  rw [Slot.emptied_runner there]
  rfl

/-- An idle runner may be taken for a machine that is not resident. -/
theorem mem_candidates (absent : pool.Lacks key) {place : Nat}
    (stands : pool.slots[place]? = some slot) (there : slot.runner = some runner) :
    (slot, place) ∈ pool.candidates key := by
  refine List.mem_filter.2 ⟨List.mem_zipIdx_iff_getElem?.2 stands, ?_⟩
  simp [Slot.mayLose, there, absent slot (List.mem_of_getElem? stands)]

/-- The runner to take for a machine that is not resident holds no machine exactly if some runner
holds none. -/
theorem machine_eq_none_iff (absent : pool.Lacks key)
    (taken : pool.evictionCandidate? key = some position)
    (stands : pool.slots[position]? = some slot) (there : slot.runner = some runner) :
    runner.machine = none ↔ ∃ other ∈ pool.slots, other.isFree = true := by
  rw [← Slot.isFree_iff there]
  constructor
  · intro free
    exact ⟨slot, List.mem_of_getElem? stands, free⟩
  · rintro ⟨other, member, free⟩
    obtain ⟨place, among⟩ := List.mem_iff_getElem?.1 member
    unfold evictionCandidate? at taken
    dsimp only at taken
    split at taken
    · next entry position' found =>
      cases taken
      have stands' := (of_mem_candidates (List.mem_of_find?_eq_some found)).1
      cases stands.symm.trans stands'
      have first := List.find?_some found
      exact first
    · next nothing =>
      obtain ⟨runner', there', -⟩ := (Option.any_eq_true _ _).1 free
      have candidate := mem_candidates absent among there'
      exact absurd free (List.find?_eq_none.1 nothing (other, place) candidate)

end Pool

/-! ### Requests that fail -/

namespace Session

variable {session : Session σ} {key : MachineKey} {error : PoolError} {pool : Pool σ} {world : σ}

/-- The runner of a machine that is resident and lent is not lent again. -/
theorem acquireCurrent_refuses
    (left : session.pool.acquireCurrent key = (.error error, pool)) :
    session.Refuses kept key (.acquireCurrent key) error { session with pool } := by
  unfold Pool.acquireCurrent at left
  cases resident : session.pool.residentAt? key with
  | none => rw [resident] at left; cases left
  | some position =>
    rw [resident] at left
    dsimp only at left
    cases lent : session.pool.checkOut? position with
    | none =>
      rw [lent] at left
      cases left
      exact .early rfl rfl
    | some left' =>
      rw [lent] at left
      dsimp only at left
      split at left <;> cases left

/-- No runner can be emptied, or the machine that has to go cannot be written. -/
theorem acquireForEviction_refuses (keeps : session.pool.store.Keeps kept)
    (left : session.pool.acquireForEviction key session.world = (.error error, pool, world)) :
    session.Refuses kept key (.acquireForEviction key) error { session with pool, world } := by
  unfold Pool.acquireForEviction at left
  cases taken : session.pool.evictionCandidate? key with
  | none =>
    rw [taken] at left
    cases left
    exact .early rfl rfl
  | some position =>
    obtain ⟨slot, runner, stands, there, -⟩ := Pool.of_evictionCandidate? taken
    rw [taken] at left
    dsimp only at left
    rcases Pool.evict_writes keeps stands session.world with
      ⟨world', emptied, -⟩ | ⟨error', world', failed, resolved, same⟩
    · rw [emptied] at left
      dsimp only at left
      unfold Pool.checkOut at left
      rw [Pool.checkOut?_eq (Pool.getElem?_withSlot stands _) (Slot.emptied_runner there)] at left
      cases left
    · rw [failed] at left
      cases left
      exact .early resolved same

/-- **A machine that is not resident is not given**: no runner can be taken, the machine cannot be
fetched or the other one not written, and nothing is changed; or else it cannot be loaded. -/
theorem acquireAbsent_refuses (keeps : session.pool.store.Keeps kept)
    (absent : session.pool.Lacks key)
    (left : session.pool.acquireAbsent key session.world = (.error error, pool, world)) :
    session.Refuses kept key (.acquire key) error { session with pool, world } := by
  unfold Pool.acquireAbsent at left
  cases taken : session.pool.evictionCandidate? key with
  | none =>
    rw [taken] at left
    cases left
    exact .early rfl rfl
  | some position =>
    obtain ⟨slot, runner, stands, there, -⟩ := Pool.of_evictionCandidate? taken
    obtain ⟨quiet, fetches⟩ := session.fetch_cases keeps key
    rw [taken] at left
    dsimp only at left
    rcases fetched : session.pool.fetch key session.world with ⟨error' | machine, world₁⟩
    · rw [fetched] at left quiet
      cases left
      exact .early (Pool.fetch_error (congrArg Prod.fst fetched)).resolved quiet
    rw [fetched] at left quiet
    dsimp only at left quiet
    rcases Pool.evict_writes keeps stands world₁ with
      ⟨world₂, emptied, written⟩ | ⟨error', world₂, failed, resolved', same⟩
    · rw [emptied] at left
      dsimp only at left
      rcases lent : (session.pool.withSlot position slot.emptied).lend position key machine with
        ⟨error' | guard, pool'⟩
      · rw [lent] at left
        cases left
        obtain ⟨rfl, fault, rfl, verifies, found⟩ :=
          Pool.lend_fails (Pool.getElem?_withSlot stands _) (Slot.emptied_runner there) rfl lent
        rw [quiet] at written
        exact .late absent taken stands there (fetches machine (by rw [fetched])) verifies found
          written
      · rw [lent] at left
        cases left
    · rw [failed] at left
      cases left
      exact .early resolved' (same.trans quiet)

/-- A machine is not given because it is lent, or because it is not resident. -/
theorem acquire_refuses (keeps : session.pool.store.Keeps kept)
    (left : session.pool.acquire key session.world = (.error error, pool, world)) :
    session.Refuses kept key (.acquire key) error { session with pool, world } := by
  unfold Pool.acquire at left
  cases resident : session.pool.residentAt? key with
  | none =>
    rw [resident] at left
    exact acquireAbsent_refuses keeps (Pool.lacks_of_residentAt? resident) left
  | some position =>
    rw [resident] at left
    dsimp only at left
    cases lent : session.pool.checkOut? position with
    | none =>
      rw [lent] at left
      cases left
      exact .early rfl rfl
    | some left' => rw [lent] at left; cases left

end Session

/-- **Any request for a runner that is answered with an error.** -/
theorem Request.refuses [Clocked σ] {session : Session σ} {key : MachineKey} {request : Request σ}
    {error : PoolError} (keeps : session.pool.store.Keeps kept) (asks : request.IsFor key)
    (failed : (request.perform session).1 = .error error) :
    session.Refuses kept key request error (request.perform session).2 := by
  have failedOf : ∀ {result : Except PoolError (Guard σ)},
      result.map some = .error error → result = .error error := by
    intro result failed
    cases result with
    | error _ => cases failed; rfl
    | ok _ => cases failed
  cases asks with
  | acquire =>
    unfold perform at failed ⊢
    dsimp only at failed ⊢
    rw [failed, Session.lend_error]
    exact Session.acquire_refuses keeps (Prod.ext (failedOf failed) rfl)
  | acquireCurrent =>
    unfold perform at failed ⊢
    dsimp only at failed ⊢
    rw [failed, Session.lend_error]
    exact Session.acquireCurrent_refuses (Prod.ext failed rfl)
  | acquireForEviction =>
    unfold perform at failed ⊢
    dsimp only at failed ⊢
    rw [failed, Session.lend_error]
    exact Session.acquireForEviction_refuses keeps (Prod.ext (failedOf failed) rfl)

/-! ### When nothing is changed -/

/-- **A refusal changes nothing**, unless an identifier stands for nothing and no runner is free. -/
theorem Session.Refuses.unchanged_iff {options : PoolOptions} {made : List (Runner σ)}
    {session next : Session σ} {key : MachineKey} {request : Request σ} {error : PoolError}
    (tabled : Tabled options made session.pool session.guards)
    (refuses : session.Refuses kept key request error next) :
    session.Unchanged kept next ↔
      error.isUnresolved = false ∨ ∃ slot ∈ session.pool.slots, slot.isFree = true := by
  cases refuses with
  | early resolved same => exact ⟨fun _ => .inl resolved, fun _ => ⟨rfl, rfl, same⟩⟩
  | @late position slot runner machine fault world absent taken stands there _ _ found written =>
    have unresolved : (PoolError.core fault).isUnresolved = true :=
      decide_eq_true (Runner.kind_firstFault? found)
    have inside : position < (session.pool.slots.map Slot.seen).length := by
      rw [List.length_map]
      exact (List.getElem?_eq_some_iff.1 stands).1
    have before : (session.pool.slots.map Slot.seen)[position]? = some slot.seen := by
      rw [List.getElem?_map, stands, Option.map_some]
    -- Only what is seen of the slot that was emptied may change.
    have after := session.pool.seen_emptied position there
    rw [unresolved, ← Pool.machine_eq_none_iff absent taken stands there]
    constructor
    · intro unchanged
      have same : some (none, some none) = some slot.seen := by
        rw [← before, ← unchanged.slots, after, List.getElem?_set_self inside]
      have loaded := congrArg Prod.snd (Option.some.inj same)
      unfold Slot.seen at loaded
      rw [there, Option.map_some] at loaded
      exact .inr (Option.some.inj loaded).symm
    · rintro (resolved | unloaded)
      · cases resolved
      -- What was idle without a machine had no key either, so nothing was written.
      have bare : slot.key = none := by
        rcases tabled.keyed slot (List.mem_of_getElem? stands) runner there with keyed | ⟨bare, -⟩
        · rw [keyed, unloaded, Option.bind_none]
        · exact bare
      refine ⟨?_, rfl, ?_⟩
      · have same : slot.seen = (none, some none) := by
          unfold Slot.seen
          rw [bare, there, Option.map_some, unloaded]
        rw [after, ← same, ← (List.getElem?_eq_some_iff.1 before).2, List.set_getElem_self]
      · rw [written]
        unfold Slot.written
        rw [bare]

/-! ### Any deals -/

namespace Session

variable {session next : Session σ}

/-- A move leaves the pool its store. -/
theorem Move.store (move : session.Move kept next) : next.pool.store = session.pool.store := by
  cases move <;> rfl

theorem Moves.store (moves : session.Moves kept next) : next.pool.store = session.pool.store := by
  induction moves with
  | refl => rfl
  | tail _ move ih => exact move.store.trans ih

variable [Clocked σ] {options : PoolOptions} {made : List (Runner σ)}

/-- What a request does leaves the pool its store. -/
theorem Does.store {request : Request σ} (does : session.Does kept request next) :
    next.pool.store = session.pool.store := by
  cases does with
  | moves moves => exact moves.store
  | registers template => rfl
  | uses held operation => rfl

/-- **A deal leaves the pool its store.** -/
theorem store_perform (tabled : Tabled options made session.pool session.guards)
    (keeps : session.pool.store.Keeps kept) (deal : Deal σ) :
    (deal.perform session).pool.store = session.pool.store := by
  cases deal with
  | ask request =>
    refine (request.does keeps fun guard member => ?_).store
    obtain ⟨slot, stands, -⟩ := tabled.lent guard member
    exact (List.getElem?_eq_some_iff.1 stands).1
  | handle place change =>
    show (session.handled place change).pool.store = session.pool.store
    unfold handled
    split <;> rfl
  | disturb change => rfl

/-- Any deals leave the pool its store. -/
theorem store_dealt (tabled : Tabled options made session.pool session.guards)
    (keeps : session.pool.store.Keeps kept) (deals : List (Deal σ)) :
    (session.dealt deals).pool.store = session.pool.store := by
  induction deals generalizing session with
  | nil => rfl
  | cons deal deals ih =>
    have same := store_perform tabled keeps deal
    exact (ih (tabled_perform tabled deal) (same ▸ keeps)).trans same

end Session

/-! ### A crowded pool -/

/-- Two machines are known to a pool, and its runner takes the one that asks for no callables. -/
def crowding : List (Deal Memory) :=
  [.ask (.registerChart shutDoor), .ask (.registerChart Runner.restingRally),
    .ask (.acquire ownDoor), .ask (.release 0)]

end Statechart
