/-
**Pools that were just made.**

The runners of such a pool are all alike, hold nothing and are all there. The first machine that is
asked for is fetched and loaded into one of them, and nothing is written for that. A machine that is
given back under the key with which it was lent keeps it.

* `Pool.Fresh.acquire_ok`: the first machine is lent.
* `Pool.Fresh.of_acquire`: what it takes to lend it.
* `Pool.release_of_same`: a machine that is given back under its key.
-/

import Statechart.Proofs.Pool.Choice

namespace Statechart.Pool

variable {σ : Type} {pool : Pool σ} {runner : Runner σ} {key : MachineKey} {world world' : σ}

/-- The runners of a pool are copies of one that holds nothing. -/
structure Fresh (pool : Pool σ) (runner : Runner σ) : Prop where
  slots : pool.slots = List.replicate pool.options.capacity { runner := some runner }
  vacant : runner.machine = none
  silent : runner.flushHook = none

theorem fresh_new (options : PoolOptions) (store : MachineStore σ) (resolver : Resolver σ)
    (settings : RunnerOptions) (template : Machine) :
    ((Pool.new options store (.new resolver settings)).registerChart template).Fresh
      (.new resolver settings) := ⟨rfl, rfl, rfl⟩

/-- A machine is lent with a runner that was not used before exactly if it can be loaded. -/
theorem lend_eq {position : Nat} (stands : pool.slots[position]? = some { runner := some runner })
    (key : MachineKey) (machine : Machine) :
    (∃ error, (runner.load machine).1 = .error error ∧
      (pool.lend position key machine).1 = .error (.core error)) ∨
    (runner.load machine).1 = .ok () ∧ pool.lend position key machine =
      (.ok ⟨position, some key, pool.withAutosave key { runner with machine := some machine }⟩,
        pool.lent position { runner := some runner, key := some key }) := by
  obtain ⟨inside, -⟩ := List.getElem?_eq_some_iff.1 stands
  unfold lend fill
  rw [stands]
  dsimp only
  rcases load_cases runner machine with ⟨error, failed⟩ | loaded
  · rw [failed]
    exact .inl ⟨error, rfl, rfl⟩
  · rw [loaded]
    refine .inr ⟨rfl, ?_⟩
    dsimp only
    unfold checkOut
    rw [checkOut?_eq (List.getElem?_set_self inside) rfl, lent_withSlot]
    rfl

namespace Fresh

variable (fresh : pool.Fresh runner)

include fresh

theorem eq_of_mem {slot : Slot σ} (member : slot ∈ pool.slots) :
    slot = { runner := some runner } :=
  List.eq_of_mem_replicate (fresh.slots ▸ member)

/-- No machine is resident, so each has to be fetched. -/
theorem acquire_eq (key : MachineKey) (world : σ) :
    pool.acquire key world = pool.acquireAbsent key world := by
  have nowhere : pool.residentAt? key = none := by
    refine List.findIdx?_eq_none_iff.2 fun slot member => ?_
    rw [fresh.eq_of_mem member]
    exact decide_eq_false (nomatch ·)
  unfold acquire
  rw [nowhere]

/-- The runner that is taken is one of the copies. -/
theorem stands_of_taken {position : Nat} (taken : pool.evictionCandidate? key = some position) :
    pool.slots[position]? = some { runner := some runner } := by
  obtain ⟨slot, taken', stands, -⟩ := of_evictionCandidate? taken
  rw [stands, fresh.eq_of_mem (List.mem_of_getElem? stands)]

/-- Nothing has to be written to empty a runner that holds nothing. -/
theorem evict_eq {position : Nat} (stands : pool.slots[position]? = some { runner := some runner })
    (world : σ) : pool.evict position world = (.ok (), pool, world) := by
  have bare : emptied runner = runner := by
    unfold emptied Runner.clear
    rw [← fresh.vacant, ← fresh.silent]
  obtain ⟨inside, same⟩ := List.getElem?_eq_some_iff.1 stands
  have unchanged : pool.withSlot position { runner := some runner } = pool := by
    unfold withSlot
    rw [← same, List.set_getElem_self]
  unfold evict
  rw [stands]
  show (Except.ok (), pool.withSlot position { runner := some (emptied runner) }, world) = _
  rw [bare, unchanged]

/-- **The first machine that is asked for is lent** if it can be fetched and loaded. Nothing is
written for that. -/
theorem acquire_ok (roomy : pool.options.capacity ≠ 0) {machine : Machine}
    (fetched : pool.fetch key world = (.ok machine, world'))
    (able : (runner.load machine).1 = .ok ()) :
    ∃ guard next, pool.acquire key world = (.ok guard, next, world') ∧ guard.key = some key ∧
      guard.runner = pool.withAutosave key { runner with machine := some machine } ∧
      next.options = pool.options ∧ next.store = pool.store := by
  have member : { runner := some runner } ∈ pool.slots := by
    rw [fresh.slots]
    exact List.mem_replicate.2 ⟨roomy, rfl⟩
  obtain ⟨place, stands⟩ := List.mem_iff_getElem?.1 member
  rw [fresh.acquire_eq]
  unfold acquireAbsent
  cases taken : pool.evictionCandidate? key with
  | none =>
    have candidate : pool.Candidate key place { runner := some runner } runner :=
      ⟨stands, rfl, nofun⟩
    exact absurd candidate (evictionCandidate?_eq_none_iff.1 taken _ _ _)
  | some position =>
    have stands := fresh.stands_of_taken taken
    dsimp only
    rw [fetched]
    dsimp only
    rw [fresh.evict_eq stands]
    rcases lend_eq stands key machine with ⟨error, failed, -⟩ | ⟨-, lent⟩
    · cases failed.symm.trans able
    · dsimp only
      rw [lent]
      exact ⟨_, _, rfl, rfl, rfl, rfl, rfl⟩

/-- **What it takes to lend a machine**: there is a runner, and the machine can be fetched and
loaded. -/
theorem of_acquire {guard : Guard σ} (lent : (pool.acquire key world).1 = .ok guard) :
    pool.options.capacity ≠ 0 ∧ ∃ machine, (pool.fetch key world).1 = .ok machine ∧
      (runner.load machine).1 = .ok () := by
  rw [fresh.acquire_eq] at lent
  unfold acquireAbsent at lent
  cases taken : pool.evictionCandidate? key with
  | none =>
    rw [taken] at lent
    cases lent
  | some position =>
    have stands := fresh.stands_of_taken taken
    rw [taken] at lent
    dsimp only at lent
    rcases left : pool.fetch key world with ⟨error | machine, world'⟩
    · rw [left] at lent
      cases lent
    · rw [left] at lent
      dsimp only at lent
      rw [fresh.evict_eq stands] at lent
      rcases lend_eq stands key machine with ⟨error, -, failed⟩ | ⟨able, -⟩
      · cases failed.symm.trans lent
      · refine ⟨fun cramped => ?_, machine, rfl, able⟩
        have member := List.mem_of_getElem? stands
        rw [fresh.slots, cramped] at member
        cases member

end Fresh

/-- A machine that is given back under the key with which its guard was lent is written if the pool
is to do so. -/
theorem release_of_same {guard : Guard σ} (keyed : guard.key = some key) {machine : Machine}
    (loaded : runner.machine = some machine) (owned : machine.key? = some key) (world : σ) :
    (pool.release { guard with runner } world).2 =
      if pool.options.flushOnRelease then
        (pool.store.save key (machine.encode .binary) world).2
      else world := by
  have same : pool.rekey { guard with runner } = (some key, runner) := by
    unfold rekey
    dsimp only
    rw [loaded, Option.bind_some, owned, keyed]
    exact if_pos rfl
  unfold release
  rw [same]
  unfold persistReleased persist
  dsimp only
  rw [Runner.dump_eq loaded]

end Statechart.Pool
