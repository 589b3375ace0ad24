/-
**Which runner is taken.**

To lend a runner for a machine that is not resident, a pool takes an idle one from its machine. If a
runner holds no machine it is the first such one, else the one that was used longest ago.

* `Pool.Candidate`: a runner that may be taken.
* `Pool.evictionCandidate?_eq_none_iff`: when there is none to take.
* `Pool.chosen`: the one that is taken.
* `Pool.Takes`: what becomes of the pool.
-/

import Statechart.Proofs.Pool.Refusal

namespace Statechart

variable {σ : Type}

/-- The earliest of several slots was used before each other one, or is the first of those that were
used then. -/
theorem Slot.least_of_earliest? {entries : List (Slot σ × Nat)} {entry : Slot σ × Nat}
    (ordered : entries.Pairwise fun first second => first.2 < second.2)
    (found : Slot.earliest? entries = some entry) :
    ∀ other ∈ entries, entry.1.lastUsed < other.1.lastUsed ∨
      entry.1.lastUsed = other.1.lastUsed ∧ entry.2 ≤ other.2 := by
  cases entries with
  | nil => cases found
  | cons first rest =>
    cases found
    induction rest generalizing first with
    | nil =>
      intro other member
      rw [List.mem_singleton.1 member]
      exact .inr ⟨rfl, le_rfl⟩
    | cons next rest ih =>
      obtain ⟨before, ordered'⟩ := List.pairwise_cons.1 ordered
      obtain ⟨behind, ordered''⟩ := List.pairwise_cons.1 ordered'
      have less := before next List.mem_cons_self
      -- The earlier of the first two stands before the others, as both of them do.
      have kept : Slot.earlier first next = first ∧ first.1.lastUsed ≤ next.1.lastUsed ∨
          Slot.earlier first next = next ∧ next.1.lastUsed < first.1.lastUsed := by
        unfold Slot.earlier
        split
        · next earlier => exact .inr ⟨rfl, earlier⟩
        · next late => exact .inl ⟨rfl, Nat.not_lt.1 late⟩
      have above : ∀ other ∈ rest, (Slot.earlier first next).2 < other.2 := by
        intro other member
        rcases kept with ⟨same, -⟩ | ⟨same, -⟩
        · rw [same]
          exact before other (List.mem_cons_of_mem _ member)
        · rw [same]
          exact behind other member
      have least := ih (Slot.earlier first next) (List.pairwise_cons.2 ⟨above, ordered''⟩)
      have start := least _ List.mem_cons_self
      rw [List.foldl_cons]
      intro other member
      rcases List.mem_cons.1 member with rfl | member
      · rcases kept with ⟨same, -⟩ | ⟨same, earlier⟩
        · rw [same] at start ⊢
          exact start
        · rw [same] at start ⊢
          omega
      · rcases List.mem_cons.1 member with rfl | later
        · rcases kept with ⟨same, late⟩ | ⟨same, -⟩
          · rw [same] at start ⊢
            omega
          · rw [same] at start ⊢
            exact start
        · exact least other (List.mem_cons_of_mem _ later)

namespace Pool

/-- A runner that may be taken for the sake of a key: it is idle, and its slot does not have the
key. -/
structure Candidate (pool : Pool σ) (key : MachineKey) (position : Nat) (slot : Slot σ)
    (runner : Runner σ) : Prop where
  stands : pool.slots[position]? = some slot
  there : slot.runner = some runner
  differs : slot.key ≠ some key

variable {pool : Pool σ} {key : MachineKey} {position : Nat} {slot : Slot σ} {runner : Runner σ}

theorem mem_candidates_iff :
    (slot, position) ∈ pool.candidates key ↔ ∃ runner, pool.Candidate key position slot runner := by
  constructor
  · intro among
    obtain ⟨stands, loses⟩ := of_mem_candidates among
    unfold Slot.mayLose at loses
    rw [Bool.and_eq_true, decide_eq_true_eq] at loses
    obtain ⟨runner, there⟩ := Option.isSome_iff_exists.1 loses.1
    exact ⟨runner, stands, there, loses.2⟩
  · rintro ⟨runner, stands, there, differs⟩
    refine List.mem_filter.2 ⟨List.mem_zipIdx_iff_getElem?.2 stands, ?_⟩
    simp [Slot.mayLose, there, differs]

/-- Candidates are looked at in the order of their positions. -/
theorem pairwise_candidates (pool : Pool σ) (key : MachineKey) :
    (pool.candidates key).Pairwise fun first second => first.2 < second.2 := by
  refine List.Pairwise.filter _ (List.pairwise_map.1 ?_)
  rw [List.zipIdx_map_snd]
  exact List.pairwise_lt_range'

/-- **No runner is taken exactly if none may be.** -/
theorem evictionCandidate?_eq_none_iff : pool.evictionCandidate? key = none ↔
    ∀ position slot runner, ¬pool.Candidate key position slot runner := by
  have none_iff : pool.evictionCandidate? key = none ↔ pool.candidates key = [] := by
    unfold evictionCandidate?
    cases pool.candidates key with
    | nil => exact iff_of_true rfl rfl
    | cons first rest =>
      refine iff_of_false (fun nothing => ?_) (List.cons_ne_nil _ _)
      dsimp only at nothing
      split at nothing <;> cases nothing
  rw [none_iff, List.eq_nil_iff_forall_not_mem]
  constructor
  · exact fun nothing position slot runner candidate =>
      nothing (slot, position) (mem_candidates_iff.2 ⟨runner, candidate⟩)
  · rintro nothing ⟨slot, position⟩ among
    obtain ⟨runner, candidate⟩ := mem_candidates_iff.1 among
    exact nothing position slot runner candidate

/-- **The runner that is taken** holds no machine, or else every runner that may be taken holds one
and it is the one that was used longest ago, the first of several. -/
theorem chosen (taken : pool.evictionCandidate? key = some position) :
    ∃ slot runner, pool.Candidate key position slot runner ∧
      (runner.machine = none ∨ ∀ other slot' runner', pool.Candidate key other slot' runner' →
        runner'.machine ≠ none ∧ (slot.lastUsed < slot'.lastUsed ∨
          slot.lastUsed = slot'.lastUsed ∧ position ≤ other)) := by
  unfold evictionCandidate? at taken
  dsimp only at taken
  split at taken
  · next entry position' found =>
    cases taken
    obtain ⟨runner, candidate⟩ := mem_candidates_iff.1 (List.mem_of_find?_eq_some found)
    have free := List.find?_some found
    exact ⟨_, runner, candidate, .inl ((Slot.isFree_iff candidate.there).1 free)⟩
  · next nothing =>
    obtain ⟨⟨slot, position'⟩, earliest, same⟩ := Option.map_eq_some_iff.1 taken
    cases same
    obtain ⟨runner, candidate⟩ := mem_candidates_iff.1 (Slot.mem_of_earliest? earliest)
    refine ⟨slot, runner, candidate, .inr fun other slot' runner' candidate' => ?_⟩
    have among := mem_candidates_iff.2 ⟨runner', candidate'⟩
    refine ⟨fun unloaded => ?_, Slot.least_of_earliest? (pool.pairwise_candidates key) earliest
      (slot', other) among⟩
    exact List.find?_eq_none.1 nothing (slot', other) among
      ((Slot.isFree_iff candidate'.there).2 unloaded)

end Pool

/-! ### What becomes of the pool -/

/-- That a machine cannot be written does not mean that all runners are lent. -/
theorem PoolError.OfWriting.ne_exhausted {error : PoolError} (of_writing : error.OfWriting)
    (capacity : Nat) : error ≠ .exhausted capacity := by
  cases of_writing <;> exact nofun

/-- That a machine cannot be fetched does not mean that all runners are lent. -/
theorem PoolError.OfFetching.ne_exhausted {error : PoolError} {key : MachineKey}
    (of_fetching : error.OfFetching key) (capacity : Nat) : error ≠ .exhausted capacity := by
  cases of_fetching <;> exact nofun

namespace Pool

/-- **What becomes of a pool from which a runner is taken**, given the slot of the runner. -/
inductive Takes (pool : Pool σ) (position : Nat) (slot : Slot σ) :
    Except PoolError (Guard σ) → Pool σ → Prop
  /-- The request fails, and the runner keeps its machine. -/
  | refused {error : PoolError} (other : ∀ capacity, error ≠ .exhausted capacity) :
      Takes pool position slot (.error error) pool
  /-- The request fails after the runner lost its machine. -/
  | emptied (error : Error) :
      Takes pool position slot (.error (.core error)) (pool.withSlot position slot.emptied)
  /-- The runner lost its machine and is lent. -/
  | lent (key : Option MachineKey) (runner : Runner σ) :
      Takes pool position slot (.ok ⟨position, key, runner⟩)
        (pool.lent position { slot.emptied with key })

variable {pool : Pool σ} {key : MachineKey} {position : Nat} {slot : Slot σ} {runner : Runner σ}

namespace Takes

variable {next : Pool σ} {answer : Except PoolError (Guard σ)}

theorem ne_exhausted (takes : pool.Takes position slot answer next) (capacity : Nat) :
    answer ≠ .error (.exhausted capacity) := by
  cases takes with
  | refused other => exact fun same => other capacity (Except.error.inj same)
  | emptied _ => exact nofun
  | lent _ _ => exact nofun

theorem slot_eq (takes : pool.Takes position slot answer next) {guard : Guard σ}
    (given : answer = .ok guard) : guard.slot = position := by
  cases takes with
  | refused _ => cases given
  | emptied _ => cases given
  | lent _ _ =>
    cases given
    rfl

/-- Other slots stay as they are. -/
theorem others (takes : pool.Takes position slot answer next) {other : Nat}
    (differ : other ≠ position) : next.slots[other]? = pool.slots[other]? := by
  cases takes with
  | refused _ => rfl
  | emptied _ => exact List.getElem?_set_ne (Ne.symm differ)
  | lent _ _ => exact List.getElem?_set_ne (Ne.symm differ)

end Takes

theorem evict_takes (stands : pool.slots[position]? = some slot) (world : σ) :
    (∃ world', pool.evict position world = (.ok (), pool.withSlot position slot.emptied, world')) ∨
      ∃ error world', pool.evict position world = (.error error, pool, world') ∧
        ∀ capacity, error ≠ .exhausted capacity := by
  unfold evict
  rw [stands]
  dsimp only
  rcases left : pool.persistSlot slot world with ⟨error | written, world'⟩
  · exact .inr ⟨error, world', rfl, (persistSlot_error (congrArg Prod.fst left)).ne_exhausted⟩
  · exact .inl ⟨world', rfl⟩

/-- A slot that is lent after a change is lent with it. -/
theorem lent_withSlot (pool : Pool σ) (position : Nat) (slot slot' : Slot σ) :
    (pool.withSlot position slot).lent position slot' = pool.lent position slot' := by
  unfold lent withSlot
  simp only [List.set_set]

/-- **A runner is taken and lent without a machine.** -/
theorem acquireForEviction_takes (taken : pool.evictionCandidate? key = some position)
    (candidate : pool.Candidate key position slot runner) (world : σ) :
    pool.Takes position slot (pool.acquireForEviction key world).1
        (pool.acquireForEviction key world).2.1 ∧
      ∀ guard, (pool.acquireForEviction key world).1 = .ok guard →
        guard.runner.machine = none := by
  unfold acquireForEviction
  rw [taken]
  dsimp only
  rcases evict_takes candidate.stands world with ⟨world', emptied⟩ | ⟨error, world', failed, other⟩
  · rw [emptied]
    dsimp only
    unfold checkOut
    rw [checkOut?_eq (getElem?_withSlot candidate.stands _) (Slot.emptied_runner candidate.there),
      lent_withSlot]
    refine ⟨.lent none _, fun guard same => ?_⟩
    cases same
    rfl
  · rw [failed]
    exact ⟨.refused other, fun guard failed => nomatch failed⟩

/-- **A runner is taken and lent with the machine that was fetched.** -/
theorem acquireAbsent_takes (taken : pool.evictionCandidate? key = some position)
    (candidate : pool.Candidate key position slot runner) (world : σ) :
    pool.Takes position slot (pool.acquireAbsent key world).1
        (pool.acquireAbsent key world).2.1 ∧
      ∀ guard, (pool.acquireAbsent key world).1 = .ok guard →
        ∃ machine, (pool.fetch key world).1 = .ok machine ∧
          guard.runner.machine = some machine := by
  unfold acquireAbsent
  rw [taken]
  dsimp only
  rcases fetched : pool.fetch key world with ⟨error | machine, world₁⟩
  · have other := (fetch_error (congrArg Prod.fst fetched)).ne_exhausted
    exact ⟨.refused other, fun guard failed => nomatch failed⟩
  dsimp only
  rcases evict_takes candidate.stands world₁ with
    ⟨world₂, emptied⟩ | ⟨error, world₂, failed, other⟩
  · rw [emptied]
    dsimp only
    rcases lend_cases (getElem?_withSlot candidate.stands _)
      (Slot.emptied_runner candidate.there) rfl key machine with ⟨error, failed⟩ | lent
    · rw [failed]
      exact ⟨.emptied error, fun guard failed => nomatch failed⟩
    · rw [lent, lent_withSlot]
      refine ⟨.lent (some key) _, fun guard same => ?_⟩
      cases same
      exact ⟨machine, rfl, machine_withAutosave _ _ _⟩
  · rw [failed]
    exact ⟨.refused other, fun guard failed => nomatch failed⟩

end Pool

end Statechart
