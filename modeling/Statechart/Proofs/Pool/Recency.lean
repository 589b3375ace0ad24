/-
**Runners are taken in the order in which they were given back.**

The clock of a pool counts how often runners were lent or given back, and a slot has the time of the
last of these. While a runner is idle that is when it was given back, so the times of idle runners
are in the order of the guards that were given back, whatever else happened.

* `turnOf`: where in this order a slot is.
* `Pool.Follows`: what a pool goes on with between guards that are given back.
* `Pool.Recent`: times are in order.
* `Session.MakesRoom`: what a request does that takes a runner from its machine.
* `Session.makesRoom_dealt`: any such request, after any deals.
-/

import Statechart.Proofs.Pool.Choice

namespace Statechart

variable {σ : Type}

/-! ### Guards that were given back -/

/-- The guard that a deal gives back. -/
def Deal.givenBack? (deal : Deal σ) (session : Session σ) : Option (Guard σ) :=
  match deal with
  | ask (.release place) => session.guards[place]?
  | _ => none

theorem Deal.of_givenBack? {deal : Deal σ} {session : Session σ} {guard : Guard σ}
    (given : deal.givenBack? session = some guard) :
    ∃ place, deal = .ask (.release place) ∧ session.guards[place]? = some guard := by
  unfold givenBack? at given
  split at given
  · next place => exact ⟨place, rfl, given⟩
  · cases given

/-- The guards that several deals give back, in order. -/
def Session.givenBack [Clocked σ] (session : Session σ) : List (Deal σ) → List (Guard σ)
  | [] => []
  | deal :: deals => (deal.givenBack? session).toList ++ (deal.perform session).givenBack deals

/-- How many of several guards were given back until the last one of a slot was, none if that never
happened. -/
def turnOf (returned : List (Guard σ)) (position : Nat) : Nat :=
  returned.length - returned.reverse.findIdx fun guard => guard.slot = position

theorem turnOf_le (returned : List (Guard σ)) (position : Nat) :
    turnOf returned position ≤ returned.length := Nat.sub_le ..

theorem turnOf_concat (returned : List (Guard σ)) (guard : Guard σ) (position : Nat) :
    turnOf (returned ++ [guard]) position =
      if guard.slot = position then returned.length + 1 else turnOf returned position := by
  unfold turnOf
  rw [List.reverse_append, List.length_append, List.length_singleton, List.reverse_singleton,
    List.singleton_append, List.findIdx_cons]
  by_cases same : guard.slot = position
  · rw [decide_eq_true same, if_pos same]
    rfl
  · rw [decide_eq_false same, if_neg same, cond_false, Nat.add_sub_add_right]

/-- **The turn of a slot is that of the last guard of the slot.** -/
theorem turnOf_eq_succ_iff {returned : List (Guard σ)} {position turn : Nat} :
    turnOf returned position = turn + 1 ↔
      (∃ guard, returned[turn]? = some guard ∧ guard.slot = position) ∧
        ∀ later guard, turn < later → returned[later]? = some guard → guard.slot ≠ position := by
  induction returned using List.reverseRecOn with
  | nil => simp [turnOf]
  | append_singleton returned last ih =>
    have lastAt : (returned ++ [last])[returned.length]? = some last := List.getElem?_concat_length
    have within : ∀ {place : Nat} {guard : Guard σ}, (returned ++ [last])[place]? = some guard →
        returned[place]? = some guard ∨ place = returned.length ∧ guard = last := by
      intro place guard there
      rcases Nat.lt_trichotomy place returned.length with before | rfl | behind
      · rw [List.getElem?_append_left before] at there
        exact .inl there
      · rw [lastAt] at there
        exact .inr ⟨rfl, (Option.some.inj there).symm⟩
      · rw [List.getElem?_eq_none (List.length_append ▸ behind)] at there
        cases there
    have early : ∀ {place : Nat} {guard : Guard σ}, returned[place]? = some guard →
        place < returned.length ∧ (returned ++ [last])[place]? = some guard := by
      intro place guard there
      obtain ⟨before, -⟩ := List.getElem?_eq_some_iff.1 there
      exact ⟨before, (List.getElem?_append_left before).trans there⟩
    rw [turnOf_concat]
    split
    · next same =>
      constructor
      · intro counted
        obtain rfl : returned.length = turn := Nat.succ.inj counted
        refine ⟨⟨last, lastAt, same⟩, fun later guard behind there => ?_⟩
        rcases within there with before | ⟨rfl, -⟩
        · exact absurd (early before).1 (Nat.lt_asymm behind)
        · exact absurd behind (Nat.lt_irrefl _)
      · rintro ⟨⟨guard, there, slot⟩, never⟩
        rcases within there with before | ⟨rfl, -⟩
        · exact absurd same (never _ last (early before).1 lastAt)
        · rfl
    · next differ =>
      rw [ih]
      constructor
      · rintro ⟨⟨guard, there, slot⟩, never⟩
        refine ⟨⟨guard, (early there).2, slot⟩, fun later guard' behind there' => ?_⟩
        rcases within there' with before | ⟨-, rfl⟩
        · exact never later guard' behind before
        · exact differ
      · rintro ⟨⟨guard, there, slot⟩, never⟩
        rcases within there with before | ⟨-, rfl⟩
        · exact ⟨⟨guard, before, slot⟩, fun later guard' behind there' =>
            never later guard' behind (early there').2⟩
        · exact absurd slot differ

/-- No two slots have one turn. -/
theorem eq_of_turnOf_eq {returned : List (Guard σ)} {first second : Nat}
    (same : turnOf returned first = turnOf returned second) (some : turnOf returned first ≠ 0) :
    first = second := by
  obtain ⟨turn, counted⟩ := Nat.exists_eq_succ_of_ne_zero some
  obtain ⟨⟨guard, there, slot⟩, -⟩ := turnOf_eq_succ_iff.1 counted
  obtain ⟨⟨guard', there', slot'⟩, -⟩ := turnOf_eq_succ_iff.1 (same.symm.trans counted)
  cases there.symm.trans there'
  exact slot.symm.trans slot'

/-- What was given back last stays the last for other slots. -/
theorem getElem?_concat_of_turnOf {returned : List (Guard σ)} {guard last : Guard σ} {turn : Nat}
    (there : returned[turn]? = some last) : (returned ++ [guard])[turn]? = some last :=
  (List.getElem?_append_left (List.getElem?_eq_some_iff.1 there).1).trans there

/-! ### What happens between guards that are given back -/

namespace Pool

/-- What a pool goes on with until a guard is given back: its clock does not go back, and a runner
that is idle afterwards was idle before since the same time. It may have lost its machine. -/
structure Follows (pool next : Pool σ) : Prop where
  clock : pool.clock ≤ next.clock
  idle : ∀ (position : Nat) (slot' : Slot σ) (runner' : Runner σ),
    next.slots[position]? = some slot' → slot'.runner = some runner' →
      ∃ (slot : Slot σ) (runner : Runner σ), pool.slots[position]? = some slot ∧
        slot.runner = some runner ∧ slot'.lastUsed = slot.lastUsed ∧
        (runner' = runner ∨ runner'.machine = none)

variable {pool next : Pool σ} {key : MachineKey} {position : Nat} {slot : Slot σ}
  {runner : Runner σ}

theorem Follows.stay : pool.Follows pool :=
  ⟨le_rfl, fun _ slot runner stands there => ⟨slot, runner, stands, there, rfl, .inl rfl⟩⟩

/-- Other slots than one are as before. -/
theorem Follows.replace (stands : pool.slots[position]? = some slot) {slot' : Slot σ}
    {clock : Nat} (forth : pool.clock ≤ clock)
    (idle : ∀ runner', slot'.runner = some runner' → ∃ runner, slot.runner = some runner ∧
      slot'.lastUsed = slot.lastUsed ∧ (runner' = runner ∨ runner'.machine = none)) :
    pool.Follows { pool.withSlot position slot' with clock } where
  clock := forth
  idle := by
    intro other slot'' runner' stands' there'
    by_cases same : position = other
    · subst same
      cases (getElem?_withSlot stands slot').symm.trans stands'
      obtain ⟨runner, there, since, runners⟩ := idle runner' there'
      exact ⟨slot, runner, stands, there, since, runners⟩
    · have before : pool.slots[other]? = some slot'' :=
        (List.getElem?_set_ne same).symm.trans stands'
      exact ⟨slot'', runner', before, there', rfl, .inl rfl⟩

theorem Follows.lent (stands : pool.slots[position]? = some slot) (slot' : Slot σ) :
    pool.Follows (pool.lent position slot') :=
  .replace stands (Nat.le_succ _) fun _ away => nomatch away

theorem Follows.emptied (stands : pool.slots[position]? = some slot)
    (there : slot.runner = some runner) : pool.Follows (pool.withSlot position slot.emptied) := by
  refine .replace stands le_rfl fun runner' there' => ?_
  rw [Slot.emptied_runner there] at there'
  cases there'
  exact ⟨runner, there, rfl, .inr rfl⟩

/-- A runner that is lent if it is there is no longer idle. -/
theorem Follows.checkOut? {guard : Guard σ} (left : pool.checkOut? position = some (guard, next)) :
    pool.Follows next := by
  cases stands : pool.slots[position]? with
  | none =>
    unfold Pool.checkOut? at left
    rw [stands] at left
    cases left
  | some slot =>
    cases there : slot.runner with
    | none =>
      rw [checkOut?_eq_none stands there] at left
      cases left
    | some runner =>
      rw [checkOut?_eq stands there] at left
      cases left
      exact .lent stands slot

/-- A runner that is taken may have lost its machine. -/
theorem Takes.follows {answer : Except PoolError (Guard σ)}
    (takes : pool.Takes position slot answer next)
    (candidate : pool.Candidate key position slot runner) : pool.Follows next := by
  cases takes with
  | refused _ => exact .stay
  | emptied _ => exact .emptied candidate.stands candidate.there
  | lent _ _ => exact .lent candidate.stands _

theorem follows_acquireAbsent (pool : Pool σ) (key : MachineKey) (world : σ) :
    pool.Follows (pool.acquireAbsent key world).2.1 := by
  cases taken : pool.evictionCandidate? key with
  | none =>
    unfold acquireAbsent
    rw [taken]
    exact .stay
  | some position =>
    obtain ⟨slot, runner, candidate, -⟩ := chosen taken
    exact (acquireAbsent_takes taken candidate world).1.follows candidate

theorem follows_acquireForEviction (pool : Pool σ) (key : MachineKey) (world : σ) :
    pool.Follows (pool.acquireForEviction key world).2.1 := by
  cases taken : pool.evictionCandidate? key with
  | none =>
    unfold acquireForEviction
    rw [taken]
    exact .stay
  | some position =>
    obtain ⟨slot, runner, candidate, -⟩ := chosen taken
    exact (acquireForEviction_takes taken candidate world).1.follows candidate

theorem follows_acquire (pool : Pool σ) (key : MachineKey) (world : σ) :
    pool.Follows (pool.acquire key world).2.1 := by
  unfold acquire
  cases resident : pool.residentAt? key with
  | none => exact pool.follows_acquireAbsent key world
  | some position =>
    dsimp only
    cases left : pool.checkOut? position with
    | none => exact .stay
    | some lent => exact .checkOut? left

theorem follows_acquireCurrent (pool : Pool σ) (key : MachineKey) :
    pool.Follows (pool.acquireCurrent key).2 := by
  unfold acquireCurrent
  cases resident : pool.residentAt? key with
  | none => exact .stay
  | some position =>
    dsimp only
    cases left : pool.checkOut? position with
    | none => exact .stay
    | some lent =>
      dsimp only
      split
      · exact .checkOut? left
      · exact .stay

theorem follows_acquireFree (pool : Pool σ) : pool.Follows pool.acquireFree.2 := by
  unfold acquireFree
  cases free : pool.slots.findIdx? Slot.isFree with
  | none => exact .stay
  | some position =>
    dsimp only
    cases left : pool.checkOut? position with
    | none => exact .stay
    | some lent => exact .checkOut? left

end Pool

/-- **A deal that gives no guard back.** -/
theorem Deal.follows [Clocked σ] {deal : Deal σ} {session : Session σ}
    (keeps : deal.givenBack? session = none) :
    session.pool.Follows (deal.perform session).pool := by
  cases deal with
  | disturb change => exact .stay
  | handle place change =>
    show session.pool.Follows (session.handled place change).pool
    unfold Session.handled
    split <;> exact .stay
  | ask request =>
    cases request with
    | acquire key => exact session.pool.follows_acquire key session.world
    | acquireCurrent key => exact session.pool.follows_acquireCurrent key
    | acquireForEviction key => exact session.pool.follows_acquireForEviction key session.world
    | acquireFree => exact session.pool.follows_acquireFree
    | flushAll => exact .stay
    | registerChart template =>
      have stay : session.pool.Follows session.pool := .stay
      exact ⟨stay.clock, stay.idle⟩
    | release place =>
      show session.pool.Follows ((Request.release place).perform session).2.pool
      rw [Request.perform_release_of_none keeps]
      exact .stay
    | operate place operation =>
      show session.pool.Follows ((Request.operate place operation).perform session).2.pool
      unfold Request.perform
      dsimp only
      split <;> exact .stay

/-! ### Times in order -/

/-- A machine is the one that was in a slot when the last guard of the slot was given back. -/
def LastHeld (returned : List (Guard σ)) (position : Nat) (machine : Machine) : Prop :=
  ∃ turn guard, turnOf returned position = turn + 1 ∧ returned[turn]? = some guard ∧
    guard.runner.machine = some machine

/-- **The times of idle runners are in the order of the guards that were given back**, given the
runners that the pool was made with. -/
structure Pool.Recent (made : List (Runner σ)) (returned : List (Guard σ)) (pool : Pool σ) :
    Prop where
  past : ∀ (position : Nat) (slot : Slot σ) (runner : Runner σ),
    pool.slots[position]? = some slot → slot.runner = some runner → slot.lastUsed ≤ pool.clock
  ordered : ∀ (first second : Nat) (slot slot' : Slot σ) (runner runner' : Runner σ),
    pool.slots[first]? = some slot → slot.runner = some runner →
      pool.slots[second]? = some slot' → slot'.runner = some runner' →
        (slot.lastUsed < slot'.lastUsed ↔ turnOf returned first < turnOf returned second)
  /-- An idle runner that holds a machine held it when it was given back, or when it was made. -/
  since : ∀ (position : Nat) (slot : Slot σ) (runner : Runner σ) (machine : Machine),
    pool.slots[position]? = some slot → slot.runner = some runner →
      runner.machine = some machine → LastHeld returned position machine ∨
        turnOf returned position = 0 ∧ made[position]? = some runner

namespace Pool.Recent

variable {made : List (Runner σ)} {returned : List (Guard σ)} {pool next : Pool σ}

/-- Times stay in order while no guard is given back. -/
theorem follows (recent : pool.Recent made returned) (follows : pool.Follows next) :
    next.Recent made returned where
  past := by
    intro position slot' runner' stands' there'
    obtain ⟨slot, runner, stands, there, same, -⟩ := follows.idle position _ _ stands' there'
    rw [same]
    exact (recent.past position slot runner stands there).trans follows.clock
  ordered := by
    intro first second slot slot' runner runner' stands there stands' there'
    obtain ⟨_, _, before, idle, same, -⟩ := follows.idle first _ _ stands there
    obtain ⟨_, _, before', idle', same', -⟩ := follows.idle second _ _ stands' there'
    rw [same, same']
    exact recent.ordered first second _ _ _ _ before idle before' idle'
  since := by
    intro position slot' runner' machine stands' there' loaded
    obtain ⟨slot, runner, stands, there, -, same | unloaded⟩ :=
      follows.idle position _ _ stands' there'
    · rw [same] at loaded ⊢
      exact recent.since position slot runner machine stands there loaded
    · cases unloaded.symm.trans loaded

/-- A runner that comes back holds the machine that it held with its guard, or none. -/
theorem machine_rekey (pool : Pool σ) (guard : Guard σ) {machine : Machine}
    (loaded : (pool.rekey guard).2.machine = some machine) :
    guard.runner.machine = some machine := by
  have rekeys := pool.rekeys guard
  generalize (pool.rekey guard).1 = key, (pool.rekey guard).2 = runner at rekeys loaded
  cases rekeys with
  | same _ => exact loaded
  | ownerless _ => exact loaded
  | discarded _ _ => cases loaded
  | moved _ _ =>
    rw [machine_withAutosave] at loaded
    exact loaded

/-- **Times stay in order when a guard is given back**, which has the latest time then. -/
theorem release (recent : pool.Recent made returned) (guard : Guard σ) (world : σ) :
    (pool.release guard world).1.Recent made (returned ++ [guard]) := by
  have back : ∀ {position : Nat} {slot : Slot σ},
      (pool.release guard world).1.slots[position]? = some slot →
        guard.slot = position ∧ slot = pool.returned guard ∨
          guard.slot ≠ position ∧ pool.slots[position]? = some slot := by
    intro position slot stands
    change (pool.slots.set guard.slot (pool.returned guard))[position]? = some slot at stands
    by_cases same : guard.slot = position
    · rw [List.getElem?_set, if_pos same] at stands
      split at stands
      · exact .inl ⟨same, (Option.some.inj stands).symm⟩
      · cases stands
    · exact .inr ⟨same, (List.getElem?_set_ne same).symm.trans stands⟩
  have clock : (pool.release guard world).1.clock = pool.clock + 1 := rfl
  have latest : (pool.returned guard).lastUsed = pool.clock + 1 := rfl
  refine ⟨?_, ?_, ?_⟩
  · intro position slot runner stands there
    rw [clock]
    rcases back stands with ⟨-, rfl⟩ | ⟨-, before⟩
    · exact latest.le
    · exact Nat.le_succ_of_le (recent.past position slot runner before there)
  · intro first second slot slot' runner runner' stands there stands' there'
    have most := turnOf_le returned
    rw [turnOf_concat, turnOf_concat]
    rcases back stands with ⟨here, rfl⟩ | ⟨away, before⟩
    · rw [if_pos here, latest]
      rcases back stands' with ⟨here', rfl⟩ | ⟨away', before'⟩
      · rw [if_pos here', latest]
        omega
      · have bound := recent.past second slot' runner' before' there'
        have turn := most second
        rw [if_neg away']
        omega
    · have bound := recent.past first slot runner before there
      have turn := most first
      rw [if_neg away]
      rcases back stands' with ⟨here', rfl⟩ | ⟨away', before'⟩
      · rw [if_pos here', latest]
        omega
      · rw [if_neg away']
        exact recent.ordered first second slot slot' runner runner' before there before' there'
  · intro position slot runner machine stands there loaded
    unfold LastHeld
    rw [turnOf_concat]
    rcases back stands with ⟨here, rfl⟩ | ⟨away, before⟩
    · cases there
      rw [if_pos here]
      exact .inl ⟨returned.length, guard, rfl, List.getElem?_concat_length,
        machine_rekey pool guard loaded⟩
    · rw [if_neg away]
      rcases recent.since position slot runner machine before there loaded with
        ⟨turn, last, counted, found, held⟩ | new
      · exact .inl ⟨turn, last, counted, getElem?_concat_of_turnOf found, held⟩
      · exact .inr new

end Pool.Recent

namespace Session

variable [Clocked σ] {made : List (Runner σ)} {returned : List (Guard σ)} {session : Session σ}

/-- **Every deal leaves times in order.** -/
theorem recent_perform (recent : session.pool.Recent made returned) (deal : Deal σ) :
    (deal.perform session).pool.Recent made (returned ++ (deal.givenBack? session).toList) := by
  cases given : deal.givenBack? session with
  | none =>
    rw [Option.toList_none, List.append_nil]
    exact recent.follows (Deal.follows given)
  | some guard =>
    obtain ⟨place, rfl, held⟩ := Deal.of_givenBack? given
    show ((Request.release place).perform session).2.pool.Recent made _
    rw [Request.perform_release held]
    exact recent.release guard session.world

/-- **Any deals leave times in order.** -/
theorem recent_dealt (recent : session.pool.Recent made returned) (deals : List (Deal σ)) :
    (session.dealt deals).pool.Recent made (returned ++ session.givenBack deals) := by
  induction deals generalizing session returned with
  | nil =>
    rw [givenBack, List.append_nil]
    exact recent
  | cons deal deals ih =>
    rw [givenBack, ← List.append_assoc]
    exact ih (recent_perform recent deal)

omit [Clocked σ] in
/-- At first no guard was given back, and no time has passed. -/
theorem recent_opened (options : PoolOptions) (store : MachineStore σ) (world : σ) :
    (opened options store made world).pool.Recent made [] := by
  have new : ∀ {position : Nat} {slot : Slot σ},
      (opened options store made world).pool.slots[position]? = some slot →
        ∃ runner, made[position]? = some runner ∧ slot = { runner := some runner } := by
    intro position slot stands
    change (made.map _)[position]? = some slot at stands
    rw [List.getElem?_map] at stands
    obtain ⟨runner, among, rfl⟩ := Option.map_eq_some_iff.1 stands
    exact ⟨runner, among, rfl⟩
  refine ⟨?_, ?_, ?_⟩
  · intro position slot runner stands there
    obtain ⟨-, -, rfl⟩ := new stands
    exact le_rfl
  · intro first second slot slot' runner runner' stands there stands' there'
    obtain ⟨-, -, rfl⟩ := new stands
    obtain ⟨-, -, rfl⟩ := new stands'
    simp [turnOf]
  · intro position slot runner machine stands there loaded
    obtain ⟨runner', among, rfl⟩ := new stands
    cases there
    exact .inr ⟨rfl, among⟩

/-! ### Requests that take a runner -/

/-- A request that takes a runner from its machine for the sake of a key, and the machine that the
runner holds when it is lent: the one that is fetched for a key that is not resident, or none. -/
inductive Seeks (session : Session σ) (key : MachineKey) : Request σ → Option Machine → Prop
  | absent (lacks : session.pool.Lacks key) :
      Seeks session key (.acquire key) (session.pool.fetch key session.world).1.toOption
  | forEviction : Seeks session key (.acquireForEviction key) none

/-- **What a request does that takes a runner from its machine**, given the runners that the pool
was made with, the guards that were given back, and the machine that a runner is lent with. -/
structure MakesRoom (made : List (Runner σ)) (returned : List (Guard σ)) (session : Session σ)
    (key : MachineKey) (content : Option Machine) (answer : Answer σ) (next : Session σ) :
    Prop where
  /-- All runners are said to be lent exactly if none may be taken. -/
  exhausted_iff : answer = .error (.exhausted session.pool.capacity) ↔
    ∀ position slot runner, ¬session.pool.Candidate key position slot runner
  /-- What is lent or has the key stays as it is. -/
  spared : ∀ (position : Nat) (slot : Slot σ), session.pool.slots[position]? = some slot →
    slot.runner = none ∨ slot.key = some key → next.pool.slots[position]? = some slot
  held : session.guards <+: next.guards
  lent : ∀ guard, answer = .ok (some guard) → guard.runner.machine = content
  /-- If a runner holds no machine such a one is taken, and no machine is lost. -/
  free : (∃ position slot runner, session.pool.Candidate key position slot runner ∧
      runner.machine = none) →
    (∀ guard, answer = .ok (some guard) → ∃ slot runner,
      session.pool.Candidate key guard.slot slot runner ∧ runner.machine = none) ∧
    ∀ (position : Nat) (slot : Slot σ) (runner : Runner σ),
      session.pool.slots[position]? = some slot → slot.runner = some runner →
        runner.machine ≠ none → next.pool.slots[position]? = some slot
  /-- If all hold machines, only the one may be lost that was given back first, and it is lost if a
  runner is lent. Runners that were never given back count as given back before all others, in the
  order of their positions. -/
  oldest : (∃ position slot runner, session.pool.Candidate key position slot runner) →
    (∀ position slot runner, session.pool.Candidate key position slot runner →
      runner.machine ≠ none) →
    ∃ position slot runner, session.pool.Candidate key position slot runner ∧
      (∀ other slot' runner', session.pool.Candidate key other slot' runner' → other ≠ position →
        turnOf returned position < turnOf returned other ∨
          turnOf returned position = 0 ∧ turnOf returned other = 0 ∧ position < other) ∧
      (∀ guard, answer = .ok (some guard) → guard.slot = position) ∧
      ∀ other, other ≠ position → next.pool.slots[other]? = session.pool.slots[other]?
  /-- The machine of an idle runner is the one that it was last given back with, or made with. -/
  since : ∀ (position : Nat) (slot : Slot σ) (runner : Runner σ) (machine : Machine),
    session.pool.slots[position]? = some slot → slot.runner = some runner →
      runner.machine = some machine → LastHeld returned position machine ∨
        turnOf returned position = 0 ∧ made[position]? = some runner

omit [Clocked σ] in
/-- A slot that was used earlier was given back earlier, and of two that were used at one time none
was given back. -/
theorem turnOf_of_lastUsed (recent : session.pool.Recent made returned) {first second : Nat}
    {slot slot' : Slot σ} {runner runner' : Runner σ}
    (stands : session.pool.slots[first]? = some slot) (there : slot.runner = some runner)
    (stands' : session.pool.slots[second]? = some slot') (there' : slot'.runner = some runner')
    (differ : second ≠ first)
    (order : slot.lastUsed < slot'.lastUsed ∨ slot.lastUsed = slot'.lastUsed ∧ first ≤ second) :
    turnOf returned first < turnOf returned second ∨
      turnOf returned first = 0 ∧ turnOf returned second = 0 ∧ first < second := by
  have forth := recent.ordered first second slot slot' runner runner' stands there stands' there'
  have back := recent.ordered second first slot' slot runner' runner stands' there' stands there
  rcases order with earlier | ⟨same, before⟩
  · exact .inl (forth.1 earlier)
  · have turns : turnOf returned first = turnOf returned second := by
      omega
    have never : turnOf returned first = 0 := by
      by_contra given
      exact differ (eq_of_turnOf_eq turns given).symm
    exact .inr ⟨never, turns ▸ never, Nat.lt_of_le_of_ne before (Ne.symm differ)⟩

omit [Clocked σ] in
/-- Where no runner may be taken, all are said to be lent. -/
theorem makesRoom_of_none (recent : session.pool.Recent made returned) {key : MachineKey}
    (nothing : session.pool.evictionCandidate? key = none) (content : Option Machine) :
    session.MakesRoom made returned key content (.error session.pool.noRunner) session where
  exhausted_iff := iff_of_true rfl (Pool.evictionCandidate?_eq_none_iff.1 nothing)
  spared _ _ stands _ := stands
  held := List.prefix_rfl
  lent _ given := nomatch given
  free := by
    rintro ⟨position, slot, runner, candidate, -⟩
    exact absurd candidate (Pool.evictionCandidate?_eq_none_iff.1 nothing position slot runner)
  oldest := by
    rintro ⟨position, slot, runner, candidate⟩
    exact absurd candidate (Pool.evictionCandidate?_eq_none_iff.1 nothing position slot runner)
  since := recent.since

omit [Clocked σ] in
/-- Where a runner is taken, it is one without a machine or the one that was given back first. -/
theorem makesRoom_of_takes (recent : session.pool.Recent made returned) {key : MachineKey}
    {position : Nat} {slot : Slot σ} {runner : Runner σ}
    (candidate : session.pool.Candidate key position slot runner)
    (choice : runner.machine = none ∨ ∀ other slot' runner',
      session.pool.Candidate key other slot' runner' →
        runner'.machine ≠ none ∧ (slot.lastUsed < slot'.lastUsed ∨
          slot.lastUsed = slot'.lastUsed ∧ position ≤ other))
    {answer : Except PoolError (Guard σ)} {pool : Pool σ}
    (takes : session.pool.Takes position slot answer pool) {content : Option Machine}
    (lent : ∀ guard, answer = .ok guard → guard.runner.machine = content) (world : σ) :
    session.MakesRoom made returned key content (answer.map some)
      (session.lend (answer.map some) pool world) := by
  have given : ∀ {guard : Guard σ}, answer.map some = .ok (some guard) → answer = .ok guard := by
    intro guard same
    cases answer with
    | error _ => cases same
    | ok _ => exact congrArg Except.ok (Option.some.inj (Except.ok.inj same))
  have apart : ∀ (other : Nat) (slot' : Slot σ), session.pool.slots[other]? = some slot' →
      slot'.runner ≠ some runner ∨ slot'.key = some key → other ≠ position := by
    rintro other slot' stands why rfl
    cases candidate.stands.symm.trans stands
    exact why.elim (fun away => away candidate.there) candidate.differs
  have stays : ∀ (other : Nat) (slot' : Slot σ), session.pool.slots[other]? = some slot' →
      other ≠ position → pool.slots[other]? = some slot' :=
    fun other slot' stands differ => (takes.others differ).trans stands
  refine ⟨?_, ?_, List.prefix_append _ _, fun guard same => lent guard (given same), ?_, ?_,
    recent.since⟩
  · refine iff_of_false (fun same => ?_) fun nothing => nothing position slot runner candidate
    cases answer with
    | error error =>
      refine takes.ne_exhausted session.pool.capacity ?_
      exact congrArg Except.error (Except.error.inj same)
    | ok _ => cases same
  · intro other slot' stands why
    refine stays other slot' stands (apart other slot' stands (why.imp_left fun away idle => ?_))
    cases away.symm.trans idle
  · rintro ⟨other, slot', runner', candidate', unloaded⟩
    have mine : runner.machine = none := by
      rcases choice with mine | all
      · exact mine
      · exact absurd unloaded (all other slot' runner' candidate').1
    refine ⟨fun guard same => ?_, fun other slot' runner' stands there loaded => ?_⟩
    · rw [takes.slot_eq (given same)]
      exact ⟨slot, runner, candidate, mine⟩
    · refine stays other slot' stands (apart other slot' stands (.inl fun idle => loaded ?_))
      cases there.symm.trans idle
      exact mine
  · intro _ full
    refine ⟨position, slot, runner, candidate, ?_, fun guard same => takes.slot_eq (given same),
      fun other differ => takes.others differ⟩
    intro other slot' runner' candidate' differ
    rcases choice with mine | all
    · exact absurd mine (full position slot runner candidate)
    · exact turnOf_of_lastUsed recent candidate.stands candidate.there candidate'.stands
        candidate'.there differ (all other slot' runner' candidate').2

/-- **A request that takes a runner takes a free one, or else what was given back first.** -/
theorem makesRoom_perform (recent : session.pool.Recent made returned) {key : MachineKey}
    {request : Request σ} {content : Option Machine} (seeks : session.Seeks key request content) :
    session.MakesRoom made returned key content (request.perform session).1
      (request.perform session).2 := by
  have refused : session.lend (.error session.pool.noRunner) session.pool session.world = session :=
    lend_error ..
  cases seeks with
  | absent lacks =>
    have nowhere : session.pool.residentAt? key = none :=
      List.findIdx?_eq_none_iff.2 fun slot member => decide_eq_false (lacks slot member)
    have asked : session.pool.acquire key session.world =
        session.pool.acquireAbsent key session.world := by
      unfold Pool.acquire
      rw [nowhere]
    unfold Request.perform
    dsimp only
    rw [asked]
    cases taken : session.pool.evictionCandidate? key with
    | none =>
      unfold Pool.acquireAbsent
      rw [taken]
      have none := makesRoom_of_none recent taken
        (session.pool.fetch key session.world).1.toOption
      exact refused.symm ▸ none
    | some position =>
      obtain ⟨slot, runner, candidate, choice⟩ := Pool.chosen taken
      obtain ⟨takes, fetched⟩ := Pool.acquireAbsent_takes taken candidate session.world
      refine makesRoom_of_takes recent candidate choice takes (fun guard given => ?_) _
      obtain ⟨machine, found, loaded⟩ := fetched guard given
      rw [found, loaded]
      rfl
  | forEviction =>
    unfold Request.perform
    dsimp only
    cases taken : session.pool.evictionCandidate? key with
    | none =>
      unfold Pool.acquireForEviction
      rw [taken]
      exact refused.symm ▸ makesRoom_of_none recent taken none
    | some position =>
      obtain ⟨slot, runner, candidate, choice⟩ := Pool.chosen taken
      obtain ⟨takes, empty⟩ := Pool.acquireForEviction_takes taken candidate session.world
      exact makesRoom_of_takes recent candidate choice takes empty _

end Session

/-! ### Doors that take turns -/

/-- Two doors are lent, and the one that was lent last is given back first. -/
def crossing : List (Deal Memory) :=
  [.ask (.registerChart shutDoor), .ask (.acquire ownDoor), .ask (.acquire ⟨"bob", ""⟩),
    .ask (.release 1), .ask (.release 0)]

end Statechart
