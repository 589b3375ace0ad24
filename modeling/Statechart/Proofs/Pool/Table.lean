/-
**The slots of any pool.**

Whatever the store does, whatever holders do with the runners that they are lent, and whether a
request succeeds or fails, the slots of a pool stay a table of its runners: a slot lacks its runner
exactly while one guard has it, no key stands twice, and the key of an idle slot is that of the
machine that its runner holds.

* `Deal`: a request, anything that is done with the runner of a guard, or a change of the world.
* `Tabled`: the slots of a pool and the guards that are out.
* `Session.Exclusive`: what this comes to for holders.
* `Session.exclusive_dealt`: it holds after any deals, over any store, in any world.
-/

import Statechart.Proofs.Pool.Order

namespace Statechart

variable {σ : Type}

/-! ### Deals -/

/-- Something that happens around a pool. -/
inductive Deal (σ : Type)
  /-- Something is asked of the pool, or an operation is done with a guard. -/
  | ask (request : Request σ)
  /-- Anything is done with the runner of a guard at a place. -/
  | handle (place : Nat) (change : Runner σ → σ → Runner σ × σ)
  /-- The world changes. -/
  | disturb (change : σ → σ)

/-- The session after anything is done with the runner of the guard at a place. -/
def Session.handled (session : Session σ) (place : Nat) (change : Runner σ → σ → Runner σ × σ) :
    Session σ :=
  match session.guards[place]? with
  | none => session
  | some guard =>
    let left := change guard.runner session.world
    { session with
      guards := session.guards.set place { guard with runner := left.1 }
      world := left.2 }

namespace Deal

/-- The session after a deal. -/
def perform [Clocked σ] : Deal σ → Session σ → Session σ
  | ask request, session => (request.perform session).2
  | handle place change, session => session.handled place change
  | disturb change, session => { session with world := change session.world }

/-- A deal is done with the guard at a place. -/
def Touches : Deal σ → Nat → Prop
  | ask (.release place), touched | ask (.operate place _), touched => place = touched
  | handle place _, touched => place = touched
  | _, _ => False

end Deal

/-- The session after several deals. -/
def Session.dealt [Clocked σ] (session : Session σ) (deals : List (Deal σ)) : Session σ :=
  deals.foldl (fun session deal => deal.perform session) session

/-- **What a deal keeps, deals keep**, if each of them is as it has to be where it is made. -/
theorem Session.dealt_keeps [Clocked σ] {P : Session σ → Prop} {Q : Session σ → Deal σ → Prop}
    (kept : ∀ session deal, P session → Q session deal → P (deal.perform session))
    {session : Session σ} (initially : P session) {deals : List (Deal σ)}
    (each : ∀ before deal, before ++ [deal] <+: deals → Q (session.dealt before) deal) :
    P (session.dealt deals) := by
  induction deals generalizing session with
  | nil => exact initially
  | cons deal deals ih =>
    refine ih (kept session deal initially (each [] deal (List.prefix_append [deal] deals))) ?_
    intro before next early
    exact each (deal :: before) next ((List.prefix_cons_inj deal).2 early)

/-! ### Tables -/

/-- An idle slot has the key of its machine, or no key and a runner as it was made. -/
def Slot.Keyed (made : List (Runner σ)) (slot : Slot σ) : Prop :=
  ∀ runner, slot.runner = some runner →
    slot.key = runner.machine.bind Machine.key? ∨ slot.key = none ∧ runner ∈ made

/-- **The slots of a pool are a table of its runners**, given the runners that it was made with and
the guards that are out. -/
structure Tabled (options : PoolOptions) (made : List (Runner σ)) (pool : Pool σ)
    (guards : List (Guard σ)) : Prop where
  configured : pool.options = options
  sized : pool.slots.length = options.capacity
  lent : ∀ guard ∈ guards, guard.StandsIn pool.slots
  once : (guards.map Guard.slot).Nodup
  found : ∀ position slot, pool.slots[position]? = some slot → slot.runner = none →
    ∃ guard ∈ guards, guard.slot = position
  apart : Slot.Apart pool.slots
  keyed : ∀ slot ∈ pool.slots, slot.Keyed made

namespace Tabled

variable {options : PoolOptions} {made : List (Runner σ)} {pool : Pool σ} {guards : List (Guard σ)}
  {position : Nat} {slot : Slot σ} {runner : Runner σ}

/-- A slot may change together with the guards if the new guards stand where they should. -/
theorem replace (tabled : Tabled options made pool guards)
    (stands : pool.slots[position]? = some slot) {slot' : Slot σ} (keyed : slot'.Keyed made)
    (fresh : ∀ key, slot'.key = some key → slot.key = some key ∨
      ∀ other slot'', other ≠ position → pool.slots[other]? = some slot'' → slot''.key ≠ some key)
    {guards' : List (Guard σ)} (once : (guards'.map Guard.slot).Nodup)
    (lent : ∀ guard ∈ guards', guard.StandsIn (pool.slots.set position slot'))
    (found : slot'.runner = none → ∃ guard ∈ guards', guard.slot = position)
    (stay : ∀ guard ∈ guards, guard.slot ≠ position → guard ∈ guards') (clock : Nat) :
    Tabled options made { pool.withSlot position slot' with clock } guards' where
  configured := tabled.configured
  sized := (List.length_set ..).trans tabled.sized
  lent := lent
  once := once
  found := by
    intro place slot'' there away
    by_cases here : place = position
    · subst here
      have inside := (List.getElem?_eq_some_iff.1 stands).1
      have same := there.symm.trans (List.getElem?_set_self inside)
      rw [Option.some.inj same] at away
      exact found away
    · have before := (List.getElem?_set_ne (Ne.symm here)).symm.trans there
      obtain ⟨guard, member, same⟩ := tabled.found place slot'' before away
      exact ⟨guard, stay guard member (same ▸ here), same⟩
  apart := tabled.apart.set stands fresh
  keyed := by
    intro slot'' member
    rcases List.mem_or_eq_of_mem_set member with old | rfl
    · exact tabled.keyed slot'' old
    · exact keyed

/-- An idle slot may change if it stays idle. -/
theorem withSlot (tabled : Tabled options made pool guards)
    (stands : pool.slots[position]? = some slot) (there : slot.runner = some runner)
    {slot' : Slot σ} {runner' : Runner σ} (there' : slot'.runner = some runner')
    (keyed : slot'.Keyed made) (bare : slot'.key = none) :
    Tabled options made (pool.withSlot position slot') guards := by
  have apart := fun guard member => (tabled.lent guard member).slot_ne stands there
  refine tabled.replace stands keyed ?_ tabled.once ?_ ?_ (fun guard member _ => member) pool.clock
  · intro key keyed'
    cases bare.symm.trans keyed'
  · exact fun guard member => (tabled.lent guard member).set (apart guard member) slot'
  · intro away
    cases there'.symm.trans away

/-- An idle runner may be lent with a key that no other slot has. -/
theorem lend (tabled : Tabled options made pool guards)
    (stands : pool.slots[position]? = some slot) (there : slot.runner = some runner)
    {key : Option MachineKey} (runner' : Runner σ)
    (fresh : ∀ key', key = some key' → slot.key = some key' ∨
      ∀ other slot'', other ≠ position → pool.slots[other]? = some slot'' →
        slot''.key ≠ some key') :
    Tabled options made (pool.lent position { slot with key })
      (guards ++ [⟨position, key, runner'⟩]) := by
  have apart := fun guard member => (tabled.lent guard member).slot_ne stands there
  have inside := (List.getElem?_eq_some_iff.1 stands).1
  refine tabled.replace stands ?_ fresh (Guard.nodup_lend tabled.once apart) ?_ ?_ ?_ _
  · exact fun runner away => nomatch away
  · intro guard member
    rcases List.mem_append.1 member with old | new
    · exact (tabled.lent guard old).set (apart guard old) _
    · rw [List.mem_singleton.1 new]
      exact ⟨_, List.getElem?_set_self inside, rfl, rfl⟩
  · exact fun _ => ⟨_, List.mem_append_right _ List.mem_cons_self, rfl⟩
  · exact fun guard member _ => List.mem_append_left _ member

/-- A guard that is given back leaves a table. -/
theorem release (tabled : Tabled options made pool guards) {place : Nat} {guard : Guard σ}
    (held : guards[place]? = some guard) (world : σ) :
    Tabled options made (pool.release guard world).1 (guards.eraseIdx place) := by
  obtain ⟨slot, stands, away, same⟩ := tabled.lent guard (List.mem_of_getElem? held)
  have rekeys := pool.rekeys guard
  refine tabled.replace stands (?_ : (pool.returned guard).Keyed made) ?_ ?_ ?_ ?_ ?_ _
  · rintro runner ⟨⟩
    refine .inl ?_
    show (pool.rekey guard).1 = (pool.rekey guard).2.machine.bind Machine.key?
    generalize (pool.rekey guard).1 = key, (pool.rekey guard).2 = runner at rekeys
    cases rekeys with
    | same same => exact same.symm
    | ownerless ownerless => exact ownerless.symm
    | discarded other elsewhere => rfl
    | moved other here =>
      rw [Pool.machine_withAutosave]
      exact other.symm
  · intro key keyed
    change (pool.rekey guard).1 = some key at keyed
    rw [keyed] at rekeys
    rcases rekeys.fresh with before | here
    · exact .inl (same.trans before)
    · exact .inr (tabled.apart.lacks_elsewhere here)
  · exact tabled.once.sublist ((List.eraseIdx_sublist _ _).map _)
  · intro other stays
    exact (tabled.lent other (List.mem_of_mem_eraseIdx stays)).set
      (Guard.slot_ne_of_mem_eraseIdx tabled.once held stays) _
  · exact fun nothing => nomatch nothing
  · intro other member differ
    obtain ⟨index, there⟩ := List.mem_iff_getElem?.1 member
    refine List.mem_eraseIdx_iff_getElem?.2 ⟨index, ?_, there⟩
    rintro rfl
    cases held.symm.trans there
    exact differ rfl

/-- Whatever is done with the runner of a guard leaves a table. -/
theorem use (tabled : Tabled options made pool guards) {place : Nat} {guard : Guard σ}
    (held : guards[place]? = some guard) (runner : Runner σ) :
    Tabled options made pool (guards.set place { guard with runner }) where
  configured := tabled.configured
  sized := tabled.sized
  lent := by
    intro other member
    rcases List.mem_or_eq_of_mem_set member with old | rfl
    · exact tabled.lent other old
    · exact tabled.lent guard (List.mem_of_getElem? held)
  once := by
    rw [Guard.map_slot_set held]
    exact tabled.once
  found := by
    intro position slot stands away
    obtain ⟨other, member, same⟩ := tabled.found position slot stands away
    have among := List.mem_map_of_mem (f := Guard.slot) member
    rw [← Guard.map_slot_set held runner] at among
    obtain ⟨other', member', same'⟩ := List.mem_map.1 among
    exact ⟨other', member', same'.trans same⟩
  apart := tabled.apart
  keyed := tabled.keyed

end Tabled

/-! ### What requests answer -/

/-- That a machine cannot be written does not mean that it is lent. -/
theorem PoolError.OfWriting.ne_busy {error : PoolError} (of_writing : error.OfWriting)
    (key : MachineKey) : error ≠ .busy key := by
  cases of_writing <;> exact nofun

/-- That a machine cannot be fetched does not mean that it is lent. -/
theorem PoolError.OfFetching.ne_busy {error : PoolError} {key : MachineKey}
    (of_fetching : error.OfFetching key) (other : MachineKey) : error ≠ .busy other := by
  cases of_fetching <;> exact nofun

namespace Pool

variable {pool : Pool σ} {position : Nat} {slot : Slot σ} {runner : Runner σ} {key : MachineKey}

/-- A runner is emptied, or the pool stays. -/
theorem evict_cases (stands : pool.slots[position]? = some slot)
    (there : slot.runner = some runner) (world : σ) :
    (∃ world', pool.evict position world = (.ok (), pool.withSlot position
        { slot with runner := some (emptied runner), key := none }, world')) ∨
      ∃ error world', pool.evict position world = (.error error, pool, world') ∧
        ∀ other, error ≠ .busy other := by
  unfold evict
  rw [stands]
  dsimp only
  rcases left : pool.persistSlot slot world with ⟨error | written, world'⟩
  · exact .inr ⟨error, world', rfl, (persistSlot_error (congrArg Prod.fst left)).ne_busy⟩
  · refine .inl ⟨world', ?_⟩
    rw [there, Option.map_some]

end Pool

/-- **What an answer leaves**: a table, the guard of the answer being out; and which keys are
answered to be lent already. -/
structure Leaves (options : PoolOptions) (made : List (Runner σ)) (guards : List (Guard σ))
    (busy : MachineKey → Prop) (answer : Answer σ) (pool : Pool σ) : Prop where
  tabled : Tabled options made pool (guards ++ answer.guard?.toList)
  busy_iff : ∀ key, answer = .error (.busy key) ↔ busy key

/-- An answer that is not about lending fits wherever no key is lent. -/
theorem Leaves.with_busy {options : PoolOptions} {made : List (Runner σ)} {pool : Pool σ}
    {guards : List (Guard σ)} {answer : Answer σ}
    (leaves : Leaves options made guards (fun _ => False) answer pool) {busy : MachineKey → Prop}
    (free : ∀ key, busy key → False) : Leaves options made guards busy answer pool :=
  ⟨leaves.tabled, fun key => (leaves.busy_iff key).trans ⟨False.elim, free key⟩⟩

namespace Tabled

variable {options : PoolOptions} {made : List (Runner σ)} {pool : Pool σ} {guards : List (Guard σ)}
  {position : Nat} {slot : Slot σ} {runner : Runner σ} {key : MachineKey}

/-- An answer without a guard leaves the guards. -/
theorem quiet (tabled : Tabled options made pool guards) (answer : Answer σ)
    (nothing : answer.guard? = none) :
    Tabled options made pool (guards ++ answer.guard?.toList) := by
  rw [nothing, Option.toList_none, List.append_nil]
  exact tabled

theorem refuses (tabled : Tabled options made pool guards) {error : PoolError}
    (other : ∀ key, error ≠ .busy key) :
    Leaves options made guards (fun _ => False) (.error error) pool :=
  ⟨tabled.quiet _ rfl, fun key => ⟨fun same => other key (Except.error.inj same), False.elim⟩⟩

theorem answers {answer : Option (Guard σ)}
    (tabled : Tabled options made pool (guards ++ answer.toList)) :
    Leaves options made guards (fun _ => False) (.ok answer) pool :=
  ⟨tabled, fun _ => ⟨(fun same => nomatch same), False.elim⟩⟩

theorem silent (tabled : Tabled options made pool guards) :
    Leaves options made guards (fun _ => False) (.ok none) pool :=
  answers (tabled.quiet (.ok none) rfl)

/-- A runner that is there may be lent as it is. -/
theorem lendsAt (tabled : Tabled options made pool guards)
    (stands : pool.slots[position]? = some slot) (there : slot.runner = some runner) :
    Leaves options made guards (fun _ => False) (.ok (some ⟨position, slot.key, runner⟩))
      (pool.lent position slot) :=
  answers (tabled.lend stands there runner fun _ keyed => .inl keyed)

/-- A key has no guard if no slot has it. -/
theorem free_of_lacks (tabled : Tabled options made pool guards) (absent : pool.Lacks key)
    (guard : Guard σ) (member : guard ∈ guards) : guard.key ≠ some key := by
  obtain ⟨slot, stands, -, same⟩ := tabled.lent guard member
  exact fun keyed => absent slot (List.mem_of_getElem? stands) (same.trans keyed)

/-- A key has no guard if the runner of its slot is there. -/
theorem free_of_there (tabled : Tabled options made pool guards)
    (stands : pool.slots[position]? = some slot) (keyed : slot.key = some key)
    (there : slot.runner = some runner) (guard : Guard σ) (member : guard ∈ guards) :
    guard.key ≠ some key := by
  intro keyed'
  obtain ⟨slot', stands', -, same⟩ := tabled.lent guard member
  exact (tabled.lent guard member).slot_ne stands there
    (tabled.apart _ _ slot' slot key stands' stands (same.trans keyed') keyed)

/-- A key has a guard if its slot lacks the runner. -/
theorem held_of_away (tabled : Tabled options made pool guards)
    (stands : pool.slots[position]? = some slot) (keyed : slot.key = some key)
    (away : slot.runner = none) : ∃ guard ∈ guards, guard.key = some key := by
  obtain ⟨guard, member, rfl⟩ := tabled.found position slot stands away
  obtain ⟨slot', stands', -, same⟩ := tabled.lent guard member
  cases stands.symm.trans stands'
  exact ⟨guard, member, same.symm.trans keyed⟩

/-- A key whose slot lacks the runner is answered to be lent. -/
theorem refusesKey (tabled : Tabled options made pool guards)
    (stands : pool.slots[position]? = some slot) (keyed : slot.key = some key)
    (away : slot.runner = none) :
    Leaves options made guards
      (fun other => some key = some other ∧ ∃ guard ∈ guards, guard.key = some other)
      (.error (.busy key)) pool := by
  refine ⟨tabled.quiet _ rfl, fun other => ⟨?_, ?_⟩⟩
  · rintro ⟨⟩
    exact ⟨rfl, tabled.held_of_away stands keyed away⟩
  · rintro ⟨⟨⟩, -⟩
    rfl

/-- A runner that is emptied leaves a table. -/
theorem empty (tabled : Tabled options made pool guards)
    (stands : pool.slots[position]? = some slot) (there : slot.runner = some runner) :
    Tabled options made
      (pool.withSlot position { slot with runner := some (Pool.emptied runner), key := none })
      guards := by
  refine tabled.withSlot stands there rfl ?_ rfl
  rintro runner ⟨⟩
  exact .inl rfl

theorem acquireForEviction (tabled : Tabled options made pool guards) (key : MachineKey)
    (world : σ) :
    Leaves options made guards (fun _ => False)
      ((pool.acquireForEviction key world).1.map some) (pool.acquireForEviction key world).2.1 := by
  unfold Pool.acquireForEviction
  cases candidate : pool.evictionCandidate? key with
  | none => exact tabled.refuses fun other same => nomatch same
  | some position =>
    obtain ⟨slot, runner, stands, there, -⟩ := Pool.of_evictionCandidate? candidate
    dsimp only
    rcases Pool.evict_cases stands there world with
      ⟨world', emptied⟩ | ⟨error, world', failed, other⟩
    · rw [emptied]
      have inside := (List.getElem?_eq_some_iff.1 stands).1
      unfold Pool.checkOut
      dsimp only
      rw [Pool.checkOut?_eq (List.getElem?_set_self inside) rfl]
      exact (tabled.empty stands there).lendsAt (List.getElem?_set_self inside) rfl
    · rw [failed]
      exact tabled.refuses other

theorem acquireAbsent (tabled : Tabled options made pool guards) (absent : pool.Lacks key)
    (world : σ) :
    Leaves options made guards (fun _ => False) ((pool.acquireAbsent key world).1.map some)
      (pool.acquireAbsent key world).2.1 := by
  unfold Pool.acquireAbsent
  cases candidate : pool.evictionCandidate? key with
  | none => exact tabled.refuses fun other same => nomatch same
  | some position =>
    obtain ⟨slot, runner, stands, there, -⟩ := Pool.of_evictionCandidate? candidate
    dsimp only
    rcases fetched : pool.fetch key world with ⟨error | machine, world₁⟩
    · exact tabled.refuses (Pool.fetch_error (congrArg Prod.fst fetched)).ne_busy
    dsimp only
    rcases Pool.evict_cases stands there world₁ with
      ⟨world₂, emptied⟩ | ⟨error, world₂, failed, other⟩
    · rw [emptied]
      dsimp only
      have bare := tabled.empty stands there
      have stands' : (pool.withSlot position
          { slot with runner := some (Pool.emptied runner), key := none }).slots[position]? =
            some { slot with runner := some (Pool.emptied runner), key := none } :=
        List.getElem?_set_self (List.getElem?_eq_some_iff.1 stands).1
      rcases Pool.lend_cases stands' rfl rfl key machine with
        ⟨error, failed⟩ | lent
      · rw [failed]
        exact bare.refuses fun other same => nomatch same
      · rw [lent]
        refine answers (bare.lend stands' rfl _ ?_)
        rintro other ⟨⟩
        refine .inr fun place slot'' differ there' => ?_
        have before := (List.getElem?_set_ne (Ne.symm differ)).symm.trans there'
        exact absent slot'' (List.mem_of_getElem? before)
    · rw [failed]
      exact tabled.refuses other

/-- Among the keys that are asked for, those are answered to be lent already that a guard has. -/
theorem acquire (tabled : Tabled options made pool guards) (key : MachineKey) (world : σ) :
    Leaves options made guards
      (fun other => some key = some other ∧ ∃ guard ∈ guards, guard.key = some other)
      ((pool.acquire key world).1.map some) (pool.acquire key world).2.1 := by
  unfold Pool.acquire
  cases resident : pool.residentAt? key with
  | none =>
    have absent := Pool.lacks_of_residentAt? resident
    refine (tabled.acquireAbsent absent world).with_busy ?_
    rintro other ⟨⟨⟩, guard, member, keyed⟩
    exact tabled.free_of_lacks absent guard member keyed
  | some position =>
    obtain ⟨slot, stands, keyed⟩ := Pool.of_residentAt? resident
    dsimp only
    cases there : slot.runner with
    | none =>
      rw [Pool.checkOut?_eq_none stands there]
      exact tabled.refusesKey stands keyed there
    | some runner =>
      rw [Pool.checkOut?_eq stands there]
      refine (tabled.lendsAt stands there).with_busy ?_
      rintro other ⟨⟨⟩, guard, member, keyed'⟩
      exact tabled.free_of_there stands keyed there guard member keyed'

theorem acquireCurrent (tabled : Tabled options made pool guards) (key : MachineKey) :
    Leaves options made guards
      (fun other => some key = some other ∧ ∃ guard ∈ guards, guard.key = some other)
      (pool.acquireCurrent key).1 (pool.acquireCurrent key).2 := by
  unfold Pool.acquireCurrent
  cases resident : pool.residentAt? key with
  | none =>
    refine tabled.silent.with_busy ?_
    rintro other ⟨⟨⟩, guard, member, keyed⟩
    exact tabled.free_of_lacks (Pool.lacks_of_residentAt? resident) guard member keyed
  | some position =>
    obtain ⟨slot, stands, keyed⟩ := Pool.of_residentAt? resident
    dsimp only
    cases there : slot.runner with
    | none =>
      rw [Pool.checkOut?_eq_none stands there]
      exact tabled.refusesKey stands keyed there
    | some runner =>
      have free : ∀ other, (some key = some other ∧ ∃ guard ∈ guards, guard.key = some other) →
          False := by
        rintro other ⟨⟨⟩, guard, member, keyed'⟩
        exact tabled.free_of_there stands keyed there guard member keyed'
      rw [Pool.checkOut?_eq stands there]
      dsimp only
      split
      · exact (tabled.lendsAt stands there).with_busy free
      · exact tabled.silent.with_busy free

theorem acquireFree (tabled : Tabled options made pool guards) :
    Leaves options made guards (fun _ => False) (.ok pool.acquireFree.1) pool.acquireFree.2 := by
  unfold Pool.acquireFree
  cases free : pool.slots.findIdx? Slot.isFree with
  | none => exact tabled.silent
  | some position =>
    obtain ⟨inside, -⟩ := List.findIdx?_eq_some_iff_getElem.1 free
    have stands := List.getElem?_eq_getElem inside
    dsimp only
    cases there : pool.slots[position].runner with
    | none =>
      rw [Pool.checkOut?_eq_none stands there]
      exact tabled.silent
    | some runner =>
      rw [Pool.checkOut?_eq stands there]
      exact tabled.lendsAt stands there

theorem flushAll (tabled : Tabled options made pool guards) (world : σ) :
    Leaves options made guards (fun _ => False) ((pool.flushAll world).1.map fun _ => none)
      pool := by
  unfold Pool.flushAll
  rcases left : pool.persistSlots pool.slots 0 world with ⟨error | count, world'⟩
  · exact tabled.refuses (Pool.persistSlots_error (congrArg Prod.fst left)).ne_busy
  · exact tabled.silent

theorem registerChart (tabled : Tabled options made pool guards) (template : Machine) :
    Tabled options made (pool.registerChart template) guards :=
  ⟨tabled.configured, tabled.sized, tabled.lent, tabled.once, tabled.found, tabled.apart,
    tabled.keyed⟩

end Tabled

/-! ### Sessions -/

namespace Session

variable {options : PoolOptions} {made : List (Runner σ)} {session : Session σ}

/-- The slots of a session before the first request are a table. -/
theorem tabled_opened (options : PoolOptions) (store : MachineStore σ)
    (count : made.length = options.capacity) (world : σ) :
    Tabled options made (opened options store made world).pool
      (opened options store made world).guards := by
  have new : ∀ slot ∈ (opened options store made world).pool.slots,
      slot.key = none ∧ ∃ runner ∈ made, slot.runner = some runner := by
    intro slot member
    obtain ⟨runner, among, rfl⟩ := List.mem_map.1 member
    exact ⟨rfl, runner, among, rfl⟩
  refine ⟨rfl, (List.length_map _).trans count, fun guard member => (nomatch member),
    List.nodup_nil, ?_, ?_, ?_⟩
  · intro position slot stands away
    obtain ⟨-, runner, -, there⟩ := new slot (List.mem_of_getElem? stands)
    cases away.symm.trans there
  · intro first second slot slot' key stands _ keyed _
    rw [(new slot (List.mem_of_getElem? stands)).1] at keyed
    cases keyed
  · intro slot member runner there
    obtain ⟨bare, runner', among, there'⟩ := new slot member
    cases there.symm.trans there'
    exact .inr ⟨bare, among⟩

variable [Clocked σ]

/-- **What every request leaves**: a table, and a busy answer for the keys that are lent. -/
theorem leaves (tabled : Tabled options made session.pool session.guards) (request : Request σ) :
    Tabled options made (request.perform session).2.pool (request.perform session).2.guards ∧
      ∀ key, (request.perform session).1 = .error (.busy key) ↔
        request.asked? = some key ∧ ∃ guard ∈ session.guards, guard.key = some key := by
  have other : ∀ {answer : Answer σ} {pool : Pool σ},
      Leaves options made session.guards (fun _ => False) answer pool →
        ∀ key, answer = .error (.busy key) ↔
          none = some key ∧ ∃ guard ∈ session.guards, guard.key = some key :=
    fun left => (left.with_busy fun _ nothing => nomatch nothing.1).busy_iff
  have silent := other tabled.silent
  cases request with
  | acquire key =>
    have left := tabled.acquire key session.world
    exact ⟨left.tabled, left.busy_iff⟩
  | acquireCurrent key =>
    have left := tabled.acquireCurrent key
    exact ⟨left.tabled, left.busy_iff⟩
  | acquireForEviction key =>
    have left := tabled.acquireForEviction key session.world
    exact ⟨left.tabled, other left⟩
  | acquireFree =>
    have left := tabled.acquireFree
    exact ⟨left.tabled, other left⟩
  | flushAll => exact ⟨tabled, other (tabled.flushAll session.world)⟩
  | registerChart template => exact ⟨tabled.registerChart template, silent⟩
  | release place =>
    cases held : session.guards[place]? with
    | none =>
      rw [Request.perform_release_of_none held]
      exact ⟨tabled, silent⟩
    | some guard =>
      rw [Request.perform_release held]
      exact ⟨tabled.release held session.world, silent⟩
  | operate place operation =>
    cases held : session.guards[place]? with
    | none =>
      rw [Request.perform_operate_of_none held]
      exact ⟨tabled, silent⟩
    | some guard =>
      rw [Request.perform_operate held]
      exact ⟨tabled.use held _, silent⟩

/-- **Every deal leaves a table.** -/
theorem tabled_perform (tabled : Tabled options made session.pool session.guards)
    (deal : Deal σ) :
    Tabled options made (deal.perform session).pool (deal.perform session).guards := by
  cases deal with
  | ask request => exact (leaves tabled request).1
  | handle place change =>
    show Tabled options made (session.handled place change).pool
      (session.handled place change).guards
    unfold handled
    cases held : session.guards[place]? with
    | none => exact tabled
    | some guard => exact tabled.use held _
  | disturb change => exact tabled

/-- **Any deals leave a table.** -/
theorem tabled_dealt (tabled : Tabled options made session.pool session.guards)
    (deals : List (Deal σ)) :
    Tabled options made (session.dealt deals).pool (session.dealt deals).guards := by
  induction deals generalizing session with
  | nil => exact tabled
  | cons deal deals ih => exact ih (tabled_perform tabled deal)

/-! ### What stays with holders -/

/-- A guard that is not dealt with stays out with its runner. -/
theorem mem_perform {deal : Deal σ} {place : Nat} {guard : Guard σ}
    (held : session.guards[place]? = some guard) (untouched : ¬deal.Touches place) :
    guard ∈ (deal.perform session).guards := by
  have member := List.mem_of_getElem? held
  have set : ∀ {other : Nat} (guard' : Guard σ), other ≠ place →
      guard ∈ session.guards.set other guard' := by
    intro other guard' differ
    refine List.mem_of_getElem? (i := place) ?_
    rw [List.getElem?_set_ne differ]
    exact held
  cases deal with
  | disturb change => exact member
  | handle other change =>
    show guard ∈ (session.handled other change).guards
    unfold handled
    cases held' : session.guards[other]? with
    | none => exact member
    | some guard' => exact set _ untouched
  | ask request =>
    cases request with
    | acquire key => exact List.mem_append_left _ member
    | acquireCurrent key => exact List.mem_append_left _ member
    | acquireForEviction key => exact List.mem_append_left _ member
    | acquireFree => exact List.mem_append_left _ member
    | flushAll => exact member
    | registerChart template => exact member
    | release other =>
      show guard ∈ (Request.perform (.release other) session).2.guards
      cases held' : session.guards[other]? with
      | none =>
        rw [Request.perform_release_of_none held']
        exact member
      | some guard' =>
        rw [Request.perform_release held']
        exact List.mem_eraseIdx_iff_getElem?.2 ⟨place, Ne.symm untouched, held⟩
    | operate other operation =>
      show guard ∈ (Request.perform (.operate other operation) session).2.guards
      cases held' : session.guards[other]? with
      | none =>
        rw [Request.perform_operate_of_none held']
        exact member
      | some guard' =>
        rw [Request.perform_operate held']
        exact set _ untouched

/-- A request that is answered with an error leaves the guards as they are. -/
theorem guards_of_error {request : Request σ} {error : PoolError}
    (failed : (request.perform session).1 = .error error) :
    (request.perform session).2.guards = session.guards := by
  have lent : ∀ {answer : Answer σ} (pool : Pool σ) (world : σ), answer = .error error →
      (session.lend answer pool world).guards = session.guards := by
    rintro _ pool world rfl
    exact List.append_nil _
  cases request with
  | acquire key => exact lent _ _ failed
  | acquireCurrent key => exact lent _ _ failed
  | acquireForEviction key => exact lent _ _ failed
  | acquireFree => cases failed
  | flushAll => rfl
  | registerChart template => rfl
  | release place =>
    unfold Request.perform at failed
    dsimp only at failed
    split at failed <;> cases failed
  | operate place operation =>
    unfold Request.perform at failed
    dsimp only at failed
    split at failed <;> cases failed

/-- **What holders of guards can rely on**, given the options of the pool and the runners that it
was made with. -/
structure Exclusive (options : PoolOptions) (made : List (Runner σ)) (session : Session σ) :
    Prop where
  configured : session.pool.options = options
  sized : session.pool.slots.length = options.capacity
  /-- A slot lacks its runner exactly while exactly one guard has it. -/
  away_iff : ∀ (position : Nat) (slot : Slot σ), session.pool.slots[position]? = some slot →
    (slot.runner = none ↔
      ∃! place : Nat, ∃ guard, session.guards[place]? = some guard ∧ guard.slot = position)
  /-- A guard has the key of its slot. -/
  lent : ∀ guard ∈ session.guards, guard.StandsIn session.pool.slots
  /-- No two slots have one key. -/
  apart : Slot.Apart session.pool.slots
  /-- No two guards have one key. -/
  alone : ∀ (first second : Nat) (guard guard' : Guard σ) (key : MachineKey),
    session.guards[first]? = some guard → session.guards[second]? = some guard' →
      guard.key = some key → guard'.key = some key → first = second
  /-- An idle slot has the key of its machine, or was never lent. -/
  keyed : ∀ slot ∈ session.pool.slots, slot.Keyed made
  /-- An idle slot has the key of its machine if no runner was made with a machine of a key. -/
  idle : (∀ runner ∈ made, runner.machine.bind Machine.key? = none) →
    ∀ slot ∈ session.pool.slots, ∀ runner, slot.runner = some runner →
      slot.key = runner.machine.bind Machine.key?
  /-- A key is answered to be lent exactly if it is asked for and a guard has it. -/
  busy_iff : ∀ (request : Request σ) (key : MachineKey),
    (request.perform session).1 = .error (.busy key) ↔
      request.asked? = some key ∧ ∃ guard ∈ session.guards, guard.key = some key
  /-- Nothing changes a runner that is lent but what is done with its guard. -/
  untouched : ∀ (deal : Deal σ) (place : Nat) (guard : Guard σ),
    session.guards[place]? = some guard → ¬deal.Touches place →
      guard ∈ (deal.perform session).guards
  /-- Whatever fails leaves the guards as they are. -/
  failed : ∀ (request : Request σ) (error : PoolError),
    (request.perform session).1 = .error error →
      (request.perform session).2.guards = session.guards

/-- A table gives what holders can rely on. -/
theorem exclusive_of_tabled (tabled : Tabled options made session.pool session.guards) :
    session.Exclusive options made where
  configured := tabled.configured
  sized := tabled.sized
  away_iff := by
    intro position slot stands
    refine ⟨fun away => ?_, fun ⟨place, ⟨guard, held, same⟩, _⟩ => ?_⟩
    · obtain ⟨guard, member, same⟩ := tabled.found position slot stands away
      obtain ⟨place, held⟩ := List.mem_iff_getElem?.1 member
      refine ⟨place, ⟨guard, held, same⟩, fun other ⟨guard', held', same'⟩ => ?_⟩
      exact Guard.place_eq tabled.once held' held (same'.trans same.symm)
    · obtain ⟨slot', stands', away, -⟩ := tabled.lent guard (List.mem_of_getElem? held)
      rw [same] at stands'
      cases stands.symm.trans stands'
      exact away
  lent := tabled.lent
  apart := tabled.apart
  alone := by
    intro first second guard guard' key held held' keyed keyed'
    obtain ⟨slot, stands, -, same⟩ := tabled.lent guard (List.mem_of_getElem? held)
    obtain ⟨slot', stands', -, same'⟩ := tabled.lent guard' (List.mem_of_getElem? held')
    exact Guard.place_eq tabled.once held held' (tabled.apart _ _ slot slot' key stands stands'
      (same.trans keyed) (same'.trans keyed'))
  keyed := tabled.keyed
  idle := by
    intro ownerless slot member runner there
    rcases tabled.keyed slot member runner there with same | ⟨bare, among⟩
    · exact same
    · rw [bare, ownerless runner among]
  busy_iff request := (leaves tabled request).2
  untouched _ _ _ := mem_perform
  failed _ _ := guards_of_error

end Session

end Statechart
