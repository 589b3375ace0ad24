/-
**Machines that stay kept.**

A pool that writes what it is given back keeps the machine of every idle runner as it is, whatever
holders do and whichever hooks write meanwhile: a hook writes under the key of the guard that has
it, and the slot of a guard is not idle. Any other pool keeps them at the moment when it has written
all of them at once.

* `Deal.Spares`: a deal in which only the pool and its hooks write to the store.
* `Session.Durable`: the machines of idle runners are kept as they are.
* `Session.Durable.perform`: a deal leaves them kept, if what is given back in it is written.
* `Session.Orderly.flushAll_saves`: machines that are written at once are kept.
-/

import Statechart.Proofs.Pool.Refusal
import Statechart.Proofs.Pool.Transparency

namespace Statechart

variable {σ : Type} {kept : σ → MachineKey → Option Bytes} {store : MachineStore σ}

/-! ### Deals that leave the store to the pool -/

/-- What is done with a runner besides operations: its hook is replaced or taken away, and it is
told whether to call the hook at transitions. -/
inductive Handling (σ : Type)
  | setFlushHook (hook : Option (FlushHook σ))
  | setAutosave (autosave : Bool)

namespace Handling

/-- The runner and the world afterwards. -/
def perform : Handling σ → Runner σ → σ → Runner σ × σ
  | setFlushHook flushHook, runner, world => ({ runner with flushHook }, world)
  | setAutosave autosave, runner, world => ({ runner with autosave }, world)

/-- A handling that brings no hook but such as leaves alone what is kept. -/
def Spares (kept : σ → MachineKey → Option Bytes) (handling : Handling σ) : Prop :=
  ∀ hook, handling = setFlushHook (some hook) → hook.Spares kept

/-- A handling leaves the runner tied as it was. -/
theorem perform_tied {handling : Handling σ} (spares : handling.Spares kept) {runner : Runner σ}
    {entry : Option MachineKey} (tied : runner.Tied kept store entry) (world : σ) :
    (handling.perform runner world).1.Tied kept store entry := by
  cases handling with
  | setFlushHook given =>
    refine ⟨tied.resolver, tied.overrides, fun hook set => .inl (spares hook ?_)⟩
    exact congrArg setFlushHook set
  | setAutosave autosave => exact ⟨tied.resolver, tied.overrides, tied.hook⟩

end Handling

namespace Deal

/-- A deal in which only the pool and its hooks write to the store. While a guard is out, what is
kept under its key may change at any time, as its hook may write in the course of an operation. -/
def Spares (kept : σ → MachineKey → Option Bytes) (session : Session σ) : Deal σ → Prop
  | ask request => request.Spares kept
  | handle _ change => ∃ handling : Handling σ, handling.Spares kept ∧ change = handling.perform
  | disturb change => ∀ key, (∀ guard ∈ session.guards, guard.key ≠ some key) →
    kept (change session.world) key = kept session.world key

/-- A deal in which the machine of a guard that is given back can be written. -/
def Saves (session : Session σ) : Deal σ → Prop
  | ask (.release place) => ∀ guard key, session.guards[place]? = some guard →
    (session.pool.rekey guard).1 = some key →
      (session.pool.persist key (session.pool.rekey guard).2 session.world).1 = .ok ()
  | _ => True

end Deal

/-- A machine is written if saves do not fail. -/
theorem Pool.persist_ok {pool : Pool σ}
    (saves : ∀ key bytes world, (pool.store.save key bytes world).1 = .ok ()) {runner : Runner σ}
    {machine : Machine} (loaded : runner.machine = some machine) (key : MachineKey) (world : σ) :
    ∃ world', pool.persist key runner world = (.ok (), world') := by
  have done := saves key (machine.encode .binary) world
  unfold persist
  rw [Runner.dump_eq loaded]
  rcases saved : pool.store.save key (machine.encode .binary) world with ⟨fault | _, world'⟩
  · rw [saved] at done
    cases done
  · simp only [saved]
    exact ⟨world', rfl⟩

/-- Over a store whose saves do not fail, what is given back can be written. -/
theorem Deal.saves_of_store {session : Session σ}
    (saves : ∀ key bytes world, (session.pool.store.save key bytes world).1 = .ok ())
    (deal : Deal σ) : deal.Saves session := by
  cases deal with
  | ask request =>
    cases request with
    | release place =>
      intro guard key held keyed
      have rekeys := session.pool.rekeys guard
      rw [keyed] at rekeys
      obtain ⟨machine, loaded, -⟩ := rekeys.loaded
      obtain ⟨world', written⟩ := Pool.persist_ok saves loaded key session.world
      rw [written]
    | _ => trivial
  | _ => trivial

/-- **A deal that leaves the store to the pool keeps slots and guards in order.** -/
theorem Session.Orderly.deal [Clocked σ] {session : Session σ}
    (orderly : session.Orderly kept store) (keeps : store.Keeps kept) {deal : Deal σ}
    (spares : deal.Spares kept session) : (deal.perform session).Orderly kept store := by
  cases deal with
  | ask request => exact orderly.perform keeps spares
  | handle place change =>
    obtain ⟨handling, spares, rfl⟩ := spares
    show (session.handled place handling.perform).Orderly kept store
    unfold handled
    cases held : session.guards[place]? with
    | none => exact orderly
    | some guard =>
      have tied := orderly.tied guard (List.mem_of_getElem? held)
      exact orderly.hold held (Handling.perform_tied spares tied session.world) _
  | disturb change =>
    exact ⟨orderly.shared, orderly.lent, orderly.once, orderly.apart, orderly.fits, orderly.tied⟩

/-! ### Slots whose machines are kept -/

namespace Slot

/-- Whether the runner is there and the slot has a key. -/
def isResident (slot : Slot σ) : Bool := slot.runner.isSome && slot.key.isSome

/-- The machine of an idle slot is kept under the key of the slot. -/
def Saved (slot : Slot σ) (dumps : MachineKey → Option Bytes) : Prop :=
  ∀ runner key, slot.runner = some runner → slot.key = some key →
    ∃ machine, runner.machine = some machine ∧ dumps key = some (machine.encode .binary)

variable {slot : Slot σ} {slots : List (Slot σ)} {dumps : MachineKey → Option Bytes}
  {key : MachineKey} {runner : Runner σ} {machine : Machine}

theorem saved_of_away (away : slot.runner = none) : slot.Saved dumps := by
  intro runner key there _
  cases away.symm.trans there

theorem saved_of_bare (bare : slot.key = none) : slot.Saved dumps := by
  intro runner key _ keyed
  cases bare.symm.trans keyed

theorem saved_of_eq (there : slot.runner = some runner) (keyed : slot.key = some key)
    (loaded : runner.machine = some machine) (known : dumps key = some (machine.encode .binary)) :
    slot.Saved dumps := by
  intro runner' key' there' keyed'
  cases there.symm.trans there'
  cases keyed.symm.trans keyed'
  exact ⟨machine, loaded, known⟩

/-- What is kept under other keys is no matter. -/
theorem Saved.congr (saved : slot.Saved dumps) {dumps' : MachineKey → Option Bytes}
    (same : ∀ key, slot.key = some key → dumps' key = dumps key) : slot.Saved dumps' := by
  intro runner key there keyed
  obtain ⟨machine, loaded, known⟩ := saved runner key there keyed
  exact ⟨machine, loaded, (same key keyed).trans known⟩

theorem Saved.update (saved : slot.Saved dumps) (differ : slot.key ≠ some key)
    (bytes : Option Bytes) : slot.Saved (Function.update dumps key bytes) := by
  refine saved.congr fun other keyed => Function.update_of_ne (fun same => differ ?_) _ _
  rw [keyed, same]

/-- Once the machine of an idle slot is written under its key, it is kept like those of the other
slots. -/
theorem Apart.saved (apart : Apart slots) (stands : slot ∈ slots)
    (there : slot.runner = some runner) (keyed : slot.key = some key)
    (loaded : runner.machine = some machine)
    (others : ∀ other ∈ slots, other.key ≠ some key → other.Saved dumps) :
    ∀ other ∈ slots,
      other.Saved (Function.update dumps key (some (machine.encode .binary))) := by
  intro other member
  by_cases same : other.key = some key
  · obtain ⟨position, found⟩ := List.mem_iff_getElem?.1 stands
    obtain ⟨place, found'⟩ := List.mem_iff_getElem?.1 member
    have here := apart position place slot other key found found' keyed same
    rw [here] at found
    cases found.symm.trans found'
    exact saved_of_eq there keyed loaded (Function.update_self ..)
  · exact (others other member same).update same _

end Slot

/-! ### Machines that stay kept -/

/-- **The machines of idle runners are kept as they are.** -/
def Session.Durable (kept : σ → MachineKey → Option Bytes) (session : Session σ) : Prop :=
  ∀ slot ∈ session.pool.slots, slot.Saved (kept session.world)

namespace Session.Durable

variable {session next : Session σ}

theorem of_eq (durable : session.Durable kept) (slots : next.pool.slots = session.pool.slots)
    (same : kept next.world = kept session.world) : next.Durable kept := by
  unfold Durable
  rw [slots, same]
  exact durable

/-- **A move after which all guards are still out leaves the machines kept.** -/
theorem advance (durable : session.Durable kept) (apart : Slot.Apart session.pool.slots)
    (advance : session.Advance kept next) : next.Durable kept := by
  obtain ⟨move, stay⟩ := advance
  have of_set : ∀ {position : Nat} {slot' : Slot σ}, slot'.runner = none ∨ slot'.key = none →
      ∀ slot ∈ session.pool.slots.set position slot', slot.Saved (kept session.world) := by
    intro position slot' gone slot member
    rcases List.mem_or_eq_of_mem_set member with old | rfl
    · exact durable slot old
    · exact gone.elim Slot.saved_of_away Slot.saved_of_bare
  cases move with
  | waits same => exact durable.of_eq rfl same
  | writes stands there keyed loaded saved =>
    unfold Durable
    rw [saved]
    exact apart.saved stands there keyed loaded fun other member _ => durable other member
  | empties _ _ _ => exact of_set (.inr rfl)
  | lends _ _ _ => exact of_set (.inl rfl)
  | loads _ _ _ _ _ _ => exact of_set (.inl rfl)
  | returns held => exact absurd stay (guards_not_kept_takeBack held)

theorem advances (durable : session.Durable kept) (orderly : session.Orderly kept store)
    (advances : session.Advances kept next) : next.Durable kept := by
  induction advances with
  | refl => exact durable
  | tail before last ih => exact ih.advance (orderly.moves (Advances.moves before)).apart last

/-- **What is written under the keys of guards leaves the machines kept**, as no idle slot has such
a key. -/
theorem lent (durable : session.Durable kept) (orderly : session.Orderly kept store) {world : σ}
    (same : ∀ key, (∀ guard ∈ session.guards, guard.key ≠ some key) →
      kept world key = kept session.world key) :
    ∀ slot ∈ session.pool.slots, slot.Saved (kept world) := by
  intro slot member
  cases there : slot.runner with
  | none => exact Slot.saved_of_away there
  | some runner =>
    refine (durable slot member).congr fun key keyed => same key fun guard among keyed' => ?_
    have out : guard.StandsIn session.pool.slots := orderly.lent guard among
    obtain ⟨slot', stands, -, same'⟩ := orderly.lent guard among
    obtain ⟨place, found⟩ := List.mem_iff_getElem?.1 member
    have here := orderly.apart guard.slot place slot' slot key stands found (same'.trans keyed')
      keyed
    exact out.slot_ne found there here

/-- **A guard that is given back leaves the machines kept**, if its own is written. -/
theorem giveBack (durable : session.Durable kept) (orderly : session.Orderly kept store)
    (keeps : store.Keeps kept) (flushes : session.pool.options.flushOnRelease = true) {place : Nat}
    {guard : Guard σ} (held : session.guards[place]? = some guard)
    (saves : ∀ key, (session.pool.rekey guard).1 = some key →
      (session.pool.persist key (session.pool.rekey guard).2 session.world).1 = .ok ()) :
    (session.giveBack place guard).Durable kept := by
  have seated := orderly.seated guard (List.mem_of_getElem? held)
  have rekeys := session.pool.rekeys guard
  have apart : Slot.Apart (session.pool.slots.set guard.slot (session.pool.returned guard)) :=
    (orderly.takeBack held).apart
  show ∀ slot ∈ session.pool.slots.set guard.slot (session.pool.returned guard),
    slot.Saved (kept (session.pool.persistReleased (session.pool.rekey guard).1
      (session.pool.rekey guard).2 session.world))
  unfold Pool.persistReleased
  cases keyed : (session.pool.rekey guard).1 with
  | none =>
    intro slot member
    rcases List.mem_or_eq_of_mem_set member with old | rfl
    · exact durable slot old
    · exact Slot.saved_of_bare keyed
  | some key =>
    rw [keyed] at rekeys
    obtain ⟨machine, loaded, -⟩ := rekeys.loaded
    dsimp only
    rw [if_pos flushes]
    rcases Pool.persist_cases (orderly.shared ▸ keeps) loaded key session.world with
      ⟨world, done, saved⟩ | ⟨error, world, refused, -⟩
    · rw [done, saved]
      refine apart.saved (List.mem_set seated _) rfl keyed loaded fun other member differ => ?_
      rcases List.mem_or_eq_of_mem_set member with old | rfl
      · exact durable other old
      · exact absurd keyed differ
    · have done := saves key keyed
      rw [refused] at done
      cases done

variable [Clocked σ]

/-- **A deal leaves the machines kept**, if what is given back in it is written. -/
theorem perform (durable : session.Durable kept) (orderly : session.Orderly kept store)
    (keeps : store.Keeps kept) (clock : Clocked.Spares kept)
    (flushes : session.pool.options.flushOnRelease = true) {deal : Deal σ}
    (spares : deal.Spares kept session) (saves : deal.Saves session) :
    (deal.perform session).Durable kept := by
  cases deal with
  | disturb change => exact durable.lent orderly spares
  | handle place change =>
    obtain ⟨handling, -, rfl⟩ := spares
    show (session.handled place handling.perform).Durable kept
    unfold handled
    cases session.guards[place]? with
    | none => exact durable
    | some guard => cases handling <;> exact durable.of_eq rfl rfl
  | ask request =>
    cases request with
    | acquire _ | acquireCurrent _ | acquireForEviction _ | acquireFree | flushAll =>
      exact durable.advances orderly (Request.advances (orderly.shared ▸ keeps) trivial)
    | registerChart template => exact durable.of_eq rfl rfl
    | release place =>
      show (Request.perform (.release place) session).2.Durable kept
      cases held : session.guards[place]? with
      | none =>
        rw [Request.perform_release_of_none held]
        exact durable
      | some guard =>
        rw [Request.perform_release held]
        exact durable.giveBack orderly keeps flushes held fun key => saves guard key held
    | operate place operation =>
      show (Request.perform (.operate place operation) session).2.Durable kept
      cases held : session.guards[place]? with
      | none =>
        rw [Request.perform_operate_of_none held]
        exact durable
      | some guard =>
        have member := List.mem_of_getElem? held
        rw [Request.perform_operate held]
        refine durable.lent orderly fun key free => ?_
        rcases operation.perform_writes keeps clock (orderly.tied guard member) session.world with
          same | ⟨target, told, under, -, saved⟩
        · exact congrFun same key
        · have differ : key ≠ target := fun same => free guard member (same ▸ under)
          exact (congrFun saved key).trans (Function.update_of_ne differ _ _)

/-- **Deals leave the machines kept**, if all that is given back in them is written. -/
theorem dealt {options : PoolOptions} {made : List (Runner σ)} (durable : session.Durable kept)
    (orderly : session.Orderly kept store) (keeps : store.Keeps kept) (clock : Clocked.Spares kept)
    (tabled : Tabled options made session.pool session.guards)
    (flushes : options.flushOnRelease = true) {deals : List (Deal σ)}
    (spares : ∀ before deal, before ++ [deal] <+: deals →
      deal.Spares kept (session.dealt before))
    (saves : ∀ before deal, before ++ [deal] <+: deals → deal.Saves (session.dealt before)) :
    (session.dealt deals).Durable kept := by
  -- That a deal leaves the machines kept rests on the order of the slots, which it keeps too.
  have whole := Session.dealt_keeps
    (P := fun session => session.Durable kept ∧ session.Orderly kept store ∧
      Tabled options made session.pool session.guards)
    (Q := fun session deal => deal.Spares kept session ∧ deal.Saves session)
    (fun session deal ⟨durable, orderly, tabled⟩ ⟨spares, saves⟩ =>
      ⟨durable.perform orderly keeps clock (tabled.configured ▸ flushes) spares saves,
        orderly.deal keeps spares, tabled_perform tabled deal⟩)
    ⟨durable, orderly, tabled⟩
    (fun before deal early => ⟨spares before deal early, saves before deal early⟩)
  exact whole.1

end Session.Durable

/-- Deals that leave the store to the pool keep slots and guards in order. -/
theorem Session.Orderly.dealt [Clocked σ] {session : Session σ}
    (orderly : session.Orderly kept store) (keeps : store.Keeps kept) {deals : List (Deal σ)}
    (spares : ∀ before deal, before ++ [deal] <+: deals →
      deal.Spares kept (session.dealt before)) : (session.dealt deals).Orderly kept store :=
  Session.dealt_keeps (fun _ _ orderly spares => orderly.deal keeps spares) orderly spares

/-- Over a store whose saves do not fail, all that is given back can be written. -/
theorem Session.saves_dealt [Clocked σ] {options : PoolOptions} {made : List (Runner σ)}
    {session : Session σ} (tabled : Tabled options made session.pool session.guards)
    (keeps : session.pool.store.Keeps kept)
    (saves : ∀ key bytes world, (session.pool.store.save key bytes world).1 = .ok ())
    (before : List (Deal σ)) (deal : Deal σ) : deal.Saves (session.dealt before) :=
  deal.saves_of_store (store_dealt tabled keeps before ▸ saves)

/-! ### Machines that are written at once -/

namespace Pool

variable {pool : Pool σ} {slot : Slot σ} {slots : List (Slot σ)}

/-- The machine of a slot that was written is kept, if the slot is idle and has one, and what is
kept under other keys stays. -/
theorem persistSlot_saves (keeps : pool.store.Keeps kept) (fits : slot.Fits kept store)
    {done : Bool} {world world' : σ} (left : pool.persistSlot slot world = (.ok done, world')) :
    done = slot.isResident ∧ slot.Saved (kept world') ∧
      ∀ key, slot.key ≠ some key → kept world' key = kept world key := by
  unfold Slot.isResident
  rcases persistSlot_cases keeps slot world with ⟨quiet, unloaded⟩ |
    ⟨key, runner, machine, there, keyed, loaded, ⟨world₁, written, saved⟩ |
      ⟨error, world₁, refused, -⟩⟩
  · cases quiet.symm.trans left
    have idle : ∀ runner key, slot.runner = some runner → slot.key ≠ some key := by
      intro runner key there keyed
      obtain ⟨machine, loaded, -⟩ := (fits runner there).2 key keyed
      have nothing := unloaded runner there (by rw [keyed]; exact Option.some_ne_none key)
      cases nothing.symm.trans loaded
    refine ⟨?_, fun runner key there keyed => absurd keyed (idle runner key there), fun _ _ => rfl⟩
    cases there : slot.runner with
    | none => rfl
    | some runner =>
      cases keyed : slot.key with
      | none => rfl
      | some key => exact absurd keyed (idle runner key there)
  · cases written.symm.trans left
    refine ⟨by rw [there, keyed]; rfl, ?_, fun other differ => ?_⟩
    · refine Slot.saved_of_eq there keyed loaded ?_
      rw [saved, Function.update_self]
    · have apart : other ≠ key := fun same => differ (same ▸ keyed)
      rw [saved, Function.update_of_ne apart]
  · cases refused.symm.trans left

/-- **Machines that are written one after the other are kept**, and they are counted. -/
theorem persistSlots_saves (keeps : pool.store.Keeps kept)
    (fits : ∀ slot ∈ slots, slot.Fits kept store)
    (apart : slots.Pairwise fun first second => ∀ key, first.key = some key →
      second.key ≠ some key) {count total : Nat} {world world' : σ}
    (left : pool.persistSlots slots count world = (.ok total, world')) :
    total = count + slots.countP Slot.isResident ∧ (∀ slot ∈ slots, slot.Saved (kept world')) ∧
      ∀ key, (∀ slot ∈ slots, slot.key ≠ some key) → kept world' key = kept world key := by
  induction slots generalizing count world with
  | nil =>
    cases left
    exact ⟨rfl, fun slot member => (nomatch member), fun _ _ => rfl⟩
  | cons slot slots ih =>
    obtain ⟨alone, apart⟩ := List.pairwise_cons.1 apart
    unfold persistSlots at left
    rcases first : pool.persistSlot slot world with ⟨error | done, world₁⟩
    · rw [first] at left
      cases left
    rw [first] at left
    obtain ⟨rfl, saved, frame⟩ := persistSlot_saves keeps (fits slot List.mem_cons_self) first
    obtain ⟨rfl, rest, frame'⟩ :=
      ih (fun other member => fits other (List.mem_cons_of_mem _ member)) apart left
    refine ⟨?_, List.forall_mem_cons.2 ⟨?_, rest⟩, fun key lacks => ?_⟩
    · rw [List.countP_cons]
      cases slot.isResident
      · rfl
      · exact (Nat.add_assoc count 1 _).trans (congrArg _ (Nat.add_comm 1 _))
    · exact saved.congr fun key keyed => frame' key fun other member => alone other member key keyed
    · obtain ⟨here, there⟩ := List.forall_mem_cons.1 lacks
      exact (frame' key there).trans (frame key here)

/-- **Writing fails only if a save fails.** -/
theorem persistSlot_ok (saves : ∀ key bytes world, (pool.store.save key bytes world).1 = .ok ())
    (slot : Slot σ) (world : σ) :
    ∃ done world', pool.persistSlot slot world = (.ok done, world') := by
  unfold persistSlot Slot.toWrite?
  cases slot.runner with
  | none => exact ⟨_, _, rfl⟩
  | some runner =>
    cases slot.key with
    | none => exact ⟨_, _, rfl⟩
    | some key =>
      rw [Option.bind_eq_bind, Option.bind_some, Option.bind_eq_bind, Option.bind_some]
      unfold Runner.isLoaded
      cases loaded : runner.machine with
      | none => exact ⟨_, _, rfl⟩
      | some machine =>
        obtain ⟨world', written⟩ := persist_ok saves loaded key world
        rw [Option.isSome_some, if_pos rfl]
        dsimp only
        rw [written]
        exact ⟨_, _, rfl⟩

theorem persistSlots_ok (saves : ∀ key bytes world, (pool.store.save key bytes world).1 = .ok ())
    (slots : List (Slot σ)) (count : Nat) (world : σ) :
    ∃ total world', pool.persistSlots slots count world = (.ok total, world') := by
  induction slots generalizing count world with
  | nil => exact ⟨_, _, rfl⟩
  | cons slot slots ih =>
    obtain ⟨done, world', written⟩ := persistSlot_ok saves slot world
    unfold persistSlots
    rw [written]
    exact ih _ _

end Pool

/-- **When a pool has written its machines at once, they are kept.** -/
theorem Session.Orderly.flushAll_saves {session : Session σ} (orderly : session.Orderly kept store)
    (keeps : store.Keeps kept) {total : Nat} {world : σ}
    (left : session.pool.flushAll session.world = (.ok total, world)) :
    total = session.pool.slots.countP Slot.isResident ∧
      ({ session with world } : Session σ).Durable kept := by
  have apart : session.pool.slots.Pairwise fun first second => ∀ key, first.key = some key →
      second.key ≠ some key := by
    refine List.pairwise_iff_getElem.2 fun first second inside inside' below key keyed keyed' => ?_
    have same := orderly.apart first second _ _ key (List.getElem?_eq_getElem inside)
      (List.getElem?_eq_getElem inside') keyed keyed'
    omega
  obtain ⟨counted, saved, -⟩ :=
    Pool.persistSlots_saves (orderly.shared ▸ keeps) orderly.fits apart left
  exact ⟨counted.trans (Nat.zero_add _), saved⟩

end Statechart
