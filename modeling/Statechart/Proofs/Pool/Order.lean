/-
**The slots of a pool in order.**

Whatever holders of guards do, the slots and the guards of a session stay in order: a guard stands
for one slot that lacks its runner, no key stands twice, an idle slot with a key holds the machine
of that key, and the flush hook of every runner writes under the key of its slot or guard, or not to
the store at all.

* `Session.Orderly`: slots and guards are in order.
* `Session.Orderly.move`: every move keeps them in order.
* `Session.Orderly.run`: every run of requests does.
-/

import Statechart.Proofs.Pool.Lending
import Statechart.Proofs.Pool.Sparing

namespace Statechart

variable {σ : Type} {kept : σ → MachineKey → Option Bytes} {store : MachineStore σ}

/-! ### Slots -/

/-- No two slots have one key. -/
def Slot.Apart (slots : List (Slot σ)) : Prop :=
  ∀ (first second : Nat) (slot slot' : Slot σ) (key : MachineKey), slots[first]? = some slot →
    slots[second]? = some slot' → slot.key = some key → slot'.key = some key → first = second

/-- A slot whose runner, if it is there, is tied to the key and holds the machine of the key. -/
def Slot.Fits (kept : σ → MachineKey → Option Bytes) (store : MachineStore σ) (slot : Slot σ) :
    Prop :=
  ∀ runner, slot.runner = some runner → runner.Tied kept store slot.key ∧
    ∀ key, slot.key = some key → ∃ machine, runner.machine = some machine ∧ machine.key? = some key

/-- A slot that changes keeps the keys apart if it keeps its key, or has one that no other has. -/
theorem Slot.Apart.set {slots : List (Slot σ)} (apart : Apart slots) {position : Nat}
    {slot slot' : Slot σ} (stands : slots[position]? = some slot)
    (fresh : ∀ key, slot'.key = some key → slot.key = some key ∨
      ∀ other slot'', other ≠ position → slots[other]? = some slot'' → slot''.key ≠ some key) :
    Apart (slots.set position slot') := by
  have alone : ∀ {other : Nat} {slot'' : Slot σ} {key : MachineKey}, other ≠ position →
      slots[other]? = some slot'' → slot''.key = some key → slot'.key ≠ some key := by
    intro other slot'' key differ there keyed keyed'
    rcases fresh key keyed' with same | lacks
    · exact differ (apart other position slot'' slot key there stands keyed same)
    · exact lacks other slot'' differ there keyed
  have before : ∀ {place : Nat} {slot'' : Slot σ}, place ≠ position →
      (slots.set position slot')[place]? = some slot'' → slots[place]? = some slot'' := by
    intro place slot'' differ there
    rwa [List.getElem?_set_ne (Ne.symm differ)] at there
  have new : ∀ {slot'' : Slot σ}, (slots.set position slot')[position]? = some slot'' →
      slot'' = slot' := by
    intro slot'' there
    rw [List.getElem?_set_self (List.getElem?_eq_some_iff.1 stands).1] at there
    exact (Option.some.inj there).symm
  intro first second one two key there there' keyed keyed'
  by_cases here : first = position
  · by_cases here' : second = position
    · rw [here, here']
    · subst here
      rw [new there] at keyed
      exact absurd keyed (alone here' (before here' there') keyed')
  · by_cases here' : second = position
    · subst here'
      rw [new there'] at keyed'
      exact absurd keyed' (alone here (before here there) keyed)
    · exact apart first second one two key (before here there) (before here' there') keyed keyed'

/-- Keys that are resident nowhere else stand in no other slot. -/
theorem Slot.Apart.lacks_elsewhere {pool : Pool σ} (apart : Slot.Apart pool.slots)
    {position : Nat} {key : MachineKey} (here : pool.isElsewhere key position = false) (other : Nat)
    (slot : Slot σ) (differ : other ≠ position) (stands : pool.slots[other]? = some slot) :
    slot.key ≠ some key := by
  intro keyed
  obtain ⟨found, resident⟩ := Pool.exists_residentAt? stands keyed
  unfold Pool.isElsewhere at here
  rw [resident, Option.any_some, decide_eq_false_iff_not, not_not] at here
  obtain ⟨slot', stands', keyed'⟩ := Pool.of_residentAt? resident
  have same := apart other found slot slot' key stands stands' keyed keyed'
  exact differ (same.trans here)

/-! ### Guards -/

namespace Guard

/-- A guard stands for a slot that lacks its runner and has its key. -/
def StandsIn (guard : Guard σ) (slots : List (Slot σ)) : Prop :=
  ∃ slot, slots[guard.slot]? = some slot ∧ slot.runner = none ∧ slot.key = guard.key

variable {guard other : Guard σ} {guards : List (Guard σ)} {slots : List (Slot σ)} {position : Nat}

/-- A guard does not stand for a slot whose runner is there. -/
theorem StandsIn.slot_ne (stands : guard.StandsIn slots) {slot : Slot σ} {runner : Runner σ}
    (there : slots[position]? = some slot) (idle : slot.runner = some runner) :
    guard.slot ≠ position := by
  rintro rfl
  obtain ⟨slot', there', away, -⟩ := stands
  cases there.symm.trans there'
  cases idle.symm.trans away

/-- A guard stands for its slot whatever becomes of another one. -/
theorem StandsIn.set (stands : guard.StandsIn slots) (differ : guard.slot ≠ position)
    (slot : Slot σ) : guard.StandsIn (slots.set position slot) := by
  unfold StandsIn
  rw [List.getElem?_set_ne (Ne.symm differ)]
  exact stands

/-- Guards at two places stand for two slots. -/
theorem place_eq (once : (guards.map Guard.slot).Nodup) {first second : Nat}
    (held : guards[first]? = some guard) (held' : guards[second]? = some other)
    (same : guard.slot = other.slot) : first = second := by
  have inside : first < (guards.map Guard.slot).length := by
    rw [List.length_map]
    exact (List.getElem?_eq_some_iff.1 held).1
  refine (List.getElem?_inj inside once).1 ?_
  rw [List.getElem?_map, List.getElem?_map, held, held', Option.map_some, Option.map_some, same]

/-- The guards that stay stand for other slots than the one that is given back. -/
theorem slot_ne_of_mem_eraseIdx (once : (guards.map Guard.slot).Nodup) {place : Nat}
    (held : guards[place]? = some guard) (stays : other ∈ guards.eraseIdx place) :
    other.slot ≠ guard.slot := by
  intro same
  obtain ⟨index, differ, held'⟩ := List.mem_eraseIdx_iff_getElem?.1 stays
  exact differ (place_eq once held' held same)

/-- A guard that is lent stands for another slot than those that were lent before. -/
theorem nodup_lend (once : (guards.map Guard.slot).Nodup)
    (differ : ∀ other ∈ guards, other.slot ≠ guard.slot) :
    ((guards ++ [guard]).map Guard.slot).Nodup := by
  rw [List.map_append, List.nodup_append]
  refine ⟨once, by simp, ?_⟩
  rintro place among place' new rfl
  obtain ⟨other, member, same⟩ := List.mem_map.1 among
  exact differ other member (same.trans (List.mem_singleton.1 new))

/-- The use of a guard leaves the slots of the guards as they are. -/
theorem map_slot_set {place : Nat} (held : guards[place]? = some guard) (runner : Runner σ) :
    (guards.set place { guard with runner }).map Guard.slot = guards.map Guard.slot := by
  refine List.ext_getElem? fun index => ?_
  rw [List.map_set, List.getElem?_set]
  split
  · next here =>
    subst here
    rw [List.getElem?_map, held]
    simp [(List.getElem?_eq_some_iff.1 held).1]
  · rfl

end Guard

/-! ### Sessions in order -/

/-- **The slots and the guards of a session are in order.** -/
structure Session.Orderly (kept : σ → MachineKey → Option Bytes) (store : MachineStore σ)
    (session : Session σ) : Prop where
  shared : session.pool.store = store
  /-- A guard stands for a slot that lacks its runner. -/
  lent : ∀ guard ∈ session.guards, ∃ slot, session.pool.slots[guard.slot]? = some slot ∧
    slot.runner = none ∧ slot.key = guard.key
  /-- No two guards stand for one slot. -/
  once : (session.guards.map Guard.slot).Nodup
  apart : Slot.Apart session.pool.slots
  fits : ∀ slot ∈ session.pool.slots, slot.Fits kept store
  tied : ∀ guard ∈ session.guards, guard.runner.Tied kept store guard.key

namespace Session.Orderly

variable {session next : Session σ} {position : Nat} {slot : Slot σ} {runner : Runner σ}

theorem seated (orderly : session.Orderly kept store) :
    ∀ guard ∈ session.guards, guard.slot < session.pool.slots.length := by
  intro guard member
  obtain ⟨slot, stands, -⟩ := orderly.lent guard member
  exact (List.getElem?_eq_some_iff.1 stands).1

/-- An idle slot may change if it fits. -/
theorem withSlot (orderly : session.Orderly kept store)
    (stands : session.pool.slots[position]? = some slot) (there : slot.runner = some runner)
    {slot' : Slot σ} (fits : slot'.Fits kept store)
    (fresh : ∀ key, slot'.key = some key → slot.key = some key ∨
      ∀ other slot'', other ≠ position → session.pool.slots[other]? = some slot'' →
        slot''.key ≠ some key) (clock : Nat) :
    ({ session with pool := { session.pool.withSlot position slot' with clock } } :
      Session σ).Orderly kept store := by
  refine ⟨orderly.shared, fun guard member => ?_, orderly.once,
    Slot.Apart.set orderly.apart stands fresh, fun slot'' member => ?_, orderly.tied⟩
  · have lent : guard.StandsIn session.pool.slots := orderly.lent guard member
    exact lent.set (lent.slot_ne stands there) slot'
  · rcases List.mem_or_eq_of_mem_set member with old | rfl
    · exact orderly.fits slot'' old
    · exact fits

/-- An idle runner may be lent with a runner and a key that are tied. -/
theorem lend (orderly : session.Orderly kept store)
    (stands : session.pool.slots[position]? = some slot) (there : slot.runner = some runner)
    {key : Option MachineKey} {runner' : Runner σ} (tied : runner'.Tied kept store key)
    (fresh : ∀ key', key = some key' → slot.key = some key' ∨
      ∀ other slot'', other ≠ position → session.pool.slots[other]? = some slot'' →
        slot''.key ≠ some key') :
    ({ session with
      pool := session.pool.lent position { slot with key }
      guards := session.guards ++ [⟨position, key, runner'⟩] } : Session σ).Orderly kept store := by
  obtain ⟨shared, lent, once, apart, fits, tied'⟩ :=
    orderly.withSlot stands there
      (show Slot.Fits kept store
          { slot with runner := none, key, lastUsed := session.pool.clock + 1 } from
        fun _ away => nomatch away)
      fresh (session.pool.clock + 1)
  refine ⟨shared, ?_, ?_, apart, fits, ?_⟩
  · intro guard member
    rcases List.mem_append.1 member with old | new
    · exact lent guard old
    · rw [List.mem_singleton.1 new]
      exact ⟨_, List.getElem?_set_self (List.getElem?_eq_some_iff.1 stands).1, rfl, rfl⟩
  · refine Guard.nodup_lend once fun other member => ?_
    have lent : other.StandsIn session.pool.slots := orderly.lent other member
    exact lent.slot_ne stands there
  · intro guard member
    rcases List.mem_append.1 member with old | new
    · exact tied' guard old
    · rw [List.mem_singleton.1 new]
      exact tied

end Session.Orderly

/-! ### Moves -/

namespace Runner.Tied

variable {runner : Runner σ} {entry : Option MachineKey}

/-- A runner without a hook is tied to any key, whatever machine it holds. -/
theorem free (tied : runner.Tied kept store entry) (silent : runner.flushHook = none)
    (machine : Option Machine) (entry' : Option MachineKey) :
    ({ runner with machine } : Runner σ).Tied kept store entry' := by
  refine ⟨tied.resolver, tied.overrides, fun hook set => ?_⟩
  cases silent.symm.trans set

/-- A runner that loses its hook is tied to any key. -/
theorem bare (tied : runner.Tied kept store entry) (machine : Option Machine)
    (entry' : Option MachineKey) :
    ({ runner with flushHook := none, machine } : Runner σ).Tied kept store entry' :=
  ⟨tied.resolver, tied.overrides, fun _ set => nomatch set⟩

/-- A runner whose hook is that of a pool is tied to the key of the hook. -/
theorem withAutosave (tied : runner.Tied kept store entry) (silent : runner.flushHook = none)
    {pool : Pool σ} (shared : pool.store = store) (key : MachineKey) :
    (pool.withAutosave key runner).Tied kept store (some key) := by
  unfold Pool.withAutosave
  split
  · refine ⟨tied.resolver, tied.overrides, fun hook set => ?_⟩
    cases set
    rw [shared]
    exact .inr ⟨key, rfl, rfl⟩
  · exact tied.free silent runner.machine _

end Runner.Tied

/-- The slot to which a runner comes back fits. -/
theorem Pool.Rekeys.fits {pool : Pool σ} {guard : Guard σ} {key : Option MachineKey}
    {runner : Runner σ} (rekeys : pool.Rekeys guard key runner)
    (tied : guard.runner.Tied kept store guard.key) (shared : pool.store = store)
    (lastUsed : Nat) : ({ runner := some runner, key, lastUsed } : Slot σ).Fits kept store := by
  intro runner' same
  cases same
  refine ⟨?_, fun key' keyed => ?_⟩
  · cases rekeys with
    | same _ => exact tied
    | ownerless _ => exact tied.bare guard.runner.machine none
    | discarded _ _ => exact tied.bare none none
    | moved _ _ => exact (tied.bare guard.runner.machine none).withAutosave rfl shared _
  · change key = some key' at keyed
    subst keyed
    exact rekeys.loaded

namespace Session.Orderly

variable {session next : Session σ}

/-- A guard that is given back leaves the others in order. -/
theorem takeBack (orderly : session.Orderly kept store) {place : Nat} {guard : Guard σ}
    (held : session.guards[place]? = some guard) :
    (session.takeBack place guard).Orderly kept store := by
  have member := List.mem_of_getElem? held
  obtain ⟨slot, stands, away, keyed⟩ := orderly.lent guard member
  have rekeys := session.pool.rekeys guard
  have fits : (session.pool.returned guard).Fits kept store :=
    rekeys.fits (orderly.tied guard member) orderly.shared _
  refine ⟨orderly.shared, ?_, ?_, ?_, ?_, ?_⟩
  · intro other stays
    have lent : other.StandsIn session.pool.slots :=
      orderly.lent other (List.mem_of_mem_eraseIdx stays)
    exact lent.set (Guard.slot_ne_of_mem_eraseIdx orderly.once held stays) _
  · exact orderly.once.sublist ((List.eraseIdx_sublist _ _).map _)
  · refine Slot.Apart.set orderly.apart stands fun key keyed' => ?_
    change (session.pool.rekey guard).1 = some key at keyed'
    rw [keyed'] at rekeys
    rcases rekeys.fresh with same | here
    · exact .inl (keyed.trans same)
    · exact .inr (orderly.apart.lacks_elsewhere here)
  · intro slot' among
    rcases List.mem_or_eq_of_mem_set among with old | rfl
    · exact orderly.fits slot' old
    · exact fits
  · exact fun other stays => orderly.tied other (List.mem_of_mem_eraseIdx stays)

/-- **Every move keeps slots and guards in order.** -/
theorem move (orderly : session.Orderly kept store) (move : session.Move kept next) :
    next.Orderly kept store := by
  cases move with
  | waits same =>
    exact ⟨orderly.shared, orderly.lent, orderly.once, orderly.apart, orderly.fits, orderly.tied⟩
  | writes _ _ _ _ _ =>
    exact ⟨orderly.shared, orderly.lent, orderly.once, orderly.apart, orderly.fits, orderly.tied⟩
  | empties stands there written =>
    have tied := (orderly.fits _ (List.mem_of_getElem? stands) _ there).1
    refine orderly.withSlot stands there ?_ ?_ session.pool.clock
    · intro runner same
      cases same
      refine ⟨tied.bare none none, fun key keyed => ?_⟩
      cases keyed
    · intro key keyed
      cases keyed
  | lends stands there _ =>
    have tied := (orderly.fits _ (List.mem_of_getElem? stands) _ there).1
    exact orderly.lend stands there tied fun key keyed => .inl keyed
  | @loads _ slot runner key machine stands there bare silent absent fetched =>
    have tied := (orderly.fits _ (List.mem_of_getElem? stands) _ there).1
    refine orderly.lend stands there ?_ fun key keyed => .inr fun other slot'' _ stands' => ?_
    · exact (tied.free silent (some machine) none).withAutosave silent orderly.shared key
    · cases keyed
      exact absent slot'' (List.mem_of_getElem? stands')
  | returns held => exact orderly.takeBack held

theorem moves (orderly : session.Orderly kept store) (moves : session.Moves kept next) :
    next.Orderly kept store := by
  induction moves with
  | refl => exact orderly
  | tail _ last ih => exact ih.move last

/-- The runner of a guard may become any that is tied. -/
theorem hold (orderly : session.Orderly kept store) {place : Nat} {guard : Guard σ}
    (held : session.guards[place]? = some guard) {runner : Runner σ}
    (tied : runner.Tied kept store guard.key) (world : σ) :
    ({ session with guards := session.guards.set place { guard with runner }, world } :
      Session σ).Orderly kept store := by
  have slots : (session.guards.set place { guard with runner }).map Guard.slot =
      session.guards.map Guard.slot := Guard.map_slot_set held _
  have member := List.mem_of_getElem? held
  refine ⟨orderly.shared, fun other among => ?_, slots ▸ orderly.once, orderly.apart,
    orderly.fits, fun other among => ?_⟩
  · rcases List.mem_or_eq_of_mem_set among with old | rfl
    · exact orderly.lent other old
    · exact orderly.lent guard member
  · rcases List.mem_or_eq_of_mem_set among with old | rfl
    · exact orderly.tied other old
    · exact tied

/-- The use of a guard keeps slots and guards in order. -/
theorem use [Clocked σ] (orderly : session.Orderly kept store) {place : Nat} {guard : Guard σ}
    (held : session.guards[place]? = some guard) {operation : Operation σ}
    (spares : operation.Spares kept) : (session.use place guard operation).Orderly kept store :=
  have tied := orderly.tied guard (List.mem_of_getElem? held)
  orderly.hold held (Operation.perform_tied spares tied _) _

end Session.Orderly

/-! ### Runs -/

/-- What is assumed of the world of a pool: the store keeps what is saved, and clock, callables and
hooks that the runners start with leave alone what is kept. -/
structure Setting [Clocked σ] (kept : σ → MachineKey → Option Bytes) (store : MachineStore σ)
    (runners : List (Runner σ)) : Prop where
  keeps : store.Keeps kept
  clock : Clocked.Spares kept
  runners : ∀ runner ∈ runners, runner.Tied kept store none

/-- A request that brings no callables but such as leave alone what is kept. -/
def Request.Spares (kept : σ → MachineKey → Option Bytes) : Request σ → Prop
  | operate _ operation => operation.Spares kept
  | _ => True

namespace Session

variable [Clocked σ] {runners : List (Runner σ)} {session : Session σ}

/-- A session is in order before the first request. -/
theorem orderly_opened (setting : Setting kept store runners) (options : PoolOptions) (world : σ) :
    (opened options store runners world).Orderly kept store := by
  have new : ∀ slot ∈ (opened options store runners world).pool.slots,
      slot.key = none ∧ ∃ runner ∈ runners, slot.runner = some runner := by
    intro slot member
    obtain ⟨runner, among, rfl⟩ := List.mem_map.1 member
    exact ⟨rfl, runner, among, rfl⟩
  refine ⟨rfl, fun guard member => (nomatch member), List.nodup_nil, ?_, ?_,
    fun guard member => (nomatch member)⟩
  · intro first second slot slot' key stands _ keyed _
    rw [(new slot (List.mem_of_getElem? stands)).1] at keyed
    cases keyed
  · intro slot member runner there
    obtain ⟨bare, runner', among, there'⟩ := new slot member
    cases there.symm.trans there'
    rw [bare]
    exact ⟨setting.runners runner among, fun key keyed => nomatch keyed⟩

theorem Orderly.does (orderly : session.Orderly kept store) (keeps : store.Keeps kept)
    (request : Request σ) : session.Does kept request (request.perform session).2 :=
  request.does (orderly.shared ▸ keeps) orderly.seated

/-- **Every request keeps slots and guards in order.** -/
theorem Orderly.perform (orderly : session.Orderly kept store) (keeps : store.Keeps kept)
    {request : Request σ} (spares : request.Spares kept) :
    (request.perform session).2.Orderly kept store := by
  have does := orderly.does keeps request
  generalize (request.perform session).2 = next at does
  cases does with
  | moves moves => exact orderly.moves moves
  | registers template =>
    exact ⟨orderly.shared, orderly.lent, orderly.once, orderly.apart, orderly.fits, orderly.tied⟩
  | uses held operation => exact orderly.use held spares

/-- **Every run of requests keeps slots and guards in order.** -/
theorem Orderly.run (orderly : session.Orderly kept store) (keeps : store.Keeps kept)
    {requests : List (Request σ)} (spares : ∀ request ∈ requests, request.Spares kept) :
    (session.run requests).Orderly kept store := by
  induction requests generalizing session with
  | nil => exact orderly
  | cons request requests ih =>
    exact ih (orderly.perform keeps (spares request List.mem_cons_self))
      fun other member => spares other (List.mem_cons_of_mem _ member)

end Session

/-! ### A pool in memory -/

/-- A world without time. -/
instance : Clocked Memory where
  now memory := (0, memory)

/-- Runners without callables can share a store in memory. -/
theorem setting_memory : Setting (fun memory key => memory.get? key) Memory.store
    [{ resolver := .none }] where
  keeps := Memory.keeps
  clock _ := rfl
  runners runner member := by
    rw [List.mem_singleton.1 member]
    exact ⟨Resolver.spares_none, Overrides.spares_empty, fun hook set => nomatch set⟩

/-- A door and its owner. -/
def ownDoor : MachineKey := ⟨"ann", ""⟩

end Statechart
