/-
**Machines that are found again.**

A pool that is opened over what another one kept lends each machine as its dump gives it, until the
machine is given back there for the first time. It lends it as soon as a runner is idle that can
hold it, if the store does not fail.

* `Pool.acquire_ok`: a machine that is not resident is lent.
* `Session.Restores`: whatever pool is opened next, a machine is found again.
* `Session.durable_dealt`: after any deals around a pool, what is kept restores its machines.
-/

import Statechart.Proofs.Pool.Durability
import Statechart.Proofs.Runner.Resuming

namespace Statechart

open Json Text

variable {σ : Type} {kept : σ → MachineKey → Option Bytes} {store : MachineStore σ}

/-! ### Machines that are lent -/

namespace Pool

variable {pool : Pool σ} {position : Nat} {slot : Slot σ} {runner : Runner σ} {key : MachineKey}
  {machine : Machine} {world : σ}

/-- If a runner is idle, there is one to take for a machine that is not resident. -/
theorem exists_evictionCandidate? (absent : pool.Lacks key) (member : slot ∈ pool.slots)
    (there : slot.runner = some runner) :
    ∃ position, pool.evictionCandidate? key = some position := by
  obtain ⟨place, stands⟩ := List.mem_iff_getElem?.1 member
  have among := mem_candidates absent stands there
  unfold evictionCandidate?
  dsimp only
  split
  · exact ⟨_, rfl⟩
  · cases listed : pool.candidates key with
    | nil =>
      rw [listed] at among
      cases among
    | cons first rest => exact ⟨_, rfl⟩

/-- What is kept under a key is fetched if it is the dump of a machine of the key. -/
theorem fetch_ok (keeps : pool.store.Keeps kept) {bytes : Bytes}
    (known : kept world key = some bytes) (decoded : Machine.decode? bytes = .ok machine)
    (owned : machine.key? = some key)
    (loads : ∃ found, (pool.store.load key world).1 = .ok found) :
    (pool.fetch key world).1 = .ok machine := by
  obtain ⟨found, read⟩ := loads
  unfold fetch
  rcases left : pool.store.load key world with ⟨result, world'⟩
  rw [left] at read
  cases read
  cases (keeps.loaded left).trans known
  show ofStored key bytes = .ok machine
  unfold ofStored
  rw [decoded]
  exact if_pos owned

/-- An eviction fails only if a save fails. -/
theorem evict_ok (saves : ∀ key bytes world, (pool.store.save key bytes world).1 = .ok ())
    (stands : pool.slots[position]? = some slot) (world : σ) :
    ∃ world', pool.evict position world =
      (.ok (), pool.withSlot position slot.emptied, world') := by
  obtain ⟨done, world', written⟩ := persistSlot_ok saves slot world
  unfold evict
  rw [stands]
  dsimp only
  rw [written]
  exact ⟨world', rfl⟩

/-- A runner that can hold a machine can hold it after it was emptied too. -/
theorem lend_ok (stands : pool.slots[position]? = some slot) (there : slot.runner = some runner)
    (able : (runner.load machine).1 = .ok ()) (key : MachineKey) :
    ∃ guard, ((pool.withSlot position slot.emptied).lend position key machine).1 = .ok guard := by
  rcases left : (pool.withSlot position slot.emptied).lend position key machine with
    ⟨error | guard, pool'⟩
  · obtain ⟨-, fault, -, verifies, found⟩ :=
      lend_fails (getElem?_withSlot stands _) (Slot.emptied_runner there) rfl left
    have verifies : runner.options.verifyCallbacksOnLoad = true := verifies
    have found : Runner.firstFault? runner.toSetup machine.chart = some fault := found
    unfold Runner.load at able
    rw [if_pos verifies, found] at able
    cases able
  · exact ⟨guard, rfl⟩

/-- **A machine that is not resident is lent** if it can be fetched, a runner is idle, all idle
runners can hold it, and saves do not fail. -/
theorem acquire_ok (absent : pool.Lacks key)
    (fetched : (pool.fetch key world).1 = .ok machine)
    (idle : ∃ slot ∈ pool.slots, ∃ runner, slot.runner = some runner)
    (able : ∀ slot ∈ pool.slots, ∀ runner, slot.runner = some runner →
      (runner.load machine).1 = .ok ())
    (saves : ∀ key bytes world, (pool.store.save key bytes world).1 = .ok ()) :
    ∃ guard, (pool.acquire key world).1 = .ok guard := by
  have nowhere : pool.residentAt? key = none :=
    List.findIdx?_eq_none_iff.2 fun slot member => decide_eq_false (absent slot member)
  obtain ⟨other, member, runner', there'⟩ := idle
  obtain ⟨position, taken⟩ := exists_evictionCandidate? absent member there'
  obtain ⟨slot, runner, stands, there, -⟩ := of_evictionCandidate? taken
  rcases left : pool.fetch key world with ⟨result, world₁⟩
  rw [left] at fetched
  cases fetched
  obtain ⟨world₂, emptied⟩ := evict_ok saves stands world₁
  unfold acquire
  rw [nowhere]
  dsimp only
  unfold acquireAbsent
  rw [taken, left]
  dsimp only
  rw [emptied]
  exact lend_ok stands there (able slot (List.mem_of_getElem? stands) runner there) key

end Pool

/-! ### Machines that are restored -/

/-- A machine can be lent for its key: it is not resident, a runner is idle, all idle runners can
hold the machine, and the store does not fail. -/
structure Session.Ready (session : Session σ) (key : MachineKey) (machine : Machine) : Prop where
  absent : session.pool.Lacks key
  idle : ∃ slot ∈ session.pool.slots, ∃ runner, slot.runner = some runner
  able : ∀ slot ∈ session.pool.slots, ∀ runner, slot.runner = some runner →
    (runner.load machine).1 = .ok ()
  loads : ∃ found, (session.pool.store.load key session.world).1 = .ok found
  saves : ∀ key bytes world, (session.pool.store.save key bytes world).1 = .ok ()

/-- **Whatever pool is opened next over what is kept, a machine is found again**: until a guard of
its key is given back, every guard that is lent for the key holds the machine, and one is lent when
all is ready. -/
def Restores [Clocked σ] (kept : σ → MachineKey → Option Bytes) (dumps : MachineKey → Option Bytes)
    (key : MachineKey) (machine : Machine) : Prop :=
  ∀ (options : PoolOptions) (store : MachineStore σ) (runners : List (Runner σ)) (world : σ),
    Setting kept store runners → kept world = dumps →
    ∀ before : List (Request σ), (∀ request ∈ before, request.IsCareful) →
      let session := (Session.opened options store runners world).run before
      session.released key = none →
        (∀ request : Request σ, request.asked? = some key → ∀ guard,
          (request.perform session).1 = .ok (some guard) →
            guard.key = some key ∧ guard.runner.machine = some machine) ∧
        (session.Ready key machine →
          ∃ guard, ((Request.acquire key).perform session).1 = .ok (some guard))

namespace Session

variable {session : Session σ} {initial : MachineKey → Option Bytes} {key : MachineKey}
  {machine : Machine}

/-- The machine that is due at first is the one whose dump was kept before the session. -/
theorem Due.eq_of_stored {found : Machine} (due : session.Due initial key found)
    (first : session.released key = none) (known : initial key = some (machine.encode .binary))
    (again : Machine.decode? (machine.encode .binary) = .ok machine) : found = machine := by
  cases due with
  | resident last _ => cases first.symm.trans last
  | restored last _ _ => cases first.symm.trans last
  | stored _ known' decoded =>
    cases known.symm.trans known'
    exact Except.ok.inj (decoded.symm.trans again)
  | new _ unknown _ => cases known.symm.trans unknown

/-- A machine of the key can be lent when all is ready. -/
theorem Sound.acquire_ok (sound : session.Sound kept store initial) (keeps : store.Keeps kept)
    (first : session.released key = none) (known : initial key = some (machine.encode .binary))
    (again : Machine.decode? (machine.encode .binary) = .ok machine)
    (owned : machine.key? = some key) (ready : session.Ready key machine) :
    ∃ guard, (session.pool.acquire key session.world).1 = .ok guard := by
  have stays : kept session.world key = some (machine.encode .binary) := by
    rw [sound.away key ready.absent]
    unfold dumpOf
    rw [first]
    exact known
  have fetched := Pool.fetch_ok (sound.orderly.shared ▸ keeps) stays again owned ready.loads
  exact Pool.acquire_ok ready.absent fetched ready.idle ready.able ready.saves

variable [Clocked σ]

/-- **A machine whose dump is kept under its key is found again.** -/
theorem restores {dumps : MachineKey → Option Bytes}
    (known : dumps key = some (machine.encode .binary))
    (again : Machine.decode? (machine.encode .binary) = .ok machine)
    (owned : machine.key? = some key) : Restores kept dumps key machine := by
  rintro options store runners world setting rfl before careful session first
  have sound : session.Sound kept store (kept world) :=
    (sound_opened setting options world).run setting.keeps setting.clock careful
  refine ⟨fun request asked guard lent => ?_, fun ready => ?_⟩
  · have serves := request.serves (sound.orderly.shared ▸ setting.keeps) asked lent
    obtain ⟨keyed, found, loaded, -, due⟩ := sound.due_of_serves serves
    rw [due.eq_of_stored first known again] at loaded
    exact ⟨keyed, loaded⟩
  · obtain ⟨guard, lent⟩ := sound.acquire_ok setting.keeps first known again owned ready
    exact ⟨guard, congrArg (Except.map some) lent⟩

variable {runners : List (Runner σ)}

/-- **Machines outlive their pool.** Take any deals around a pool in which only the pool and its
hooks write to the store. If the pool writes what is given back, and can whenever it does, then the
machine of every idle runner is kept as it is. In any case they all are kept when the pool has
written its machines at once, which does not fail but by a save that fails, and it counts them. If
no guard is out while they are kept, the next pool restores every resident machine that its dump
gives again. -/
theorem durable_dealt (setting : Setting kept store runners) {options : PoolOptions}
    (count : runners.length = options.capacity) (world : σ) {deals : List (Deal σ)}
    (spares : ∀ before deal, before ++ [deal] <+: deals →
      deal.Spares kept ((opened options store runners world).dealt before)) :
    let start := opened options store runners world
    let session := start.dealt deals
    (options.flushOnRelease = true →
      (∀ before deal, before ++ [deal] <+: deals → deal.Saves (start.dealt before)) →
        session.Durable kept) ∧
    (∀ total world', session.pool.flushAll session.world = (.ok total, world') →
      total = session.pool.slots.countP Slot.isResident ∧
        ({ session with world := world' } : Session σ).Durable kept) ∧
    ((∀ key bytes world, (store.save key bytes world).1 = .ok ()) →
      ∃ total world', session.pool.flushAll session.world = (.ok total, world')) ∧
    ∀ world', ({ session with world := world' } : Session σ).Durable kept →
      session.guards = [] → ∀ slot ∈ session.pool.slots, ∀ key, slot.key = some key →
        ∃ runner machine, slot.runner = some runner ∧ runner.machine = some machine ∧
          (Machine.decode? (machine.encode .binary) = .ok machine →
            Restores kept (kept world') key machine) := by
  intro start session
  have new : start.Orderly kept store := orderly_opened setting options world
  have table := tabled_opened options store count world
  have orderly : session.Orderly kept store := new.dealt setting.keeps spares
  have tabled : Tabled options runners session.pool session.guards := tabled_dealt table deals
  refine ⟨fun flushes saves => ?_, fun total world' left => ?_, fun saves => ?_, ?_⟩
  · have bare : start.Durable kept := by
      intro slot member
      obtain ⟨runner, -, rfl⟩ := List.mem_map.1 member
      exact Slot.saved_of_bare rfl
    exact bare.dealt new setting.keeps setting.clock table flushes spares saves
  · exact orderly.flushAll_saves setting.keeps left
  · exact Pool.persistSlots_ok (orderly.shared ▸ saves) session.pool.slots 0 session.world
  · intro world' durable empty slot member key keyed
    cases there : slot.runner with
    | none =>
      -- A slot that lacks its runner has a guard.
      obtain ⟨position, stands⟩ := List.mem_iff_getElem?.1 member
      obtain ⟨guard, held, -⟩ := tabled.found position slot stands there
      rw [empty] at held
      cases held
    | some runner =>
      obtain ⟨machine, loaded, known⟩ := durable slot member runner key there keyed
      obtain ⟨machine', loaded', owned⟩ := (orderly.fits slot member runner there).2 key keyed
      cases loaded.symm.trans loaded'
      exact ⟨runner, machine, rfl, loaded, fun again => restores known again owned⟩

end Session

/-! ### A door that outlives its pool -/

/-- A session with a pool of one runner in memory. -/
def Session.single (memory : Memory) : Session Memory :=
  opened { capacity := 1 } Memory.store [{ resolver := .none }] memory

/-- Whether a machine is a door of its owner that was started, and can be loaded and dumped. -/
def Machine.isOwnDoor (machine : Machine) : Bool :=
  machine.isStarted && machine.history = [⟨0, none, none, "shut", .initial⟩] &&
    machine.datamodel.values.map Value.string? = [some "ann"] &&
    decide ((((Dump.ofMachine machine).toValue.chars escape).flatMap
      String.utf8EncodeChar).length < Nat.pow 2 32) &&
    (Runner.load ({ resolver := .none } : Runner Memory) machine).1.toBool

/-- Whether the data of a machine are texts, its times fit and its dump is short. -/
def Machine.isLegible (machine : Machine) : Bool :=
  decide (∀ record ∈ machine.history, record.TimeFits) &&
    machine.datamodel.values.all (fun value => value.string?.isSome) &&
    decide ((((Dump.ofMachine machine).toValue.chars escape).flatMap
      String.utf8EncodeChar).length < Nat.pow 2 32)

/-- The text of such a machine is read as its dump, and is short. -/
theorem Machine.ofBytes?_of_legible {machine : Machine} (legible : machine.isLegible = true) :
    Dump.ofBytes? (utf8 machine.text) = some (Dump.ofMachine machine) ∧
      (utf8 machine.text).length < Nat.pow 2 32 := by
  simp only [Machine.isLegible, Bool.and_eq_true, decide_eq_true_eq, List.all_eq_true] at legible
  obtain ⟨⟨fit, texts⟩, small⟩ := legible
  refine ⟨Machine.ofBytes?_text fit (Dump.reread?_eq_some fun value member => ?_), ?_⟩
  · obtain ⟨text, same⟩ := Option.isSome_iff_exists.1 (texts value member)
    rw [Value.eq_string same]
    exact (Value.Sound.string text).parseWithin?_render (Nat.zero_le _)
  · show (utf8 (String.ofList _)).length < _
    rw [utf8_ofList]
    exact small

/-- Such a door is read again from its dump. -/
theorem Machine.Placed.decode?_ownDoor {machine : Machine} (placed : machine.Placed)
    (door : machine.isOwnDoor = true) :
    Machine.decode? (machine.encode .binary) = .ok machine := by
  simp only [Machine.isOwnDoor, Bool.and_eq_true, decide_eq_true_eq] at door
  obtain ⟨⟨⟨⟨-, history⟩, owner⟩, small⟩, -⟩ := door
  have legible : machine.isLegible = true := by
    simp only [Machine.isLegible, Bool.and_eq_true, decide_eq_true_eq, List.all_eq_true]
    refine ⟨⟨?_, fun value member => ?_⟩, small⟩
    · rw [history]
      decide
    · have among := List.mem_map_of_mem (f := Value.string?) member
      rw [owner, List.mem_singleton] at among
      rw [among, Option.isSome_some]
  obtain ⟨read, short⟩ := Machine.ofBytes?_of_legible legible
  exact placed.decode?_encode_of_ofBytes? read fun _ => short

/-- All is ready for such a door in a new pool. -/
theorem Session.ready_single {machine : Machine} (door : machine.isOwnDoor = true)
    (memory : Memory) : (single memory).Ready ownDoor machine := by
  have new : ∀ slot ∈ (single memory).pool.slots, slot = { runner := some { resolver := .none } } :=
    fun slot member => List.mem_singleton.1 member
  refine ⟨fun slot member keyed => ?_, ⟨_, List.mem_singleton_self _, _, rfl⟩,
    fun slot member runner there => ?_, ⟨_, rfl⟩, fun _ _ _ => rfl⟩
  · rw [new slot member] at keyed
    cases keyed
  · rw [new slot member] at there
    cases there
    simp only [Machine.isOwnDoor, Bool.and_eq_true] at door
    have able := door.2
    cases left : (Runner.load ({ resolver := .none } : Runner Memory) machine).1 with
    | ok _ => rfl
    | error _ =>
      rw [left] at able
      cases able

/-- A door that was started and given back is kept, and the next pool lends it as it was. -/
theorem Session.durable_dealt_door :
    let session := (single ∅).dealt (lendDoor.map .ask)
    ∃ machine guard, machine.isStarted = true ∧
      session.world.get? ownDoor = some (machine.encode .binary) ∧
      ((Request.acquire ownDoor).perform (single session.world)).1 = .ok (some guard) ∧
      guard.runner.machine = some machine := by
  intro session
  have spares : ∀ before deal, before ++ [deal] <+: lendDoor.map Deal.ask →
      deal.Spares (fun memory key => memory.get? key) ((single ∅).dealt before) := by
    intro before deal early
    obtain ⟨request, among, rfl⟩ := List.mem_map.1 (early.subset List.mem_concat_self)
    exact (careful_lendDoor request among).spares
  have outlives := durable_dealt setting_memory rfl ∅ spares
  have durable : session.Durable fun memory key => memory.get? key :=
    outlives.1 rfl fun before deal _ =>
      saves_dealt (tabled_opened _ _ rfl ∅) Memory.keeps (fun _ _ _ => rfl) before deal
  have seen : session.pool.slots.map (fun slot =>
      (slot.key, (slot.runner.bind Runner.machine).map Machine.isOwnDoor)) =
      [(some ownDoor, some true)] := by
    decide +kernel
  obtain ⟨slot, slots, here⟩ := List.map_eq_singleton_iff.1 seen
  obtain ⟨keyed, door⟩ := Prod.mk.inj here
  have member : slot ∈ session.pool.slots := slots ▸ List.mem_singleton_self slot
  obtain ⟨runner, machine, there, loaded, restores⟩ :=
    outlives.2.2.2 session.world durable (by decide +kernel) slot member ownDoor keyed
  rw [there, Option.bind_some, loaded, Option.map_some, Option.some.injEq] at door
  -- The door is in one of its states, as it was given back so.
  have sound := (sound_opened setting_memory { capacity := 1 } ∅).run Memory.keeps
    setting_memory.clock careful_lendDoor
  have same : session = (single ∅).run lendDoor := List.foldl_map
  have last := (sound.rests slot (same ▸ member) runner ownDoor there keyed).symm.trans loaded
  have again := (sound.last ownDoor machine last).decode?_ownDoor door
  obtain ⟨found, lends⟩ := restores again { capacity := 1 } Memory.store [{ resolver := .none }]
    session.world setting_memory rfl [] (fun _ nothing => nomatch nothing) rfl
  obtain ⟨guard, lent⟩ := lends (ready_single door session.world)
  obtain ⟨machine', loaded', known⟩ := durable slot member runner ownDoor there keyed
  cases loaded.symm.trans loaded'
  simp only [Machine.isOwnDoor, Bool.and_eq_true] at door
  exact ⟨machine, guard, door.1.1.1.1, known, lent, (found (.acquire ownDoor) rfl guard lent).2⟩

end Statechart
