/-
**What a pool gives back.**

The machine of a key is in a slot, with a guard, or in the store, and it moves between them as
others need runners. As long as holders leave the owners of their machines alone, the pool finds it
again: a guard holds what the guard before it held, or, if that was evicted since, what is decoded
of its dump, which may differ in numbers of the data. Saves and loads may fail at any time.

* `Operation.IsCareful`: an operation that leaves the owner of the machine alone.
* `Session.Sound`: slots, guards and what is kept agree with what was given back.
* `Session.Due`: the machine that a guard of a key has to hold.
* `Session.lent_due`: every guard that is asked for with a key holds the machine that is due.
-/

import Statechart.Proofs.Pool.Order

namespace Statechart

variable {σ : Type} {kept : σ → MachineKey → Option Bytes} {store : MachineStore σ}

/-! ### Careful operations -/

namespace Operation

/-- An operation that leaves the owner of the machine alone, and the machine where it is. -/
def IsCareful : Operation σ → Prop
  | call _ _ | flush => True
  | modifyData change =>
    ∀ datamodel, (change datamodel).get? ownerKey = datamodel.get? ownerKey
  | _ => False

theorem IsCareful.spares {operation : Operation σ} (careful : operation.IsCareful) :
    operation.Spares kept := by
  cases operation with
  | override overrides => cases careful
  | _ => trivial

theorem IsCareful.continues {operation : Operation σ} (careful : operation.IsCareful) :
    operation.Continues := by
  cases operation with
  | call _ _ => trivial
  | flush => trivial
  | modifyData _ => trivial
  | _ => cases careful

variable [Clocked σ] {runner : Runner σ} {entry : Option MachineKey}

/-- **A careful operation keeps the key of the machine.** -/
theorem IsCareful.key? {operation : Operation σ} (careful : operation.IsCareful)
    (keeps : store.Keeps kept) (clock : Clocked.Spares kept)
    (tied : runner.Tied kept store entry) (world : σ) :
    (operation.perform runner world).1.machine.bind Machine.key? =
      runner.machine.bind Machine.key? := by
  cases operation with
  | call made payload =>
    cases loaded : runner.machine with
    | none =>
      have still : ((call made payload).perform runner world).1 = runner := by
        show (runner.make made payload world).2.1 = runner
        rw [Runner.make_of_declines (.unloaded loaded)]
      rw [still, loaded]
    | some machine =>
      obtain ⟨machine', loaded', same, -⟩ :=
        Runner.make_writes keeps clock tied loaded made payload world
      have left : ((call made payload).perform runner world).1.machine = some machine' := loaded'
      rw [left]
      exact same
  | flush => exact congrArg (Option.bind · Machine.key?) (machine_flush runner world)
  | modifyData change =>
    unfold perform Runner.modifyData
    dsimp only
    cases loaded : runner.machine with
    | none => rw [loaded]
    | some machine =>
      show Machine.key? { machine with datamodel := change machine.datamodel } = machine.key?
      unfold Machine.key? Machine.owner? Datamodel.owner?
      rw [careful machine.datamodel]
  | _ => cases careful

end Operation

/-- A request that uses guards with careful operations only, and registers only such templates as
are built or decoded: nowhere, or in one of the states of a built chart. -/
def Request.IsCareful : Request σ → Prop
  | operate _ operation => operation.IsCareful
  | registerChart template => template.Placed
  | _ => True

theorem Request.IsCareful.spares {request : Request σ} (careful : request.IsCareful) :
    request.Spares kept := by
  cases request with
  | operate place operation => exact Operation.IsCareful.spares careful
  | _ => trivial

/-! ### Slots, guards and dumps that agree -/

/-- What has to be kept under a key whose machine is not resident: the dump of the one that was
given back, or else what was kept before the session. -/
def Session.dumpOf (initial : MachineKey → Option Bytes) (session : Session σ)
    (key : MachineKey) : Option Bytes :=
  match session.released key with
  | some old => some (old.encode .binary)
  | none => initial key

/-- A guard that holds a machine of its key, or nothing if it has none. -/
structure Guard.Sound (guard : Guard σ) : Prop where
  holds : guard.runner.machine.bind Machine.key? = guard.key
  bare : guard.key = none → guard.runner.machine = none
  placed : ∀ machine, guard.runner.machine = some machine → machine.Placed

/-- **Slots, guards and what is kept agree with what was given back.** -/
structure Session.Sound (kept : σ → MachineKey → Option Bytes) (store : MachineStore σ)
    (initial : MachineKey → Option Bytes) (session : Session σ) : Prop where
  orderly : session.Orderly kept store
  /-- A template is registered for its own type. -/
  templates : ∀ chartType template, session.pool.templates.get? chartType = some template →
    template.name = chartType ∧ template.Placed
  guards : ∀ guard ∈ session.guards, guard.Sound
  last : ∀ key old, session.released key = some old → old.Placed
  /-- An idle machine is the one that was given back. -/
  rests : ∀ slot ∈ session.pool.slots, ∀ runner key, slot.runner = some runner →
    slot.key = some key → runner.machine = session.released key
  /-- The dump of a machine that is not resident is kept. -/
  away : ∀ key, session.pool.Lacks key → kept session.world key = session.dumpOf initial key

/-- A careful use leaves a guard with a machine of its key. -/
theorem Guard.Sound.perform [Clocked σ] {guard : Guard σ} (sound : guard.Sound)
    (keeps : store.Keeps kept) (clock : Clocked.Spares kept)
    (tied : guard.runner.Tied kept store guard.key) {operation : Operation σ}
    (careful : operation.IsCareful) (world : σ) :
    Guard.Sound { guard with runner := (operation.perform guard.runner world).1 } := by
  refine ⟨(careful.key? keeps clock tied world).trans sound.holds, fun bare => ?_,
    fun later there => ?_⟩
  · exact Operation.unloaded_perform careful.continues (sound.bare bare) world
  · cases loaded : guard.runner.machine with
    | none =>
      have still := Operation.unloaded_perform careful.continues loaded world
      cases still.symm.trans there
    | some machine =>
      exact Operation.placed careful.continues loaded (sound.placed machine loaded) there

namespace Session

variable {initial : MachineKey → Option Bytes} {session next : Session σ} {key : MachineKey}

/-- What is fetched is of the key, and in one of its states if anywhere. -/
theorem Fetches.of_templates {machine : Machine} (fetched : session.Fetches kept key machine)
    (templates : ∀ chartType template, session.pool.templates.get? chartType = some template →
      template.name = chartType ∧ template.Placed) :
    machine.key? = some key ∧ machine.Placed := by
  cases fetched with
  | stored _ decoded owned => exact ⟨owned, Machine.placed_of_decode? decoded⟩
  | new _ registered =>
    obtain ⟨name, placed⟩ := templates _ _ registered
    refine ⟨?_, placed.built, placed.inside⟩
    rw [Machine.key?_withOwner, name]

/-- A slot that keeps its key changes no residence. -/
theorem lacks_of_set {position : Nat} {slot : Slot σ} (slot' : Slot σ) (clock : Nat)
    (stands : session.pool.slots[position]? = some slot)
    (same : slot.key ≠ slot'.key → slot.key ≠ some key)
    (lacks : ({ session.pool.withSlot position slot' with clock } : Pool σ).Lacks key) :
    session.pool.Lacks key := by
  intro other member keyed
  obtain ⟨place, there⟩ := List.mem_iff_getElem?.1 member
  by_cases here : place = position
  · subst here
    cases stands.symm.trans there
    have kept' : slot.key = slot'.key := by
      by_contra differ
      exact same differ keyed
    refine lacks slot' (List.mem_set (List.getElem?_eq_some_iff.1 stands).1 _) ?_
    rw [← kept', keyed]
  · refine lacks other (List.mem_iff_getElem?.2 ⟨place, ?_⟩) keyed
    show (session.pool.slots.set position slot')[place]? = some other
    rw [List.getElem?_set_ne (Ne.symm here)]
    exact there

namespace Sound

/-- A move that only lends or empties a slot leaves the idle machines as they were. -/
theorem rests_set (sound : session.Sound kept store initial) {position : Nat} {slot' : Slot σ}
    (gone : slot'.runner = none ∨ slot'.key = none) :
    ∀ slot ∈ session.pool.slots.set position slot', ∀ runner key, slot.runner = some runner →
      slot.key = some key → runner.machine = session.released key := by
  intro slot member runner key there keyed
  rcases List.mem_or_eq_of_mem_set member with old | rfl
  · exact sound.rests slot old runner key there keyed
  · rcases gone with away | bare
    · cases away.symm.trans there
    · cases bare.symm.trans keyed

/-- A guard that is given back leaves its key and its runner to the slot. -/
theorem returned_eq (sound : session.Sound kept store initial) {guard : Guard σ}
    (member : guard ∈ session.guards) : session.pool.returned guard =
      { runner := some guard.runner, key := guard.key, lastUsed := session.pool.clock + 1 } := by
  have stays : session.pool.rekey guard = (guard.key, guard.runner) := by
    unfold Pool.rekey
    rw [(sound.guards guard member).holds, if_pos rfl]
  unfold Pool.returned
  rw [stays]

/-- A guard is given back with the machine of its key. -/
theorem takeBack (sound : session.Sound kept store initial) {place : Nat} {guard : Guard σ}
    (held : session.guards[place]? = some guard) :
    (session.takeBack place guard).Sound kept store initial := by
  have member := List.mem_of_getElem? held
  have back := sound.returned_eq member
  obtain ⟨slot, stands, away, keyed⟩ := sound.orderly.lent guard member
  have lacks : ∀ {key : MachineKey}, (session.takeBack place guard).pool.Lacks key →
      session.pool.Lacks key := by
    intro key absent
    refine lacks_of_set (session.pool.returned guard) (session.pool.clock + 1) stands ?_ absent
    intro differ
    rw [keyed, back] at differ
    exact absurd rfl differ
  refine ⟨sound.orderly.takeBack held, sound.templates, fun other stays => ?_,
    fun key old last => ?_, ?_, ?_⟩
  · exact sound.guards other (List.mem_of_mem_eraseIdx stays)
  · by_cases here : guard.key = some key
    · rw [takeBack_released here, Function.update_self] at last
      exact (sound.guards guard member).placed old last
    · rw [takeBack_released_of_ne here] at last
      exact sound.last key old last
  · intro slot' among runner key there keyed'
    change slot' ∈ session.pool.slots.set guard.slot (session.pool.returned guard) at among
    obtain ⟨index, stands'⟩ := List.mem_iff_getElem?.1 among
    by_cases here : index = guard.slot
    · subst here
      rw [List.getElem?_set_self (List.getElem?_eq_some_iff.1 stands).1, back] at stands'
      cases stands'
      cases there
      change guard.key = some key at keyed'
      rw [takeBack_released keyed', Function.update_self]
    · -- Only the key of the guard has a new machine, and no other slot has that key.
      rw [List.getElem?_set_ne (Ne.symm here)] at stands'
      have differ : guard.key ≠ some key := fun same =>
        here (sound.orderly.apart index guard.slot slot' slot key stands' stands keyed'
          (keyed.trans same))
      rw [takeBack_released_of_ne differ]
      exact sound.rests slot' (List.mem_of_getElem? stands') runner key there keyed'
  · intro key absent
    have differ : guard.key ≠ some key := fun same =>
      lacks absent slot (List.mem_of_getElem? stands) (keyed.trans same)
    unfold dumpOf
    rw [takeBack_released_of_ne differ]
    exact sound.away key (lacks absent)

/-- A runner that is lent leaves slots, guards and what is kept in agreement. -/
theorem lend (sound : session.Sound kept store initial) {position : Nat} {slot : Slot σ}
    (stands : session.pool.slots[position]? = some slot) {key : Option MachineKey}
    (fresh : slot.key ≠ key → slot.key = none) {guard : Guard σ} (held : guard.Sound)
    (orderly : ({ session with
      pool := session.pool.lent position { slot with key }
      guards := session.guards ++ [guard] } : Session σ).Orderly kept store) :
    ({ session with
      pool := session.pool.lent position { slot with key }
      guards := session.guards ++ [guard] } : Session σ).Sound kept store initial := by
  refine ⟨orderly, sound.templates, ?_, sound.last, sound.rests_set (.inl rfl),
    fun other absent => ?_⟩
  · exact List.forall_mem_append.2 ⟨sound.guards, List.forall_mem_singleton.2 held⟩
  · refine sound.away other (lacks_of_set
      { slot with runner := none, key, lastUsed := session.pool.clock + 1 }
      (session.pool.clock + 1) stands (fun differ keyed => ?_) absent)
    cases (fresh differ).symm.trans keyed

/-- The guard of an idle runner holds what rests there. -/
theorem guard_of_idle (sound : session.Sound kept store initial) {position : Nat} {slot : Slot σ}
    {runner : Runner σ} (stands : session.pool.slots[position]? = some slot)
    (there : slot.runner = some runner) (bare : slot.key = none → runner.machine = none) :
    Guard.Sound ⟨position, slot.key, runner⟩ := by
  have member := List.mem_of_getElem? stands
  refine ⟨?_, bare, fun machine loaded => ?_⟩
  · show runner.machine.bind Machine.key? = slot.key
    cases keyed : slot.key with
    | none => rw [bare keyed, Option.bind_none]
    | some key =>
      obtain ⟨machine, loaded, owned⟩ := (sound.orderly.fits slot member runner there).2 key keyed
      rw [loaded, Option.bind_some, owned]
  · cases keyed : slot.key with
    | none => cases (bare keyed).symm.trans loaded
    | some key =>
      have last := sound.rests slot member runner key there keyed
      exact sound.last key machine (last.symm.trans loaded)

/-- **Every move keeps the agreement.** -/
theorem move (sound : session.Sound kept store initial) (move : session.Move kept next) :
    next.Sound kept store initial := by
  have orderly := sound.orderly.move move
  cases move with
  | waits same =>
    refine ⟨orderly, sound.templates, sound.guards, sound.last, sound.rests, fun key absent => ?_⟩
    exact (congrFun same key).trans (sound.away key absent)
  | @writes slot runner entry machine world member there keyed loaded saved =>
    refine ⟨orderly, sound.templates, sound.guards, sound.last, sound.rests, fun key absent => ?_⟩
    have differ : key ≠ entry := fun same => absent slot member (same ▸ keyed)
    show kept world key = _
    rw [saved, Function.update_of_ne differ]
    exact sound.away key absent
  | @empties position slot runner stands there written =>
    refine ⟨orderly, sound.templates, sound.guards, sound.last, sound.rests_set (.inr rfl),
      fun key absent => ?_⟩
    by_cases here : slot.key = some key
    · have member := List.mem_of_getElem? stands
      obtain ⟨machine, loaded, -⟩ := (sound.orderly.fits slot member runner there).2 key here
      have last := sound.rests slot member runner key there here
      show kept session.world key = session.dumpOf initial key
      unfold dumpOf
      rw [written key machine here loaded, ← last, loaded]
    · exact sound.away key (lacks_of_set _ session.pool.clock stands (fun _ => here) absent)
  | lends stands there bare =>
    exact sound.lend stands (fun differ => absurd rfl differ)
      (sound.guard_of_idle stands there bare) orderly
  | loads stands there bare silent lacks fetched =>
    obtain ⟨owned, placed⟩ := fetched.of_templates sound.templates
    refine sound.lend stands (fun _ => bare) ⟨?_, fun keyed => (nomatch keyed), ?_⟩ orderly
    · rw [Pool.machine_withAutosave]
      exact owned
    · intro machine loaded
      rw [Pool.machine_withAutosave] at loaded
      cases loaded
      exact placed
  | returns held => exact sound.takeBack held

theorem moves (sound : session.Sound kept store initial) (moves : session.Moves kept next) :
    next.Sound kept store initial := by
  induction moves with
  | refl => exact sound
  | tail _ last ih => exact ih.move last

variable [Clocked σ]

/-- **A careful use of a guard keeps the agreement.** -/
theorem use (sound : session.Sound kept store initial) (keeps : store.Keeps kept)
    (clock : Clocked.Spares kept) {place : Nat} {guard : Guard σ}
    (held : session.guards[place]? = some guard) {operation : Operation σ}
    (careful : operation.IsCareful) :
    (session.use place guard operation).Sound kept store initial := by
  have member := List.mem_of_getElem? held
  have tied := sound.orderly.tied guard member
  refine ⟨sound.orderly.use held careful.spares, sound.templates, fun other among => ?_,
    sound.last, sound.rests, fun key absent => ?_⟩
  · rcases List.mem_or_eq_of_mem_set among with old | rfl
    · exact sound.guards other old
    · exact (sound.guards guard member).perform keeps clock tied careful session.world
  · -- The hook of the guard writes under the key of the guard, which is resident.
    obtain ⟨slot, stands, -, keyed⟩ := sound.orderly.lent guard member
    have differ : guard.key ≠ some key := fun same =>
      absent slot (List.mem_of_getElem? stands) (keyed.trans same)
    have same : kept (operation.perform guard.runner session.world).2 key =
        kept session.world key := by
      rcases Operation.perform_writes keeps clock tied operation session.world with
        quiet | ⟨target, told, under, -, saved⟩
      · rw [quiet]
      · refine (congrFun saved key).trans (Function.update_of_ne (fun here => differ ?_) _ _)
        rw [under, here]
    exact same.trans (sound.away key absent)

/-- **Every careful request keeps the agreement.** -/
theorem perform (sound : session.Sound kept store initial) (keeps : store.Keeps kept)
    (clock : Clocked.Spares kept) {request : Request σ} (careful : request.IsCareful) :
    (request.perform session).2.Sound kept store initial := by
  have orderly := sound.orderly.perform keeps careful.spares
  have does := sound.orderly.does keeps request
  generalize (request.perform session).2 = next at does orderly
  cases does with
  | moves moves => exact sound.moves moves
  | registers template =>
    refine ⟨orderly, fun chartType other registered => ?_, sound.guards, sound.last, sound.rests,
      sound.away⟩
    change (session.pool.templates.insert template.name template).get? chartType = _ at registered
    rw [Dict.get?_insert] at registered
    split at registered
    · next same =>
      cases registered
      exact ⟨same, careful⟩
    · exact sound.templates chartType other registered
  | uses held operation => exact sound.use keeps clock held careful

/-- **Every run of careful requests keeps the agreement.** -/
theorem run (sound : session.Sound kept store initial) (keeps : store.Keeps kept)
    (clock : Clocked.Spares kept) {requests : List (Request σ)}
    (careful : ∀ request ∈ requests, request.IsCareful) :
    (session.run requests).Sound kept store initial := by
  induction requests generalizing session with
  | nil => exact sound
  | cons request requests ih =>
    exact ih (sound.perform keeps clock (careful request List.mem_cons_self))
      fun other member => careful other (List.mem_cons_of_mem _ member)

end Sound

/-- Slots, guards and what is kept agree before the first request. -/
theorem sound_opened [Clocked σ] {runners : List (Runner σ)} (setting : Setting kept store runners)
    (options : PoolOptions) (world : σ) :
    (opened options store runners world).Sound kept store (kept world) := by
  refine ⟨orderly_opened setting options world, fun chartType template registered => ?_,
    fun guard member => (nomatch member), fun key old last => (nomatch last),
    fun slot member runner key there keyed => ?_, fun key absent => rfl⟩
  · cases registered
  · obtain ⟨runner', -, rfl⟩ := List.mem_map.1 member
    cases keyed

/-! ### Machines that are due -/

/-- **The machine that a guard of a key has to hold**, for what was kept before the session. -/
inductive Due (initial : MachineKey → Option Bytes) (session : Session σ) (key : MachineKey) :
    Machine → Prop
  /-- The machine that was given back is still resident. -/
  | resident {machine : Machine} (last : session.released key = some machine)
      (here : ¬ session.pool.Lacks key) : Due initial session key machine
  /-- The machine that was given back was evicted, and is decoded of its dump. -/
  | restored {old machine : Machine} (last : session.released key = some old)
      (away : session.pool.Lacks key)
      (decoded : Machine.decode? (old.encode .binary) = .ok machine) :
      Due initial session key machine
  /-- No machine was given back, and one was kept before the session. -/
  | stored {bytes : Bytes} {machine : Machine} (first : session.released key = none)
      (known : initial key = some bytes) (decoded : Machine.decode? bytes = .ok machine) :
      Due initial session key machine
  /-- No machine was given back, and none was kept. -/
  | new {template : Machine} (first : session.released key = none) (unknown : initial key = none)
      (registered : session.pool.templates.get? key.chartType = some template) :
      Due initial session key (template.withOwner key.owner)

/-- What is fetched in a session that agrees is due. -/
theorem Sound.due_of_fetches (sound : session.Sound kept store initial)
    (absent : session.pool.Lacks key) {machine : Machine}
    (fetched : session.Fetches kept key machine) : session.Due initial key machine := by
  have away := sound.away key absent
  unfold dumpOf at away
  cases last : session.released key with
  | none =>
    rw [last] at away
    cases fetched with
    | stored known decoded _ => exact .stored last (away.symm.trans known) decoded
    | new unknown registered => exact .new last (away.symm.trans unknown) registered
  | some old =>
    rw [last] at away
    cases fetched with
    | stored known decoded _ =>
      cases away.symm.trans known
      exact .restored last absent decoded
    | new unknown _ => cases away.symm.trans unknown

/-- **A guard with which a machine is lent holds the machine that is due.** -/
theorem Sound.due_of_serves (sound : session.Sound kept store initial) {guard : Guard σ}
    (serves : session.Serves kept key guard) :
    guard.key = some key ∧ ∃ machine, guard.runner.machine = some machine ∧
      machine.key? = some key ∧ session.Due initial key machine := by
  cases serves with
  | resident stands there keyed =>
    have member := List.mem_of_getElem? stands
    obtain ⟨machine, loaded, owned⟩ := (sound.orderly.fits _ member _ there).2 key keyed
    have last := sound.rests _ member _ key there keyed
    refine ⟨keyed, machine, loaded, owned, .resident (last.symm.trans loaded) ?_⟩
    exact fun absent => absent _ member keyed
  | fetched absent keyed loaded fetched =>
    have owned := (fetched.of_templates sound.templates).1
    exact ⟨keyed, _, loaded, owned, sound.due_of_fetches absent fetched⟩

/-- **A machine that is due is the one that was given back exactly if it is resident or its dump
gives it again.** -/
theorem Due.eq_iff {machine old : Machine} (due : session.Due initial key machine)
    (last : session.released key = some old) :
    machine = old ↔
      ¬ session.pool.Lacks key ∨ Machine.decode? (old.encode .binary) = .ok old := by
  cases due with
  | resident last' here =>
    cases last.symm.trans last'
    exact ⟨fun _ => .inl here, fun _ => rfl⟩
  | restored last' away decoded =>
    cases last.symm.trans last'
    constructor
    · intro same
      rw [same] at decoded
      exact .inr decoded
    · rintro (here | again)
      · exact absurd away here
      · exact Except.ok.inj (decoded.symm.trans again)
  | stored first _ _ => cases last.symm.trans first
  | new first _ _ => cases last.symm.trans first

/-- A machine that is due is the one that was given back but for its data. -/
theorem Due.eq_of_placed {machine old : Machine} (due : session.Due initial key machine)
    (last : session.released key = some old) (placed : old.Placed) :
    machine = { old with datamodel := machine.datamodel } := by
  cases due with
  | resident last' _ =>
    cases last.symm.trans last'
    rfl
  | restored last' _ decoded =>
    cases last.symm.trans last'
    exact placed.eq_of_decode?_encode decoded
  | stored first _ _ => cases last.symm.trans first
  | new first _ _ => cases last.symm.trans first

end Session

/-! ### Whole sessions -/

section Whole

variable [Clocked σ] {runners : List (Runner σ)}

end Whole

/-! ### A door that is lent twice -/

/-- A door is lent, opened for the first time, and given back. -/
def lendDoor : List (Request Memory) :=
  [.registerChart shutDoor, .acquire ownDoor, .operate 0 (.call .start .null), .release 0]

theorem careful_lendDoor : ∀ request ∈ lendDoor, request.IsCareful := by
  have placed : shutDoor.Placed :=
    ⟨(Description.of_build build_door).1, fun position here => nomatch here⟩
  simp [lendDoor, Request.IsCareful, Operation.IsCareful, placed]

end Statechart
