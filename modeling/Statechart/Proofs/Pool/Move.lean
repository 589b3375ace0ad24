/-
**What can happen to a pool.**

A request goes through several moves: a machine is written, a runner is emptied, lent, or loaded and
lent, a guard is given back, or something is done that leaves pool and store alone. What each step
of a pool may come to is said here once.

* `Session.Move`: one move.
* `Session.Advances`: several moves after which all guards are still out.
* `Pool.persist_cases`: a machine is written, or what is kept stays.
* `Pool.lend_cases`: a machine is loaded and lent, or the pool stays.
* `Pool.persist_error`, `Pool.fetch_error`: the errors of writing and of fetching a machine.
* `Pool.rekeys`: how a slot goes on when its guard is given back.
-/

import Statechart.Proofs.Pool.Session
import Mathlib.Logic.Relation

namespace Statechart

variable {σ : Type} {kept : σ → MachineKey → Option Bytes}

/-! ### Moves -/

/-- The pool after the runner of a slot at a position is lent. -/
def Pool.lent (pool : Pool σ) (position : Nat) (slot : Slot σ) : Pool σ :=
  { pool.withSlot position { slot with runner := none, lastUsed := pool.clock + 1 } with
    clock := pool.clock + 1 }

/-- The slot to which the runner of a guard comes back. -/
def Pool.returned (pool : Pool σ) (guard : Guard σ) : Slot σ where
  runner := some (pool.rekey guard).2
  key := (pool.rekey guard).1
  lastUsed := pool.clock + 1

/-- No slot has a key. -/
def Pool.Lacks (pool : Pool σ) (key : MachineKey) : Prop := ∀ slot ∈ pool.slots, slot.key ≠ some key

/-- The machine of a key that is not resident: what is kept under the key, or else a copy of the
template. -/
inductive Session.Fetches (kept : σ → MachineKey → Option Bytes) (session : Session σ)
    (key : MachineKey) : Machine → Prop
  | stored {bytes : Bytes} {machine : Machine} (known : kept session.world key = some bytes)
      (decoded : Machine.decode? bytes = .ok machine) (owned : machine.key? = some key) :
      Fetches kept session key machine
  | new {template : Machine} (unknown : kept session.world key = none)
      (registered : session.pool.templates.get? key.chartType = some template) :
      Fetches kept session key (template.withOwner key.owner)

/-- **One move of a session.** -/
inductive Session.Move (kept : σ → MachineKey → Option Bytes) : Session σ → Session σ → Prop
  /-- Neither the pool nor what is kept changes. -/
  | waits {session : Session σ} {world : σ} (same : kept world = kept session.world) :
      Move kept session { session with world }
  /-- The machine of an idle runner is written under the key of the slot. -/
  | writes {session : Session σ} {slot : Slot σ} {runner : Runner σ} {key : MachineKey}
      {machine : Machine} {world : σ} (stands : slot ∈ session.pool.slots)
      (there : slot.runner = some runner) (keyed : slot.key = some key)
      (loaded : runner.machine = some machine)
      (saved : kept world =
        Function.update (kept session.world) key (some (machine.encode .binary))) :
      Move kept session { session with world }
  /-- An idle runner loses its machine, which was written before if the slot has a key. -/
  | empties {session : Session σ} {position : Nat} {slot : Slot σ} {runner : Runner σ}
      (stands : session.pool.slots[position]? = some slot) (there : slot.runner = some runner)
      (written : ∀ key machine, slot.key = some key → runner.machine = some machine →
        kept session.world key = some (machine.encode .binary)) :
      Move kept session { session with
        pool := session.pool.withSlot position
          { slot with runner := some (Pool.emptied runner), key := none } }
  /-- An idle runner is lent, with its machine if the slot has a key and else without one. -/
  | lends {session : Session σ} {position : Nat} {slot : Slot σ} {runner : Runner σ}
      (stands : session.pool.slots[position]? = some slot) (there : slot.runner = some runner)
      (bare : slot.key = none → runner.machine = none) :
      Move kept session { session with
        pool := session.pool.lent position slot
        guards := session.guards ++ [⟨position, slot.key, runner⟩] }
  /-- An emptied runner is loaded with a machine that is not resident, and lent. -/
  | loads {session : Session σ} {position : Nat} {slot : Slot σ} {runner : Runner σ}
      {key : MachineKey} {machine : Machine}
      (stands : session.pool.slots[position]? = some slot) (there : slot.runner = some runner)
      (bare : slot.key = none) (silent : runner.flushHook = none)
      (absent : session.pool.Lacks key) (fetched : session.Fetches kept key machine) :
      Move kept session { session with
        pool := session.pool.lent position { slot with key := some key }
        guards := session.guards ++
          [⟨position, some key,
            session.pool.withAutosave key { runner with machine := some machine }⟩] }
  /-- A guard is given back, and nothing is written yet. -/
  | returns {session : Session σ} {place : Nat} {guard : Guard σ}
      (held : session.guards[place]? = some guard) :
      Move kept session (session.takeBack place guard)

/-- Several moves. -/
abbrev Session.Moves (kept : σ → MachineKey → Option Bytes) : Session σ → Session σ → Prop :=
  Relation.ReflTransGen (Session.Move kept)

/-- A move after which all guards are still out. -/
def Session.Advance (kept : σ → MachineKey → Option Bytes) (first second : Session σ) : Prop :=
  Session.Move kept first second ∧ first.guards <+: second.guards

/-- Several moves after which all guards are still out. -/
abbrev Session.Advances (kept : σ → MachineKey → Option Bytes) : Session σ → Session σ → Prop :=
  Relation.ReflTransGen (Session.Advance kept)

theorem Session.Advances.moves {first second : Session σ}
    (advances : Session.Advances kept first second) : Session.Moves kept first second :=
  Relation.ReflTransGen.mono (fun _ _ advance => advance.1) _ _ advances

/-- A guard that is given back is no longer out. -/
theorem Session.guards_not_kept_takeBack {session : Session σ} {place : Nat} {guard : Guard σ}
    (held : session.guards[place]? = some guard) :
    ¬ session.guards <+: (session.takeBack place guard).guards := by
  intro stay
  have inside := (List.getElem?_eq_some_iff.1 held).1
  have fewer : (session.guards.eraseIdx place).length < session.guards.length := by
    rw [List.length_eraseIdx_of_lt inside]
    omega
  exact absurd stay.length_le (Nat.not_le.2 fewer)

/-! ### Errors -/

/-- An error of writing a machine: the store fails, or there is no machine. -/
inductive PoolError.OfWriting : PoolError → Prop
  | io (fault : IoFault) : OfWriting (.io fault)
  | notLoaded : OfWriting (.core .notLoaded)

/-- An error of fetching the machine of a key: the store fails, what is kept cannot be decoded or is
another machine, or there is no template of the type. -/
inductive PoolError.OfFetching (key : MachineKey) : PoolError → Prop
  | io (fault : IoFault) : OfFetching key (.io fault)
  | undecodable (fault : DumpFault) : OfFetching key (.core (.invalidModel fault))
  | corruption (name : String) (owner : Option String) : OfFetching key (.corruption key name owner)
  | unknownChartType : OfFetching key (.unknownChartType key.chartType)

/-! ### Looking at slots -/

/-- The earliest of several slots is one of them. -/
theorem Slot.mem_of_earliest? {entries : List (Slot σ × Nat)} {entry : Slot σ × Nat}
    (found : Slot.earliest? entries = some entry) : entry ∈ entries := by
  cases entries with
  | nil => cases found
  | cons first rest =>
    cases found
    have among : ∀ (rest : List (Slot σ × Nat)) (first : Slot σ × Nat),
        rest.foldl Slot.earlier first ∈ first :: rest := by
      intro rest
      induction rest with
      | nil => exact fun first => List.mem_cons_self
      | cons next rest ih =>
        intro first
        have later := ih (Slot.earlier first next)
        rw [List.foldl_cons]
        rcases List.mem_cons.1 later with same | member
        · rw [same]
          unfold Slot.earlier
          split
          · exact List.mem_cons_of_mem _ List.mem_cons_self
          · exact List.mem_cons_self
        · exact List.mem_cons_of_mem _ (List.mem_cons_of_mem _ member)
    exact among rest first

namespace Pool

variable {pool : Pool σ} {position : Nat} {slot : Slot σ} {runner : Runner σ} {key : MachineKey}

theorem lacks_of_residentAt? (absent : pool.residentAt? key = none) : pool.Lacks key := by
  intro slot member keyed
  have differ := List.findIdx?_eq_none_iff.1 absent slot member
  simp [keyed] at differ

theorem of_residentAt? (resident : pool.residentAt? key = some position) :
    ∃ slot, pool.slots[position]? = some slot ∧ slot.key = some key := by
  obtain ⟨inside, same, -⟩ := List.findIdx?_eq_some_iff_getElem.1 resident
  exact ⟨_, List.getElem?_eq_getElem inside, of_decide_eq_true same⟩

/-- A key that some slot has is found. -/
theorem exists_residentAt? (stands : pool.slots[position]? = some slot)
    (keyed : slot.key = some key) : ∃ position, pool.residentAt? key = some position := by
  cases resident : pool.residentAt? key with
  | none => exact absurd keyed (lacks_of_residentAt? resident slot (List.mem_of_getElem? stands))
  | some found => exact ⟨found, rfl⟩

theorem of_mem_candidates {entry : Slot σ × Nat} (among : entry ∈ pool.candidates key) :
    pool.slots[entry.2]? = some entry.1 ∧ entry.1.mayLose key := by
  obtain ⟨member, loses⟩ := List.mem_filter.1 among
  exact ⟨List.mem_zipIdx_iff_getElem?.1 member, loses⟩

/-- **The slot to take is idle and does not have the key.** -/
theorem of_evictionCandidate? (found : pool.evictionCandidate? key = some position) :
    ∃ slot runner, pool.slots[position]? = some slot ∧ slot.runner = some runner ∧
      slot.key ≠ some key := by
  obtain ⟨entry, among, rfl⟩ : ∃ entry ∈ pool.candidates key, entry.2 = position := by
    unfold evictionCandidate? at found
    dsimp only at found
    split at found
    · next free =>
      cases found
      exact ⟨_, List.mem_of_find?_eq_some free, rfl⟩
    · obtain ⟨entry, earliest, same⟩ := Option.map_eq_some_iff.1 found
      exact ⟨entry, Slot.mem_of_earliest? earliest, same⟩
  obtain ⟨stands, loses⟩ := of_mem_candidates among
  unfold Slot.mayLose at loses
  rw [Bool.and_eq_true, decide_eq_true_eq] at loses
  obtain ⟨runner, there⟩ := Option.isSome_iff_exists.1 loses.1
  exact ⟨entry.1, runner, stands, there, loses.2⟩

/-- An idle runner can be lent. -/
theorem checkOut?_eq (stands : pool.slots[position]? = some slot)
    (there : slot.runner = some runner) :
    pool.checkOut? position = some (⟨position, slot.key, runner⟩, pool.lent position slot) := by
  unfold checkOut?
  rw [stands, Option.bind_eq_bind, Option.bind_some, there]
  rfl

theorem checkOut?_eq_none (stands : pool.slots[position]? = some slot)
    (away : slot.runner = none) : pool.checkOut? position = none := by
  unfold checkOut?
  rw [stands, Option.bind_eq_bind, Option.bind_some, away]
  rfl

/-! ### Writing and loading -/

/-- A machine is written, or else what is kept stays. -/
theorem persist_cases (keeps : pool.store.Keeps kept) {machine : Machine}
    (loaded : runner.machine = some machine) (key : MachineKey) (world : σ) :
    (∃ world', pool.persist key runner world = (.ok (), world') ∧
        kept world' = Function.update (kept world) key (some (machine.encode .binary))) ∨
      ∃ error world', pool.persist key runner world = (.error error, world') ∧
        kept world' = kept world := by
  unfold persist
  rw [Runner.dump_eq loaded]
  rcases saved : pool.store.save key (machine.encode .binary) world with ⟨fault | _, world'⟩
  · simp only [saved]
    exact .inr ⟨_, world', rfl, keeps.refused saved⟩
  · simp only [saved]
    exact .inl ⟨world', rfl, keeps.saved saved⟩

/-- The machine of a slot that is idle and has a key and a machine is written, or else what is kept
stays. -/
theorem persistSlot_cases (keeps : pool.store.Keeps kept) (slot : Slot σ) (world : σ) :
    (pool.persistSlot slot world = (.ok false, world) ∧
        ∀ runner, slot.runner = some runner → slot.key ≠ none → runner.machine = none) ∨
      ∃ key runner machine, slot.runner = some runner ∧ slot.key = some key ∧
        runner.machine = some machine ∧
        ((∃ world', pool.persistSlot slot world = (.ok true, world') ∧
            kept world' = Function.update (kept world) key (some (machine.encode .binary))) ∨
          ∃ error world', pool.persistSlot slot world = (.error error, world') ∧
            kept world' = kept world) := by
  unfold persistSlot Slot.toWrite?
  cases there : slot.runner with
  | none => exact .inl ⟨rfl, fun _ same => nomatch same⟩
  | some runner =>
    cases keyed : slot.key with
    | none => exact .inl ⟨rfl, fun _ _ known => absurd rfl known⟩
    | some key =>
      rw [Option.bind_eq_bind, Option.bind_some, Option.bind_eq_bind, Option.bind_some]
      unfold Runner.isLoaded
      cases loaded : runner.machine with
      | none =>
        refine .inl ⟨rfl, fun other same _ => ?_⟩
        cases same
        exact loaded
      | some machine =>
        refine .inr ⟨key, runner, machine, rfl, rfl, loaded, ?_⟩
        rw [Option.isSome_some, if_pos rfl]
        dsimp only
        rcases persist_cases keeps loaded key world with ⟨world', written, saved⟩ |
          ⟨error, world', refused, same⟩
        · rw [written]
          exact .inl ⟨world', rfl, saved⟩
        · rw [refused]
          exact .inr ⟨error, world', rfl, same⟩

/-- **A machine that cannot be written.** -/
theorem persist_error {error : PoolError} {world : σ}
    (failed : (pool.persist key runner world).1 = .error error) : error.OfWriting := by
  unfold persist at failed
  cases loaded : runner.machine with
  | none =>
    unfold Runner.dump Runner.loaded at failed
    rw [loaded] at failed
    cases failed
    exact .notLoaded
  | some machine =>
    rw [Runner.dump_eq loaded] at failed
    rcases saved : pool.store.save key (machine.encode .binary) world with ⟨fault | _, world'⟩
    · simp only [saved] at failed
      cases failed
      exact .io fault
    · simp only [saved] at failed
      cases failed

theorem persistSlot_error {error : PoolError} {world : σ}
    (failed : (pool.persistSlot slot world).1 = .error error) : error.OfWriting := by
  unfold persistSlot at failed
  cases entry : slot.toWrite? with
  | none =>
    rw [entry] at failed
    cases failed
  | some written =>
    rw [entry] at failed
    dsimp only at failed
    cases persisted : (pool.persist written.1 written.2 world).1 with
    | ok _ =>
      rw [persisted] at failed
      cases failed
    | error error' =>
      rw [persisted] at failed
      cases failed
      exact persist_error persisted

theorem persistSlots_error {slots : List (Slot σ)} {count : Nat} {error : PoolError} {world : σ}
    (failed : (pool.persistSlots slots count world).1 = .error error) : error.OfWriting := by
  induction slots generalizing count world with
  | nil => cases failed
  | cons slot slots ih =>
    unfold persistSlots at failed
    rcases written : pool.persistSlot slot world with ⟨error' | written', world'⟩
    · rw [written] at failed
      cases failed
      exact persistSlot_error (congrArg Prod.fst written)
    · rw [written] at failed
      exact ih failed

theorem evict_error {error : PoolError} {world : σ}
    (failed : (pool.evict position world).1 = .error error) : error.OfWriting := by
  unfold evict at failed
  cases stands : pool.slots[position]? with
  | none =>
    rw [stands] at failed
    cases failed
  | some slot =>
    rw [stands] at failed
    dsimp only at failed
    rcases written : pool.persistSlot slot world with ⟨error' | written', world'⟩
    · rw [written] at failed
      cases failed
      exact persistSlot_error (congrArg Prod.fst written)
    · rw [written] at failed
      cases failed

/-- **A machine that cannot be fetched.** -/
theorem fetch_error {error : PoolError} {world : σ}
    (failed : (pool.fetch key world).1 = .error error) : error.OfFetching key := by
  unfold fetch at failed
  rcases loaded : pool.store.load key world with ⟨fault | _ | bytes, world'⟩
  · rw [loaded] at failed
    cases failed
    exact .io fault
  · rw [loaded] at failed
    dsimp only at failed
    unfold newMachine at failed
    cases known : pool.templates.get? key.chartType with
    | none =>
      rw [known] at failed
      cases failed
      exact .unknownChartType
    | some template =>
      rw [known] at failed
      cases failed
  · rw [loaded] at failed
    dsimp only at failed
    unfold ofStored at failed
    cases decoded : Machine.decode? bytes with
    | error fault =>
      rw [decoded] at failed
      cases failed
      exact .undecodable fault
    | ok machine =>
      rw [decoded] at failed
      dsimp only at failed
      split at failed
      · cases failed
      · cases failed
        exact .corruption machine.name machine.owner?

/-- Loading fails and leaves nothing loaded, or it loads. -/
theorem load_cases (runner : Runner σ) (machine : Machine) :
    (∃ error, runner.load machine = (.error error, runner.clear)) ∨
      runner.load machine = (.ok (), { runner with machine := some machine }) := by
  unfold Runner.load
  dsimp only
  split
  · exact .inl ⟨_, rfl⟩
  · exact .inr rfl

/-- An emptied slot is filled, or it stays as it is. -/
theorem fill_cases (there : slot.runner = some runner) (unloaded : runner.machine = none)
    (key : MachineKey) (machine : Machine) :
    (∃ error, pool.fill slot key machine = (.error (.core error), slot)) ∨
      pool.fill slot key machine = (.ok (), { slot with
        runner := some (pool.withAutosave key { runner with machine := some machine })
        key := some key }) := by
  unfold fill
  rw [there]
  dsimp only
  rcases load_cases runner machine with ⟨error, failed⟩ | loaded
  · have unchanged : ({ slot with runner := some runner.clear } : Slot σ) = slot := by
      unfold Runner.clear
      rw [← unloaded, ← there]
    rw [failed]
    dsimp only
    rw [unchanged]
    exact .inl ⟨_, rfl⟩
  · rw [loaded]
    exact .inr rfl

/-- A runner that was emptied is loaded and lent, or it stays as it is. -/
theorem lend_cases (stands : pool.slots[position]? = some slot) (there : slot.runner = some runner)
    (unloaded : runner.machine = none) (key : MachineKey) (machine : Machine) :
    (∃ error, pool.lend position key machine = (.error (.core error), pool)) ∨
      pool.lend position key machine =
        (.ok ⟨position, some key,
            pool.withAutosave key { runner with machine := some machine }⟩,
          pool.lent position { slot with key := some key }) := by
  obtain ⟨inside, same⟩ := List.getElem?_eq_some_iff.1 stands
  unfold lend
  rw [stands]
  dsimp only
  rcases fill_cases there unloaded key machine with ⟨error, failed⟩ | filled
  · have unchanged : pool.withSlot position slot = pool := by
      unfold withSlot
      rw [← same, List.set_getElem_self]
    rw [failed]
    dsimp only
    rw [unchanged]
    exact .inl ⟨_, rfl⟩
  · rw [filled]
    dsimp only
    unfold checkOut
    rw [checkOut?_eq (List.getElem?_set_self inside) rfl]
    refine .inr ?_
    unfold lent withSlot
    simp only [List.set_set]

theorem machine_withAutosave (pool : Pool σ) (key : MachineKey) (runner : Runner σ) :
    (pool.withAutosave key runner).machine = runner.machine := by
  unfold withAutosave
  split <;> rfl

/-- The key and the runner with which a slot goes on after its guard is given back. -/
inductive Rekeys (pool : Pool σ) (guard : Guard σ) : Option MachineKey → Runner σ → Prop
  /-- The runner still holds the machine of the guard. -/
  | same (same : guard.runner.machine.bind Machine.key? = guard.key) :
      Rekeys pool guard guard.key guard.runner
  /-- The runner holds no machine with an owner. -/
  | ownerless (ownerless : guard.runner.machine.bind Machine.key? = none) :
      Rekeys pool guard none { guard.runner with flushHook := none }
  /-- The runner holds a machine that is resident elsewhere. -/
  | discarded {key : MachineKey} (other : guard.runner.machine.bind Machine.key? = some key)
      (elsewhere : pool.isElsewhere key guard.slot = true) :
      Rekeys pool guard none { guard.runner with flushHook := none, machine := none }
  /-- The runner holds another machine. -/
  | moved {key : MachineKey} (other : guard.runner.machine.bind Machine.key? = some key)
      (here : pool.isElsewhere key guard.slot = false) :
      Rekeys pool guard (some key) (pool.withAutosave key { guard.runner with flushHook := none })

theorem rekeys (pool : Pool σ) (guard : Guard σ) :
    pool.Rekeys guard (pool.rekey guard).1 (pool.rekey guard).2 := by
  unfold rekey
  dsimp only
  by_cases same : guard.runner.machine.bind Machine.key? = guard.key
  · rw [if_pos same]
    dsimp only
    rw [same]
    exact .same same
  · rw [if_neg same]
    cases found : guard.runner.machine.bind Machine.key? with
    | none => exact .ownerless found
    | some key =>
      dsimp only
      cases elsewhere : pool.isElsewhere key guard.slot with
      | true =>
        rw [if_pos rfl]
        exact .discarded found elsewhere
      | false =>
        rw [if_neg Bool.false_ne_true]
        exact .moved found elsewhere

/-- The key with which a slot goes on is that of its machine. -/
theorem Rekeys.loaded {guard : Guard σ} (rekeys : pool.Rekeys guard (some key) runner) :
    ∃ machine, runner.machine = some machine ∧ machine.key? = some key := by
  generalize known : some key = key? at rekeys
  cases rekeys with
  | same same =>
    obtain ⟨machine, loaded, owned⟩ := Option.bind_eq_some_iff.1 (same.trans known.symm)
    exact ⟨machine, loaded, owned.trans known⟩
  | ownerless => cases known
  | discarded => cases known
  | moved other _ =>
    cases known
    rw [machine_withAutosave]
    exact Option.bind_eq_some_iff.1 other

/-- The key with which a slot goes on is the one that it had, or it is resident nowhere else. -/
theorem Rekeys.fresh {guard : Guard σ} (rekeys : pool.Rekeys guard (some key) runner) :
    guard.key = some key ∨ pool.isElsewhere key guard.slot = false := by
  generalize known : some key = key? at rekeys
  cases rekeys with
  | same _ => exact .inl rfl
  | ownerless _ => cases known
  | discarded _ _ => cases known
  | moved _ here =>
    cases known
    exact .inr here

end Pool

end Statechart
