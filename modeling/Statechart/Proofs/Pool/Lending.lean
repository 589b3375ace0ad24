/-
**Requests as moves.**

What is asked of a pool comes to a sequence of moves, and so what every move keeps, every request
keeps. Only templates that are registered and guards that are used are no matter of moves.

* `Session.evict_advances`: an eviction writes and empties, or changes nothing.
* `Session.acquireAbsent_advances`: a machine that is not resident is fetched, loaded and lent.
* `Session.Serves`: the guards with which a machine is lent.
* `Request.advances`: a request for runners, or for machines to be written, takes no guard back.
* `Request.does`: every request makes moves, registers a template, or uses a guard.
-/

import Statechart.Proofs.Pool.Move

namespace Statechart

variable {σ : Type} {kept : σ → MachineKey → Option Bytes}

namespace Session

variable {session : Session σ} {position : Nat} {slot : Slot σ} {runner : Runner σ}
  {key : MachineKey}

theorem Moves.single {first second : Session σ} (move : Move kept first second) :
    Moves kept first second := Relation.ReflTransGen.single move

theorem Advances.single {first second : Session σ} (move : Move kept first second)
    (stay : first.guards <+: second.guards) : Advances kept first second :=
  Relation.ReflTransGen.single ⟨move, stay⟩

theorem lend_error (error : PoolError) (pool : Pool σ) (world : σ) :
    session.lend (.error error) pool world = { session with pool, world } := by
  unfold lend
  rw [show (Answer.guard? (.error error : Answer σ)).toList = [] from rfl, List.append_nil]

/-- A request that lends nothing and leaves the pool leaves the session. -/
theorem lend_none : session.lend (.ok none) session.pool session.world = session := by
  unfold lend
  rw [show (Answer.guard? (.ok none : Answer σ)).toList = [] from rfl, List.append_nil]

/-- **An eviction writes and empties**, or it fails and changes nothing. -/
theorem evict_advances (keeps : session.pool.store.Keeps kept)
    (stands : session.pool.slots[position]? = some slot) (there : slot.runner = some runner) :
    (∃ error world, session.pool.evict position session.world =
        (.error error, session.pool, world) ∧ kept world = kept session.world) ∨
      ∃ world, session.pool.evict position session.world =
          (.ok (), session.pool.withSlot position
            { slot with runner := some (Pool.emptied runner), key := none }, world) ∧
        session.Advances kept { session with
          pool := session.pool.withSlot position
            { slot with runner := some (Pool.emptied runner), key := none }
          world } ∧
        ∀ other, slot.key ≠ some other → kept world other = kept session.world other := by
  unfold Pool.evict
  rw [stands]
  have member := List.mem_of_getElem? stands
  rcases Pool.persistSlot_cases keeps slot session.world with ⟨quiet, unloaded⟩ |
    ⟨key, writer, machine, there', keyed, loaded, ⟨world, written, saved⟩ |
      ⟨error, world, refused, same⟩⟩
  · refine .inr ⟨session.world, ?_, Advances.single (.empties stands there ?_) List.prefix_rfl,
      fun _ _ => rfl⟩
    · simp only [quiet, there, Option.map_some]
    · intro key machine keyed loaded
      have nothing := unloaded runner there (by rw [keyed]; exact Option.some_ne_none key)
      cases nothing.symm.trans loaded
  · cases there.symm.trans there'
    refine .inr ⟨world, ?_, ?_, fun other differ => ?_⟩
    · simp only [written, there, Option.map_some]
    · have first : Move kept session { session with world } :=
        .writes member there keyed loaded saved
      refine Relation.ReflTransGen.trans (Advances.single first List.prefix_rfl)
        (Advances.single ?_ List.prefix_rfl)
      refine @Move.empties σ kept { session with world } _ _ _ stands there ?_
      intro other machine' keyed' loaded'
      cases keyed.symm.trans keyed'
      cases loaded.symm.trans loaded'
      show kept world key = _
      rw [saved, Function.update_self]
    · have apart : other ≠ key := fun same => differ (same ▸ keyed)
      rw [saved, Function.update_of_ne apart]
  · refine .inl ⟨error, world, ?_, same⟩
    simp only [refused]

/-- A machine that is fetched is the one that is due, and nothing changes. -/
theorem fetch_cases (keeps : session.pool.store.Keeps kept) (key : MachineKey) :
    kept (session.pool.fetch key session.world).2 = kept session.world ∧
      ∀ machine, (session.pool.fetch key session.world).1 = .ok machine →
        session.Fetches kept key machine := by
  have quiet := keeps.quiet key session.world
  unfold Pool.fetch
  rcases found : session.pool.store.load key session.world with ⟨fault | _ | bytes, world⟩
  · rw [found] at quiet
    exact ⟨quiet, fun machine read => nomatch read⟩
  · rw [found] at quiet
    refine ⟨quiet, fun machine read => ?_⟩
    dsimp only at read
    unfold Pool.newMachine at read
    cases registered : session.pool.templates.get? key.chartType with
    | none => rw [registered] at read; cases read
    | some template =>
      rw [registered] at read
      cases read
      exact .new (keeps.loaded found).symm registered
  · rw [found] at quiet
    refine ⟨quiet, fun machine read => ?_⟩
    dsimp only at read
    unfold Pool.ofStored at read
    cases decoded : Machine.decode? bytes with
    | error fault => rw [decoded] at read; cases read
    | ok machine' =>
      rw [decoded] at read
      dsimp only at read
      split at read
      · next owned =>
        cases read
        exact .stored (keeps.loaded found).symm decoded owned
      · cases read

/-- What is fetched depends on what is kept under the key and on the templates. -/
theorem Fetches.congr {session' : Session σ} {machine : Machine}
    (fetched : session.Fetches kept key machine)
    (same : kept session'.world key = kept session.world key)
    (templates : session'.pool.templates = session.pool.templates) :
    session'.Fetches kept key machine := by
  cases fetched with
  | stored known decoded owned => exact .stored (same.trans known) decoded owned
  | new unknown registered =>
    refine .new (same.trans unknown) ?_
    rw [templates]
    exact registered

/-- A request that fails makes the moves that lead to the pool and the world it leaves. -/
theorem advances_refused {pool : Pool σ} {world : σ}
    (advances : session.Advances kept { session with pool, world }) (error : PoolError) :
    session.Advances kept
      (session.lend ((.error error : Except PoolError (Guard σ)).map some) pool world) := by
  rw [show (Except.error error : Except PoolError (Guard σ)).map some = .error error from rfl,
    lend_error]
  exact advances

/-- An emptied runner is loaded with a machine that was fetched, and lent, or the request fails. -/
theorem lend_advances (stands : session.pool.slots[position]? = some slot)
    (there : slot.runner = some runner) (unloaded : runner.machine = none)
    (bare : slot.key = none) (silent : runner.flushHook = none) (absent : session.pool.Lacks key)
    {machine : Machine} (fetched : session.Fetches kept key machine)
    {answer : Except PoolError (Guard σ)} {pool : Pool σ}
    (left : session.pool.lend position key machine = (answer, pool)) :
    session.Advances kept (session.lend (answer.map some) pool session.world) ∧
      ∀ guard, answer = .ok guard →
        guard.key = some key ∧ guard.runner.machine = some machine := by
  rcases Pool.lend_cases stands there unloaded key machine with ⟨error, failed⟩ | lent
  · rw [failed] at left
    cases left
    exact ⟨advances_refused .refl _, fun guard refused => nomatch refused⟩
  · rw [lent] at left
    cases left
    refine ⟨Advances.single (.loads stands there bare silent absent fetched)
      (List.prefix_append _ _), fun guard same => ?_⟩
    cases same
    exact ⟨rfl, Pool.machine_withAutosave _ _ _⟩

/-- **A machine that is not resident is fetched, loaded and lent**, or the request fails. -/
theorem acquireAbsent_advances (keeps : session.pool.store.Keeps kept)
    (absent : session.pool.Lacks key) {answer : Except PoolError (Guard σ)} {pool : Pool σ}
    {world : σ} (left : session.pool.acquireAbsent key session.world = (answer, pool, world)) :
    session.Advances kept (session.lend (answer.map some) pool world) ∧
      ∀ guard, answer = .ok guard → guard.key = some key ∧
        ∃ machine, guard.runner.machine = some machine ∧ session.Fetches kept key machine := by
  unfold Pool.acquireAbsent at left
  cases candidate : session.pool.evictionCandidate? key with
  | none =>
    rw [candidate] at left
    cases left
    exact ⟨advances_refused .refl _, fun guard failed => nomatch failed⟩
  | some position =>
    obtain ⟨slot, runner, stands, there, other⟩ := Pool.of_evictionCandidate? candidate
    obtain ⟨quiet, fetches⟩ := session.fetch_cases keeps key
    rw [candidate] at left
    dsimp only at left
    rcases fetched : session.pool.fetch key session.world with ⟨error | machine, world₁⟩
    · rw [fetched] at left quiet
      cases left
      exact ⟨advances_refused (Advances.single (.waits quiet) List.prefix_rfl) _,
        fun guard failed => nomatch failed⟩
    rw [fetched] at left quiet
    dsimp only at left quiet
    have due := fetches machine (by rw [fetched])
    have waited : session.Advances kept { session with world := world₁ } :=
      Advances.single (.waits quiet) List.prefix_rfl
    have evicted := @evict_advances σ kept { session with world := world₁ } _ _ _ keeps stands there
    rcases evicted with ⟨error, world₂, failed, same⟩ | ⟨world₂, emptied, advances, apart⟩
    · dsimp only at failed same
      rw [failed] at left
      cases left
      exact ⟨advances_refused (Advances.single (.waits (same.trans quiet)) List.prefix_rfl) _,
        fun guard failed => nomatch failed⟩
    dsimp only at emptied advances apart
    rw [emptied] at left
    dsimp only at left
    -- What follows happens to the slot that was emptied, which does not have the key either.
    generalize emptiedSlot : ({ slot with runner := some (Pool.emptied runner), key := none } :
      Slot σ) = slot' at left advances
    have inside := (List.getElem?_eq_some_iff.1 stands).1
    have stands' : (session.pool.withSlot position slot').slots[position]? = some slot' :=
      List.getElem?_set_self inside
    have absent' : (session.pool.withSlot position slot').Lacks key := by
      intro slot'' member
      rcases List.mem_or_eq_of_mem_set member with member | rfl
      · exact absent slot'' member
      · rw [← emptiedSlot]
        exact fun same => nomatch same
    have due' : Fetches kept { session with
        pool := session.pool.withSlot position slot'
        world := world₂ } key machine :=
      due.congr ((apart key other).trans (congrFun quiet key)) rfl
    obtain ⟨loads, served⟩ := lend_advances stands' (by rw [← emptiedSlot]) rfl
      (by rw [← emptiedSlot]) rfl absent' due' rfl
    cases left
    refine ⟨(waited.trans advances).trans loads, fun guard same => ?_⟩
    obtain ⟨keyed, loaded⟩ := served guard same
    exact ⟨keyed, machine, loaded, due⟩

/-- The guard with which a machine is lent: the runner that holds it, or one that it is loaded
into. -/
inductive Serves (kept : σ → MachineKey → Option Bytes) (session : Session σ) (key : MachineKey) :
    Guard σ → Prop
  | resident {position : Nat} {slot : Slot σ} {runner : Runner σ}
      (stands : session.pool.slots[position]? = some slot) (there : slot.runner = some runner)
      (keyed : slot.key = some key) : Serves kept session key ⟨position, slot.key, runner⟩
  | fetched {guard : Guard σ} {machine : Machine} (absent : session.pool.Lacks key)
      (keyed : guard.key = some key) (loaded : guard.runner.machine = some machine)
      (fetched : session.Fetches kept key machine) : Serves kept session key guard

/-- A slot is lent if its runner is there, and else not. -/
theorem checkOut?_cases (stands : session.pool.slots[position]? = some slot) :
    session.pool.checkOut? position = none ∨
      ∃ runner, slot.runner = some runner ∧ session.pool.checkOut? position =
        some (⟨position, slot.key, runner⟩, session.pool.lent position slot) := by
  cases there : slot.runner with
  | none => exact .inl (Pool.checkOut?_eq_none stands there)
  | some runner => exact .inr ⟨runner, rfl, Pool.checkOut?_eq stands there⟩

/-- **A machine is lent if it is resident, or else fetched**, or the request fails. -/
theorem acquire_advances (keeps : session.pool.store.Keeps kept)
    {answer : Except PoolError (Guard σ)} {pool : Pool σ} {world : σ}
    (left : session.pool.acquire key session.world = (answer, pool, world)) :
    session.Advances kept (session.lend (answer.map some) pool world) ∧
      ∀ guard, answer = .ok guard → session.Serves kept key guard := by
  unfold Pool.acquire at left
  cases resident : session.pool.residentAt? key with
  | none =>
    rw [resident] at left
    have absent := Pool.lacks_of_residentAt? resident
    obtain ⟨advances, served⟩ := acquireAbsent_advances keeps absent left
    refine ⟨advances, fun guard same => ?_⟩
    obtain ⟨keyed, machine, loaded, fetched⟩ := served guard same
    exact .fetched absent keyed loaded fetched
  | some position =>
    obtain ⟨slot, stands, keyed⟩ := Pool.of_residentAt? resident
    rw [resident] at left
    dsimp only at left
    rcases checkOut?_cases stands with away | ⟨runner, there, lent⟩
    · rw [away] at left
      cases left
      exact ⟨advances_refused .refl _, fun guard failed => nomatch failed⟩
    · rw [lent] at left
      cases left
      refine ⟨Advances.single (.lends stands there fun bare => ?_) (List.prefix_append _ _),
        fun guard same => ?_⟩
      · cases keyed.symm.trans bare
      · cases same
        exact .resident stands there keyed

/-- A machine that is resident and started is lent, or the request changes nothing. -/
theorem acquireCurrent_advances {answer : Answer σ} {pool : Pool σ}
    (left : session.pool.acquireCurrent key = (answer, pool)) :
    session.Advances kept (session.lend answer pool session.world) ∧
      ∀ guard, answer = .ok (some guard) → session.Serves kept key guard := by
  unfold Pool.acquireCurrent at left
  cases resident : session.pool.residentAt? key with
  | none =>
    rw [resident] at left
    cases left
    rw [lend_none]
    exact ⟨.refl, fun guard same => nomatch same⟩
  | some position =>
    obtain ⟨slot, stands, keyed⟩ := Pool.of_residentAt? resident
    rw [resident] at left
    dsimp only at left
    rcases checkOut?_cases stands with away | ⟨runner, there, lent⟩
    · rw [away] at left
      cases left
      exact ⟨advances_refused .refl _, fun guard failed => nomatch failed⟩
    · rw [lent] at left
      dsimp only at left
      split at left
      · cases left
        refine ⟨Advances.single (.lends stands there fun bare => ?_) (List.prefix_append _ _),
          fun guard same => ?_⟩
        · cases keyed.symm.trans bare
        · cases same
          exact .resident stands there keyed
      · cases left
        rw [lend_none]
        exact ⟨.refl, fun guard same => nomatch same⟩

/-- A runner is emptied and lent, or the request fails. -/
theorem acquireForEviction_advances (keeps : session.pool.store.Keeps kept)
    {answer : Except PoolError (Guard σ)} {pool : Pool σ} {world : σ}
    (left : session.pool.acquireForEviction key session.world = (answer, pool, world)) :
    session.Advances kept (session.lend (answer.map some) pool world) := by
  unfold Pool.acquireForEviction at left
  cases candidate : session.pool.evictionCandidate? key with
  | none =>
    rw [candidate] at left
    cases left
    exact advances_refused .refl _
  | some position =>
    obtain ⟨slot, runner, stands, there, -⟩ := Pool.of_evictionCandidate? candidate
    rw [candidate] at left
    dsimp only at left
    rcases evict_advances keeps stands there with ⟨error, world₁, failed, same⟩ |
      ⟨world₁, emptied, advances, -⟩
    · rw [failed] at left
      cases left
      exact advances_refused (Advances.single (.waits same) List.prefix_rfl) _
    · rw [emptied] at left
      dsimp only at left
      obtain ⟨inside, -⟩ := List.getElem?_eq_some_iff.1 stands
      unfold Pool.checkOut at left
      rw [Pool.checkOut?_eq (List.getElem?_set_self inside) rfl] at left
      cases left
      refine advances.trans (Advances.single (.lends (List.getElem?_set_self inside) rfl ?_)
        (List.prefix_append _ _))
      exact fun _ => rfl

/-- A runner without a machine is lent, or nothing changes. -/
theorem acquireFree_advances {answer : Option (Guard σ)} {pool : Pool σ}
    (left : session.pool.acquireFree = (answer, pool)) :
    session.Advances kept (session.lend (.ok answer) pool session.world) := by
  unfold Pool.acquireFree at left
  cases free : session.pool.slots.findIdx? Slot.isFree with
  | none =>
    rw [free] at left
    cases left
    rw [lend_none]
  | some position =>
    obtain ⟨inside, empty, -⟩ := List.findIdx?_eq_some_iff_getElem.1 free
    rw [free] at left
    dsimp only at left
    have stands := List.getElem?_eq_getElem inside
    rcases checkOut?_cases stands with away | ⟨runner, there, lent⟩
    · rw [away] at left
      cases left
      rw [lend_none]
    · rw [lent] at left
      cases left
      refine Advances.single (.lends stands there fun _ => ?_) (List.prefix_append _ _)
      unfold Slot.isFree at empty
      rw [there, Option.any_some] at empty
      unfold Runner.isLoaded at empty
      rw [Bool.not_eq_true'] at empty
      exact Option.isNone_iff_eq_none.1 (Option.isSome_eq_false_iff.1 empty)

/-- The machines of some slots are written, one after the other. -/
theorem persistSlots_advances (keeps : session.pool.store.Keeps kept) (slots : List (Slot σ))
    (among : ∀ slot ∈ slots, slot ∈ session.pool.slots) (count : Nat) (world : σ) :
    Advances kept { session with world }
      { session with world := (session.pool.persistSlots slots count world).2 } := by
  induction slots generalizing count world with
  | nil => exact .refl
  | cons slot slots ih =>
    have later := fun other member => among other (List.mem_cons_of_mem _ member)
    unfold Pool.persistSlots
    rcases Pool.persistSlot_cases keeps slot world with ⟨quiet, -⟩ |
      ⟨key, runner, machine, there, keyed, loaded, ⟨world', written, saved⟩ |
        ⟨error, world', refused, same⟩⟩
    · rw [quiet]
      exact ih later _ _
    · rw [written]
      have first : Move kept { session with world } { session with world := world' } :=
        @Move.writes σ kept { session with world } _ _ _ _ _ (among slot List.mem_cons_self) there
          keyed loaded saved
      exact (Advances.single first List.prefix_rfl).trans (ih later _ _)
    · rw [refused]
      exact Advances.single (@Move.waits σ kept { session with world } _ same) List.prefix_rfl

/-- A guard is given back, and its machine is written or not. -/
theorem giveBack_moves (keeps : session.pool.store.Keeps kept) {place : Nat} {guard : Guard σ}
    (held : session.guards[place]? = some guard)
    (seated : guard.slot < session.pool.slots.length) :
    session.Moves kept (session.giveBack place guard) := by
  have back : session.Moves kept (session.takeBack place guard) := Moves.single (.returns held)
  have rekeys := session.pool.rekeys guard
  have stands : session.pool.returned guard ∈ (session.takeBack place guard).pool.slots :=
    List.mem_set seated _
  have whole : session.giveBack place guard = { session.takeBack place guard with
      world := session.pool.persistReleased (session.pool.rekey guard).1
        (session.pool.rekey guard).2 session.world } := rfl
  rw [whole]
  unfold Pool.persistReleased
  cases keyed : (session.pool.rekey guard).1 with
  | none => exact back
  | some key =>
    rw [keyed] at rekeys
    dsimp only
    split
    · obtain ⟨machine, loaded, -⟩ := rekeys.loaded
      rcases Pool.persist_cases keeps loaded key session.world with ⟨world, written, saved⟩ |
        ⟨error, world, refused, same⟩
      · rw [written]
        exact back.trans (Moves.single (Move.writes stands rfl keyed loaded saved))
      · rw [refused]
        exact back.trans (Moves.single (Move.waits same))
    · exact back

end Session

/-! ### All requests -/

/-- The key of the machine that a request asks for. -/
def Request.asked? : Request σ → Option MachineKey
  | acquire key | acquireCurrent key => some key
  | _ => none

/-- A guard is lent for a key as its machine is. -/
theorem Request.serves [Clocked σ] {session : Session σ} (keeps : session.pool.store.Keeps kept)
    {request : Request σ} {key : MachineKey} (asked : request.asked? = some key) {guard : Guard σ}
    (lent : (request.perform session).1 = .ok (some guard)) : session.Serves kept key guard := by
  cases request with
  | acquire _ =>
    cases asked
    refine (Session.acquire_advances keeps rfl).2 guard ?_
    change (session.pool.acquire key session.world).1.map some = .ok (some guard) at lent
    cases answer : (session.pool.acquire key session.world).1 with
    | error error => rw [answer] at lent; cases lent
    | ok served =>
      rw [answer] at lent
      cases lent
      exact answer
  | acquireCurrent _ =>
    cases asked
    exact (Session.acquireCurrent_advances rfl).2 guard lent
  | _ => cases asked

/-- A request that asks for runners, or for machines to be written. -/
def Request.IsPlain : Request σ → Prop
  | registerChart _ | release _ | operate _ _ => False
  | _ => True

/-- **A request for runners, or for machines to be written, takes no guard back.** -/
theorem Request.advances [Clocked σ] {session : Session σ} (keeps : session.pool.store.Keeps kept)
    {request : Request σ} (plain : request.IsPlain) :
    session.Advances kept (request.perform session).2 := by
  cases request with
  | acquire key => exact (Session.acquire_advances keeps rfl).1
  | acquireCurrent key => exact (Session.acquireCurrent_advances rfl).1
  | acquireForEviction key => exact Session.acquireForEviction_advances keeps rfl
  | acquireFree => exact Session.acquireFree_advances rfl
  | flushAll =>
    exact Session.persistSlots_advances keeps session.pool.slots (fun _ member => member) 0
      session.world
  | registerChart _ | release _ | operate _ _ => cases plain

/-- **What a request does to a session.** -/
inductive Session.Does [Clocked σ] (kept : σ → MachineKey → Option Bytes) (session : Session σ) :
    Request σ → Session σ → Prop
  /-- It makes moves. -/
  | moves {request : Request σ} {next : Session σ} (moves : session.Moves kept next) :
      Does kept session request next
  /-- It registers a template. -/
  | registers (template : Machine) : Does kept session (.registerChart template)
      { session with pool := session.pool.registerChart template }
  /-- It uses a guard. -/
  | uses {place : Nat} {guard : Guard σ} (held : session.guards[place]? = some guard)
      (operation : Operation σ) :
      Does kept session (.operate place operation) (session.use place guard operation)

/-- **Every request makes moves, registers a template, or uses a guard.** -/
theorem Request.does [Clocked σ] {session : Session σ} (keeps : session.pool.store.Keeps kept)
    (seated : ∀ guard ∈ session.guards, guard.slot < session.pool.slots.length)
    (request : Request σ) : session.Does kept request (request.perform session).2 := by
  cases request with
  | acquire _ | acquireCurrent _ | acquireForEviction _ | acquireFree | flushAll =>
    exact .moves (Session.Advances.moves (Request.advances keeps trivial))
  | registerChart template => exact .registers template
  | release place =>
    refine .moves ?_
    cases held : session.guards[place]? with
    | none =>
      rw [perform_release_of_none held]
    | some guard =>
      rw [perform_release held]
      exact Session.giveBack_moves keeps held (seated guard (List.mem_of_getElem? held))
  | operate place operation =>
    cases held : session.guards[place]? with
    | none =>
      refine .moves ?_
      rw [perform_operate_of_none held]
    | some guard =>
      rw [perform_operate held]
      exact .uses held operation

end Statechart
