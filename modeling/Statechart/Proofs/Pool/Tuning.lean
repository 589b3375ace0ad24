/-
**Pools that write every commit.**

A pool that is to write every commit gives its hook to each runner that it loads. Whether a runner
calls its hook is up to the runner, and neither that nor the hook of a machine that stays resident
is set again when the runner is lent anew. So what one holder does to a runner concerns the next
one: all runners are in tune exactly as long as all are given back so. A holder who gets a runner in
tune and makes only calls finds each of them written, and one who gets a mute runner finds none.

* `Session.Tuned`: the runners that are not lent are in tune.
* `Guard.Tuned`: a guard whose runner is in tune once it is given back.
* `Deal.OnlyCalls`: a deal in which the guard of a slot is used for calls alone.
* `Session.Writes`, `Session.Forgets`: what calls of a guard leave in the store.
* `Session.autosaves_dealt`: who finds calls written, after any deals.
-/

import Statechart.Proofs.Pool.Autosave
import Statechart.Proofs.Pool.Durability

namespace Statechart

open Json

variable {σ : Type} {kept : σ → MachineKey → Option Bytes} {store : MachineStore σ}

/-! ### Runners in tune -/

/-- A slot whose runner, if it is there, writes each commit under the key of the slot. -/
def Slot.Tuned (store : MachineStore σ) (slot : Slot σ) : Prop :=
  ∀ runner, slot.runner = some runner → runner.Tuned store slot.key

/-- **The runners that are not lent are in tune**, in a pool that is to write every commit. -/
structure Session.Tuned (store : MachineStore σ) (session : Session σ) : Prop where
  shared : session.pool.store = store
  writes : session.pool.options.autosave = true
  slots : ∀ slot ∈ session.pool.slots, slot.Tuned store

/-- **A guard whose runner is in tune once it is given back.** It has to call its hook, and if it
holds the machine that it was lent for, the hook has to be that of the pool. -/
structure Guard.Tuned (store : MachineStore σ) (guard : Guard σ) : Prop where
  autosave : guard.runner.autosave = true
  hook : guard.runner.machine.bind Machine.key? = guard.key → ∀ key, guard.key = some key →
    guard.runner.flushHook = some (Pool.autosaveHook store key)

namespace Runner.Tuned

variable {runner : Runner σ} {entry : Option MachineKey}

/-- A runner that calls its hook is in tune with no key. -/
theorem of_autosave (on : runner.autosave = true) : runner.Tuned store none :=
  ⟨on, fun _ keyed => nomatch keyed⟩

/-- Whether a runner is in tune is no matter of its machine. -/
theorem of_toSetup {runner' : Runner σ} (tuned : runner.Tuned store entry)
    (same : runner'.toSetup = runner.toSetup) : runner'.Tuned store entry := by
  refine ⟨?_, fun key keyed => ?_⟩
  · rw [same]
    exact tuned.autosave
  · rw [same]
    exact tuned.hook key keyed

/-- The hook of a pool that writes every commit brings a runner in tune. -/
theorem withAutosave {pool : Pool σ} (shared : pool.store = store)
    (writes : pool.options.autosave = true) (on : runner.autosave = true) (key : MachineKey) :
    (pool.withAutosave key runner).Tuned store (some key) := by
  unfold Pool.withAutosave
  rw [if_pos writes]
  refine ⟨on, ?_⟩
  rintro entry ⟨⟩
  rw [shared]

end Runner.Tuned

/-- Muteness too is no matter of the machine. -/
theorem Runner.Mute.of_toSetup {runner runner' : Runner σ} (mute : runner.Mute kept)
    (same : runner'.toSetup = runner.toSetup) : runner'.Mute kept := by
  unfold Runner.Mute
  rw [same]
  exact mute

/-- **What is given back is in tune exactly if the guard is.** A hook that belongs to another
machine is replaced, whether a runner calls its hook is not looked at. -/
theorem Guard.tuned_iff {pool : Pool σ} (shared : pool.store = store)
    (writes : pool.options.autosave = true) (guard : Guard σ) :
    guard.Tuned store ↔ (pool.returned guard).Tuned store := by
  have back : (pool.returned guard).Tuned store ↔
      (pool.rekey guard).2.Tuned store (pool.rekey guard).1 :=
    ⟨fun tuned => tuned _ rfl, fun tuned runner there => Option.some.inj there ▸ tuned⟩
  rw [back]
  unfold Pool.rekey
  dsimp only
  by_cases same : guard.runner.machine.bind Machine.key? = guard.key
  · rw [if_pos same, same]
    exact ⟨fun tuned => ⟨tuned.autosave, tuned.hook same⟩,
      fun tuned => ⟨tuned.autosave, fun _ => tuned.hook⟩⟩
  · have flag : guard.Tuned store ↔ guard.runner.autosave = true :=
      ⟨Guard.Tuned.autosave, fun on => ⟨on, fun still => absurd still same⟩⟩
    rw [if_neg same, flag]
    cases guard.runner.machine.bind Machine.key? with
    | none => exact ⟨fun on => .of_autosave on, fun tuned => tuned.autosave⟩
    | some key =>
      dsimp only
      split
      · exact ⟨fun on => .of_autosave on, fun tuned => tuned.autosave⟩
      · refine ⟨fun on => .withAutosave shared writes ?_ key, fun tuned => ?_⟩
        · exact on
        · have on := tuned.autosave
          unfold Pool.withAutosave at on
          rw [if_pos writes] at on
          exact on

/-! ### Sessions in tune -/

namespace Session.Tuned

variable {session next : Session σ}

/-- A move after which all guards are still out leaves the runners in tune, and those that are lent
in it are. -/
theorem advance (tuned : session.Tuned store) (advance : session.Advance kept next) :
    next.Tuned store ∧
      ∀ guard ∈ next.guards, guard ∈ session.guards ∨ guard.runner.Tuned store guard.key := by
  obtain ⟨move, stay⟩ := advance
  have of_set : ∀ {position : Nat} {slot' : Slot σ}, slot'.Tuned store →
      ∀ slot ∈ session.pool.slots.set position slot', slot.Tuned store := by
    intro position slot' here slot member
    rcases List.mem_or_eq_of_mem_set member with old | rfl
    · exact tuned.slots slot old
    · exact here
  have away : ∀ {slot' : Slot σ}, slot'.runner = none → slot'.Tuned store := by
    intro slot' gone runner there
    cases gone.symm.trans there
  have old : ∀ guard ∈ session.guards,
      guard ∈ session.guards ∨ guard.runner.Tuned store guard.key := fun _ member => .inl member
  cases move with
  | waits _ => exact ⟨⟨tuned.shared, tuned.writes, tuned.slots⟩, old⟩
  | writes _ _ _ _ _ => exact ⟨⟨tuned.shared, tuned.writes, tuned.slots⟩, old⟩
  | empties stands there _ =>
    have on := (tuned.slots _ (List.mem_of_getElem? stands) _ there).autosave
    refine ⟨⟨tuned.shared, tuned.writes, of_set ?_⟩, old⟩
    rintro runner ⟨⟩
    exact .of_autosave on
  | lends stands there _ =>
    have lent := tuned.slots _ (List.mem_of_getElem? stands) _ there
    exact ⟨⟨tuned.shared, tuned.writes, of_set (away rfl)⟩,
      List.forall_mem_append.2 ⟨old, List.forall_mem_singleton.2 (.inr lent)⟩⟩
  | loads stands there _ _ _ _ =>
    have on := (tuned.slots _ (List.mem_of_getElem? stands) _ there).autosave
    refine ⟨⟨tuned.shared, tuned.writes, of_set (away rfl)⟩, List.forall_mem_append.2
      ⟨old, List.forall_mem_singleton.2 (.inr (.withAutosave tuned.shared tuned.writes ?_ _))⟩⟩
    exact on
  | returns held => exact absurd stay (guards_not_kept_takeBack held)

theorem advances (tuned : session.Tuned store) (advances : session.Advances kept next) :
    next.Tuned store ∧
      ∀ guard ∈ next.guards, guard ∈ session.guards ∨ guard.runner.Tuned store guard.key := by
  induction advances with
  | refl => exact ⟨tuned, fun guard member => .inl member⟩
  | tail _ last ih =>
    obtain ⟨later, lent⟩ := ih.1.advance last
    refine ⟨later, fun guard member => ?_⟩
    rcases lent guard member with before | tuned
    · exact ih.2 guard before
    · exact .inr tuned

variable [Clocked σ]

/-- A request for runners, or for machines to be written, leaves the runners in tune. -/
theorem plain (tuned : session.Tuned store) (keeps : store.Keeps kept) {request : Request σ}
    (plain : request.IsPlain) : (request.perform session).2.Tuned store :=
  (tuned.advances (Request.advances (tuned.shared ▸ keeps) plain)).1

/-- **A deal leaves the runners in tune**, if what is given back in it is. -/
theorem perform (tuned : session.Tuned store) (keeps : store.Keeps kept) {deal : Deal σ}
    (given : ∀ place guard, deal = .ask (.release place) → session.guards[place]? = some guard →
      guard.Tuned store) : (deal.perform session).Tuned store := by
  cases deal with
  | disturb change => exact ⟨tuned.shared, tuned.writes, tuned.slots⟩
  | handle place change =>
    show (session.handled place change).Tuned store
    unfold handled
    split
    · exact tuned
    · exact ⟨tuned.shared, tuned.writes, tuned.slots⟩
  | ask request =>
    cases request with
    | acquire _ | acquireCurrent _ | acquireForEviction _ | acquireFree | flushAll =>
      exact tuned.plain keeps trivial
    | registerChart template => exact ⟨tuned.shared, tuned.writes, tuned.slots⟩
    | release place =>
      show (Request.perform (.release place) session).2.Tuned store
      cases held : session.guards[place]? with
      | none =>
        rw [Request.perform_release_of_none held]
        exact tuned
      | some guard =>
        rw [Request.perform_release held]
        refine ⟨tuned.shared, tuned.writes, fun slot member => ?_⟩
        change slot ∈ session.pool.slots.set guard.slot (session.pool.returned guard) at member
        rcases List.mem_or_eq_of_mem_set member with old | rfl
        · exact tuned.slots slot old
        · exact (guard.tuned_iff tuned.shared tuned.writes).1 (given place guard rfl held)
    | operate place operation =>
      show (Request.perform (.operate place operation) session).2.Tuned store
      cases held : session.guards[place]? with
      | none =>
        rw [Request.perform_operate_of_none held]
        exact tuned
      | some guard =>
        rw [Request.perform_operate held]
        exact ⟨tuned.shared, tuned.writes, tuned.slots⟩

/-- Deals leave the runners in tune, if all that is given back in them is. -/
theorem dealt (tuned : session.Tuned store) (keeps : store.Keeps kept) {deals : List (Deal σ)}
    (given : ∀ before place guard, before ++ [.ask (.release place)] <+: deals →
      (session.dealt before).guards[place]? = some guard → guard.Tuned store) :
    (session.dealt deals).Tuned store := by
  refine dealt_keeps
    (Q := fun session deal => ∀ place guard, deal = .ask (.release place) →
      session.guards[place]? = some guard → guard.Tuned store)
    (fun _ _ tuned given => tuned.perform keeps given) tuned ?_
  rintro before _ early place guard rfl held
  exact given before place guard early held

/-- A guard that is given back to a session in tune and leaves it so is in tune. -/
theorem of_release (tuned : session.Tuned store) {place : Nat} {guard : Guard σ}
    (held : session.guards[place]? = some guard)
    (seated : guard.slot < session.pool.slots.length)
    (after : (Deal.perform (.ask (.release place)) session).Tuned store) : guard.Tuned store := by
  change (Request.perform (.release place) session).2.Tuned store at after
  rw [Request.perform_release held] at after
  exact (guard.tuned_iff tuned.shared tuned.writes).2
    (after.slots _ (List.mem_set seated (session.pool.returned guard)))

end Session.Tuned

/-- The runners of a pool are in tune before the first request, if all are made to call their
hooks. -/
theorem Session.tuned_opened {options : PoolOptions} {made : List (Runner σ)}
    (writes : options.autosave = true) (enabled : ∀ runner ∈ made, runner.autosave = true)
    (world : σ) : (opened options store made world).Tuned store := by
  refine ⟨rfl, writes, fun slot member runner there => ?_⟩
  obtain ⟨_, among, rfl⟩ := List.mem_map.1 member
  cases there
  exact .of_autosave (enabled runner among)

/-! ### Callables that spare the store -/

/-- The callables of all runners, lent or not, leave alone what is kept. -/
structure Session.Spares (kept : σ → MachineKey → Option Bytes) (session : Session σ) : Prop where
  slots : ∀ slot ∈ session.pool.slots, ∀ runner, slot.runner = some runner →
    runner.toSetup.Spares kept
  guards : ∀ guard ∈ session.guards, guard.runner.toSetup.Spares kept

/-- A deal that brings no callables but such as leave alone what is kept. Hooks may do what they
like, and so may the world. -/
def Deal.Brings (kept : σ → MachineKey → Option Bytes) : Deal σ → Prop
  | ask request => request.Spares kept
  | handle _ change => ∃ handling : Handling σ, change = handling.perform
  | disturb _ => True

namespace Session.Spares

variable {session next : Session σ}

/-- A slot may change together with the guards. -/
theorem replace (spares : session.Spares kept) {pool : Pool σ} {guards : List (Guard σ)}
    (slots : ∀ slot ∈ pool.slots, slot ∈ session.pool.slots ∨
      ∀ runner, slot.runner = some runner → runner.toSetup.Spares kept)
    (lent : ∀ guard ∈ guards, guard ∈ session.guards ∨ guard.runner.toSetup.Spares kept)
    (released : MachineKey → Option Machine) (world : σ) :
    (⟨pool, guards, released, world⟩ : Session σ).Spares kept where
  slots slot member := (slots slot member).elim (spares.slots slot) id
  guards guard member := (lent guard member).elim (spares.guards guard) id

/-- A move brings no callables. -/
theorem move (spares : session.Spares kept) (move : session.Move kept next) :
    next.Spares kept := by
  have of_set : ∀ {position : Nat} {slot' : Slot σ},
      (∀ runner, slot'.runner = some runner → runner.toSetup.Spares kept) →
        ∀ slot ∈ session.pool.slots.set position slot', slot ∈ session.pool.slots ∨
          ∀ runner, slot.runner = some runner → runner.toSetup.Spares kept := by
    intro position slot' here slot member
    rcases List.mem_or_eq_of_mem_set member with old | rfl
    · exact .inl old
    · exact .inr here
  have idle : ∀ {position : Nat} {slot : Slot σ} {runner : Runner σ},
      session.pool.slots[position]? = some slot → slot.runner = some runner →
        runner.toSetup.Spares kept :=
    fun stands there => spares.slots _ (List.mem_of_getElem? stands) _ there
  have old : ∀ guard ∈ session.guards,
      guard ∈ session.guards ∨ guard.runner.toSetup.Spares kept := fun _ member => .inl member
  have autosaving : ∀ {runner : Runner σ} (key : MachineKey), runner.toSetup.Spares kept →
      (session.pool.withAutosave key runner).toSetup.Spares kept := by
    intro runner key spares
    unfold Pool.withAutosave
    split
    · exact ⟨spares.resolver, spares.overrides⟩
    · exact spares
  cases move with
  | waits _ => exact ⟨spares.slots, spares.guards⟩
  | writes _ _ _ _ _ => exact ⟨spares.slots, spares.guards⟩
  | empties stands there _ =>
    refine spares.replace (of_set ?_) old _ _
    rintro runner ⟨⟩
    exact ⟨(idle stands there).resolver, (idle stands there).overrides⟩
  | lends stands there _ =>
    have lent := idle stands there
    refine spares.replace (of_set ?_) (List.forall_mem_append.2 ⟨old, ?_⟩) _ _
    · exact fun runner gone => nomatch gone
    · exact List.forall_mem_singleton.2 (.inr lent)
  | loads stands there _ _ _ _ =>
    have lent := idle stands there
    refine spares.replace (of_set ?_) (List.forall_mem_append.2 ⟨old, ?_⟩) _ _
    · exact fun runner gone => nomatch gone
    · exact List.forall_mem_singleton.2 (.inr (autosaving _ lent))
  | @returns place guard held =>
    have lent := spares.guards guard (List.mem_of_getElem? held)
    refine spares.replace (of_set ?_) (fun other stays => .inl (List.mem_of_mem_eraseIdx stays)) _ _
    rintro runner ⟨⟩
    show (session.pool.rekey guard).2.toSetup.Spares kept
    have rekeys := session.pool.rekeys guard
    generalize (session.pool.rekey guard).1 = key, (session.pool.rekey guard).2 = runner at rekeys
    cases rekeys with
    | same _ => exact lent
    | ownerless _ => exact ⟨lent.resolver, lent.overrides⟩
    | discarded _ _ => exact ⟨lent.resolver, lent.overrides⟩
    | moved _ _ => exact autosaving _ ⟨lent.resolver, lent.overrides⟩

theorem moves (spares : session.Spares kept) (moves : session.Moves kept next) :
    next.Spares kept := by
  induction moves with
  | refl => exact spares
  | tail _ last ih => exact ih.move last

/-- The runner of a guard may become any whose callables leave alone what is kept. -/
theorem hold (spares : session.Spares kept) (place : Nat) (guard : Guard σ)
    (here : guard.runner.toSetup.Spares kept) (world : σ) :
    ({ session with guards := session.guards.set place guard, world } : Session σ).Spares kept := by
  refine spares.replace (fun slot member => .inl member) (fun other among => ?_) _ _
  rcases List.mem_or_eq_of_mem_set among with old | rfl
  · exact .inl old
  · exact .inr here

variable [Clocked σ] {options : PoolOptions} {made : List (Runner σ)}

/-- **A deal brings no callables but such as leave alone what is kept.** -/
theorem perform (spares : session.Spares kept) (keeps : session.pool.store.Keeps kept)
    (tabled : Tabled options made session.pool session.guards) {deal : Deal σ}
    (brings : deal.Brings kept) : (deal.perform session).Spares kept := by
  cases deal with
  | disturb change => exact ⟨spares.slots, spares.guards⟩
  | handle place change =>
    obtain ⟨handling, rfl⟩ := brings
    show (session.handled place handling.perform).Spares kept
    unfold handled
    cases held : session.guards[place]? with
    | none => exact spares
    | some guard =>
      have lent := spares.guards guard (List.mem_of_getElem? held)
      refine spares.hold place _ ?_ _
      cases handling <;> exact ⟨lent.resolver, lent.overrides⟩
  | ask request =>
    have seated : ∀ guard ∈ session.guards, guard.slot < session.pool.slots.length := by
      intro guard member
      obtain ⟨slot, stands, -⟩ := tabled.lent guard member
      exact (List.getElem?_eq_some_iff.1 stands).1
    have does := request.does keeps seated
    show (request.perform session).2.Spares kept
    generalize (request.perform session).2 = next at does
    cases does with
    | moves moves => exact spares.moves moves
    | registers template => exact ⟨spares.slots, spares.guards⟩
    | @uses place guard held operation =>
      have lent := spares.guards guard (List.mem_of_getElem? held)
      refine spares.hold place _ ?_ _
      by_cases bringing : ∃ overrides, operation = .override overrides
      · obtain ⟨overrides, rfl⟩ := bringing
        exact ⟨lent.resolver, brings⟩
      · have same : (operation.perform guard.runner session.world).1.toSetup =
            guard.runner.toSetup :=
          Operation.toSetup_perform (fun overrides same => bringing ⟨overrides, same⟩) _
        exact same ▸ lent

theorem dealt (spares : session.Spares kept) (keeps : session.pool.store.Keeps kept)
    (tabled : Tabled options made session.pool session.guards) {deals : List (Deal σ)}
    (brings : ∀ deal ∈ deals, deal.Brings kept) : (session.dealt deals).Spares kept := by
  induction deals generalizing session with
  | nil => exact spares
  | cons deal deals ih =>
    obtain ⟨here, later⟩ := List.forall_mem_cons.1 brings
    have same := store_perform tabled keeps deal
    exact ih (spares.perform keeps tabled here) (same ▸ keeps) (tabled_perform tabled deal) later

end Session.Spares

/-- The callables of a pool leave alone what is kept if those of the runners that it is made of
do. -/
theorem Session.spares_opened [Clocked σ] {made : List (Runner σ)}
    (setting : Setting kept store made) (options : PoolOptions) (world : σ) :
    (opened options store made world).Spares kept := by
  refine ⟨fun slot member runner there => ?_, List.forall_mem_nil _⟩
  obtain ⟨_, among, rfl⟩ := List.mem_map.1 member
  cases there
  exact (setting.runners runner among).spares

/-! ### A guard that is used for calls -/

/-- **A deal in which the guard of a slot is used for calls alone**, if at all. -/
def Deal.OnlyCalls (slot : Nat) (session : Session σ) (deal : Deal σ) : Prop :=
  ∀ (place : Nat) (guard : Guard σ), session.guards[place]? = some guard → guard.slot = slot →
    deal.Touches place → ∃ call payload, deal = .ask (.operate place (.call call payload))

/-- **A guard of a slot is out** with a key and a setup. -/
def Session.Lends (session : Session σ) (slot : Nat) (key : MachineKey) (setup : Setup σ) : Prop :=
  ∃ (place : Nat) (guard : Guard σ), session.guards[place]? = some guard ∧ guard.slot = slot ∧
    guard.key = some key ∧ guard.runner.toSetup = setup

/-- A guard with which a machine is lent has the key that was asked for. -/
theorem Session.Serves.keyed {session : Session σ} {key : MachineKey} {guard : Guard σ}
    (serves : session.Serves kept key guard) : guard.key = some key := by
  cases serves with
  | resident _ _ keyed => exact keyed
  | fetched _ keyed _ _ => exact keyed

section Calls

variable [Clocked σ] {options : PoolOptions} {made : List (Runner σ)} {session : Session σ}
  {request : Request σ} {key : MachineKey} {guard : Guard σ}

/-- The guard that is answered for a key is out after the others. -/
theorem Request.guards_of_asked (asked : request.asked? = some key)
    (lent : (request.perform session).1 = .ok (some guard)) :
    (request.perform session).2.guards = session.guards ++ [guard] := by
  have whole : (request.perform session).2.guards =
      session.guards ++ (Answer.guard? (request.perform session).1).toList := by
    cases request with
    | acquire _ | acquireCurrent _ => rfl
    | _ => cases asked
  rw [whole, lent]
  rfl

theorem Request.mem_guards_of_asked (asked : request.asked? = some key)
    (lent : (request.perform session).1 = .ok (some guard)) :
    guard ∈ (request.perform session).2.guards := by
  rw [guards_of_asked asked lent]
  exact List.mem_append_right _ List.mem_cons_self

/-- **The guard that is answered for a key is in tune** if the runners that are not lent are. -/
theorem Session.Tuned.lent (tuned : session.Tuned store)
    (tabled : Tabled options made session.pool session.guards) (keeps : store.Keeps kept)
    (asked : request.asked? = some key) (lent : (request.perform session).1 = .ok (some guard)) :
    guard.runner.Tuned store (some key) := by
  have shared : session.pool.store.Keeps kept := tuned.shared ▸ keeps
  have plain : request.IsPlain := by
    cases request with
    | acquire _ | acquireCurrent _ => exact trivial
    | _ => cases asked
  -- Its slot was not lent before, so it is none of the guards that were out.
  rcases (tuned.advances (Request.advances shared plain)).2 guard
    (Request.mem_guards_of_asked asked lent) with old | lentSo
  · have once := (leaves tabled request).1.once
    rw [Request.guards_of_asked asked lent, List.map_append, List.nodup_append] at once
    exact absurd rfl (once.2.2 guard.slot (List.mem_map_of_mem old) guard.slot List.mem_cons_self)
  · rw [← (request.serves shared asked lent).keyed]
    exact lentSo

/-- The guard that is answered for a key is out with it. -/
theorem Session.lends_of_asked (keeps : session.pool.store.Keeps kept)
    (asked : request.asked? = some key) (lent : (request.perform session).1 = .ok (some guard)) :
    (request.perform session).2.Lends guard.slot key guard.runner.toSetup := by
  obtain ⟨place, there⟩ := List.mem_iff_getElem?.1 (Request.mem_guards_of_asked asked lent)
  exact ⟨place, guard, there, rfl, (request.serves keeps asked lent).keyed, rfl⟩

/-- **A guard that is used for calls alone stays out** with its key and its setup. -/
theorem Session.Lends.perform {slot : Nat} {setup : Setup σ} (lends : session.Lends slot key setup)
    {deal : Deal σ} (only : deal.OnlyCalls slot session) :
    (deal.perform session).Lends slot key setup := by
  obtain ⟨place, guard, held, same, keyed, set⟩ := lends
  by_cases touched : deal.Touches place
  · obtain ⟨call, payload, rfl⟩ := only place guard held same touched
    show (Request.perform (.operate place (.call call payload)) session).2.Lends slot key setup
    rw [Request.perform_operate held]
    have inside := (List.getElem?_eq_some_iff.1 held).1
    refine ⟨place, _, List.getElem?_set_self inside, same, keyed, ?_⟩
    exact (guard.runner.toSetup_make call payload session.world).trans set
  · obtain ⟨other, there⟩ := List.mem_iff_getElem?.1 (mem_perform held touched)
    exact ⟨other, guard, there, same, keyed, set⟩

theorem Session.Lends.dealt {slot : Nat} {setup : Setup σ} (lends : session.Lends slot key setup)
    {deals : List (Deal σ)}
    (only : ∀ before deal, before ++ [deal] <+: deals →
      deal.OnlyCalls slot (session.dealt before)) : (session.dealt deals).Lends slot key setup :=
  dealt_keeps (P := fun session => session.Lends slot key setup)
    (fun _ _ lends only => lends.perform only) lends only

/-! ### What calls of a guard leave -/

/-- The world after a call of the guard at a place. -/
def Session.called (session : Session σ) (place : Nat) (call : Call) (payload : Value) : σ :=
  ((Request.operate place (.call call payload)).perform session).2.world

/-- **Calls of a guard are written**: each leaves the machine as of its last commit under the key,
and there is one if the call makes a transition. -/
def Session.Writes (kept : σ → MachineKey → Option Bytes) (session : Session σ) (place : Nat)
    (guard : Guard σ) (key : MachineKey) : Prop :=
  ∀ call payload blocks outcome,
    guard.runner.Conducts call payload session.world blocks outcome →
      kept (session.called place call payload) =
        savedUnder (kept session.world) key (lastCommitted? blocks.flatten) ∧
      (outcome.1 = .ok true → ∃ machine, lastCommitted? blocks.flatten = some machine ∧
        kept (session.called place call payload) key = some (machine.encode .binary))

/-- **Calls of a guard are not written**, even if they make transitions. -/
def Session.Forgets (kept : σ → MachineKey → Option Bytes) (session : Session σ) (place : Nat) :
    Prop :=
  ∀ call payload, kept (session.called place call payload) = kept session.world

variable {place : Nat} {blocks : List (List (Deed σ))} {call : Call} {payload : Value}

theorem Session.called_eq (held : session.guards[place]? = some guard) {outcome : Runner.Outcome σ}
    (conducts : guard.runner.Conducts call payload session.world blocks outcome) :
    session.called place call payload = outcome.2.2 := by
  obtain ⟨_, all⟩ := guard.runner.conducts_iff call payload session.world
  unfold called
  rw [Request.perform_operate held, ((all blocks outcome).1 conducts).2]
  rfl

/-- A guard in tune finds its calls written. -/
theorem Session.Spares.writes (spares : session.Spares kept)
    (keeps : store.Keeps kept) (saves : ∀ key bytes world, (store.save key bytes world).1 = .ok ())
    (clock : Clocked.Spares kept) (held : session.guards[place]? = some guard)
    (tuned : guard.runner.Tuned store (some key)) : session.Writes kept place guard key := by
  intro call payload blocks outcome conducts
  have callables := spares.guards guard (List.mem_of_getElem? held)
  have left := conducts.saves keeps saves clock callables tuned
  rw [called_eq held conducts]
  refine ⟨left, fun done => ?_⟩
  obtain ⟨machine, last⟩ := conducts.committed done
  refine ⟨machine, last, ?_⟩
  rw [left, last]
  exact Function.update_self ..

/-- A guard that is mute does not. -/
theorem Session.Spares.forgets (spares : session.Spares kept) (keeps : store.Keeps kept)
    (clock : Clocked.Spares kept) (held : session.guards[place]? = some guard)
    (mute : guard.runner.Mute kept) : session.Forgets kept place := by
  intro call payload
  obtain ⟨blocks, all⟩ := guard.runner.conducts_iff call payload session.world
  have conducts := (all _ _).2 ⟨rfl, rfl⟩
  rw [called_eq held conducts]
  exact conducts.spare keeps clock (spares.guards guard (List.mem_of_getElem? held)) mute

end Calls

/-! ### Any deals -/

section Whole

variable [Clocked σ] {made : List (Runner σ)}

end Whole

/-! ### A door that is forgotten -/

/-- A session with a pool of one runner that writes every commit, and nothing else. -/
def Session.autosaving : Session Memory :=
  opened { capacity := 1, flushOnRelease := false } Memory.store [{ resolver := .none }] ∅

/-- A door is known and lent. -/
def lentDoor : List (Deal Memory) := [.ask (.registerChart shutDoor), .ask (.acquire ownDoor)]

/-- The hook is taken from its runner, and the door is given back and lent again. -/
def relentDoor : List (Deal Memory) :=
  [.handle 0 (Handling.setFlushHook none).perform, .ask (.release 0), .ask (.acquire ownDoor)]

theorem brings_relentDoor :
    ∀ deal ∈ lentDoor ++ relentDoor, deal.Brings fun memory key => memory.get? key := by
  simp [lentDoor, relentDoor, Deal.Brings, Request.Spares]

end Statechart
