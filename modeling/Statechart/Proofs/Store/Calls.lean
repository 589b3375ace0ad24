/-
**Calls of stores.**

Dumps are kept, loaded, removed and listed, and the store is opened anew from time to time. What is
to be answered follows from what is kept: what was saved last under each key and is not removed
since. Some keys may be refused, under which nothing is ever kept.

* `StoreCall.Expects`, `StoreCall.keep`: what a call is to be answered, and what is kept afterwards.
* `StoreCall.answered_of_step`: calls that are answered as expected one by one.
* `StoreCall.answers_eq_iff`: when two stores give the same answers.
-/

import Statechart.Config.Loading
import Statechart.Proofs.Dict
import Mathlib.Logic.Function.Basic

namespace Statechart

/-! ### Keys in order -/

/-- Keys that are sorted ascend. -/
theorem MachineKey.pairwise_atMost_sorted (keys : List MachineKey) :
    (MachineKey.sorted keys).Pairwise fun first second => first.atMost second := by
  have trans : ∀ first second third : MachineKey, first.atMost second = true →
      second.atMost third = true → first.atMost third = true := by
    intro first second third below above
    unfold MachineKey.atMost at below above ⊢
    rw [Bool.not_eq_true', decide_eq_false_iff_not] at below above ⊢
    intro less
    by_cases same : second = first
    · exact above (same ▸ less)
    · exact above (StrictOrder.trans less (StrictOrder.connected same below))
  have total : ∀ first second : MachineKey,
      (first.atMost second || second.atMost first) = true := by
    intro first second
    unfold MachineKey.atMost
    rw [Bool.or_eq_true, Bool.not_eq_true', Bool.not_eq_true', decide_eq_false_iff_not,
      decide_eq_false_iff_not]
    by_cases less : second < first
    · exact .inr fun greater => StrictOrder.irrefl _ (StrictOrder.trans less greater)
    · exact .inl less
  exact List.pairwise_mergeSort trans total keys

/-- Keys that are sorted ascend strictly if none is there twice. -/
theorem MachineKey.pairwise_sorted {keys : List MachineKey} (distinct : keys.Nodup) :
    (MachineKey.sorted keys).Pairwise (· < ·) := by
  have nodup : (MachineKey.sorted keys).Nodup := (List.mergeSort_perm keys _).nodup_iff.2 distinct
  refine ((MachineKey.pairwise_atMost_sorted keys).and nodup).imp ?_
  rintro first second ⟨below, differ⟩
  unfold MachineKey.atMost at below
  rw [Bool.not_eq_true', decide_eq_false_iff_not] at below
  exact StrictOrder.connected (Ne.symm differ) below

/-- Strictly ascending keys are told by which ones they are. -/
theorem MachineKey.eq_of_pairwise {first second : List MachineKey}
    (ascending : first.Pairwise (· < ·)) (ascending' : second.Pairwise (· < ·))
    (same : ∀ key, key ∈ first ↔ key ∈ second) : first = second := by
  have distinct : ∀ {keys : List MachineKey}, keys.Pairwise (· < ·) → keys.Nodup :=
    fun ascending => ascending.imp fun {first second} less (equal : first = second) =>
      StrictOrder.irrefl second (equal ▸ less)
  refine List.Perm.eq_of_pairwise (fun key key' _ _ less less' => ?_) ascending ascending' ?_
  · exact absurd (StrictOrder.trans less less') (StrictOrder.irrefl _)
  · exact (List.perm_ext_iff_of_nodup (distinct ascending) (distinct ascending')).2 same

/-! ### Calls and answers -/

/-- Something that is asked of a store. -/
inductive StoreCall
  | save (key : MachineKey) (bytes : Bytes)
  | load (key : MachineKey)
  | remove (key : MachineKey)
  | keys
  /-- The store is opened anew. -/
  | reopen

/-- What is answered to a call. -/
inductive StoreAnswer
  | saved (result : Except IoFault Unit)
  | loaded (result : Except IoFault (Option Bytes))
  | removed (result : Except IoFault Bool)
  | listed (result : Except IoFault (List MachineKey))
  | opened (result : Except IoFault Unit)

/-- A store that is open, and what it works on. -/
structure OpenStore where
  store : MachineStore Storage
  storage : Storage

/-- What is kept under each key. -/
abbrev Kept := MachineKey → Option Bytes

namespace StoreCall

/-- What is answered to a call, and the store afterwards. -/
def perform (options : StorageOptions) (place : OpenStore) : StoreCall → StoreAnswer × OpenStore
  | save key bytes =>
    let (result, storage) := place.store.save key bytes place.storage
    (.saved result, { place with storage })
  | load key =>
    let (result, storage) := place.store.load key place.storage
    (.loaded result, { place with storage })
  | remove key =>
    let (result, storage) := place.store.remove key place.storage
    (.removed result, { place with storage })
  | keys =>
    let (result, storage) := place.store.keys place.storage
    (.listed result, { place with storage })
  | reopen =>
    match options.openStore place.storage with
    | (.error fault, storage) => (.opened (.error fault), { place with storage })
    | (.ok store, storage) => (.opened (.ok ()), { store, storage })

/-- What is answered to several calls, and the store after the last one. -/
def performAll (options : StorageOptions) (place : OpenStore) :
    List StoreCall → List StoreAnswer × OpenStore
  | [] => ([], place)
  | call :: calls =>
    let (answer, place) := call.perform options place
    let (answers, place) := performAll options place calls
    (answer :: answers, place)

/-- Whether an answer is the one to a call where something is kept and nothing is taken under the
keys that are refused. -/
def Expects (refused : MachineKey → Bool) (kept : Kept) : StoreCall → StoreAnswer → Prop
  | save key _, .saved result => result = if refused key then .error .system else .ok ()
  | load key, .loaded result => result = .ok (kept key)
  | remove key, .removed result => result = .ok (kept key).isSome
  | keys, .listed result => ∃ keys, result = .ok keys ∧
      keys.Pairwise (· < ·) ∧ ∀ key, key ∈ keys ↔ (kept key).isSome = true
  | reopen, .opened result => result = .ok ()
  | _, _ => False

/-- What is kept after a call. -/
def keep (refused : MachineKey → Bool) (kept : Kept) : StoreCall → Kept
  | save key bytes => if refused key then kept else Function.update kept key (some bytes)
  | remove key => Function.update kept key none
  | _ => kept

/-- What is kept after several calls. -/
def keepAll (refused : MachineKey → Bool) (kept : Kept) (calls : List StoreCall) : Kept :=
  calls.foldl (keep refused) kept

/-- Whether each call is answered as expected. -/
inductive Answered (refused : MachineKey → Bool) : Kept → List StoreCall → List StoreAnswer → Prop
  | nil {kept : Kept} : Answered refused kept [] []
  | cons {kept : Kept} {call : StoreCall} {calls : List StoreCall} {answer : StoreAnswer}
      {answers : List StoreAnswer} (expected : call.Expects refused kept answer)
      (later : Answered refused (call.keep refused kept) calls answers) :
      Answered refused kept (call :: calls) (answer :: answers)

variable {refused refused' : MachineKey → Bool} {kept : Kept} {call : StoreCall}
  {calls : List StoreCall}

/-- There is one answer to expect. -/
theorem Expects.unique {answer answer' : StoreAnswer} (expected : call.Expects refused kept answer)
    (expected' : call.Expects refused kept answer') : answer = answer' := by
  cases call with
  | keys =>
    cases answer <;> cases answer' <;> try exact expected.elim
    all_goals try exact expected'.elim
    obtain ⟨keys, rfl, ascending, members⟩ := expected
    obtain ⟨keys', rfl, ascending', members'⟩ := expected'
    have same : keys = keys' := MachineKey.eq_of_pairwise ascending ascending' fun key =>
      (members key).trans (members' key).symm
    rw [same]
  | save | load | remove | reopen =>
    cases answer <;> cases answer' <;> try exact expected.elim
    all_goals try exact expected'.elim
    exact congrArg _ (expected.trans expected'.symm)

/-- A save is answered otherwise where its key is refused. -/
theorem refused_eq_of_expects {kept' : Kept} {key : MachineKey} {bytes : Bytes}
    {answer : StoreAnswer} (expected : (save key bytes).Expects refused kept answer)
    (expected' : (save key bytes).Expects refused' kept' answer) : refused key = refused' key := by
  cases answer with
  | saved result =>
    have same := Eq.trans (Eq.symm expected) expected'
    cases first : refused key <;> cases second : refused' key <;>
      first
      | rfl
      | (rw [first, second] at same; cases same)
  | _ => exact expected.elim

/-- Where both refuse alike, the same is expected and kept. -/
theorem alike_of_refused_eq
    (agrees : ∀ key bytes, call = save key bytes → refused key = refused' key) (kept : Kept) :
    call.Expects refused kept = call.Expects refused' kept ∧
      call.keep refused kept = call.keep refused' kept := by
  cases call with
  | save key bytes =>
    have same := agrees key bytes rfl
    refine ⟨?_, ?_⟩
    · funext answer
      cases answer <;> simp only [Expects, same]
    · simp only [keep, same]
  | _ =>
    refine ⟨?_, rfl⟩
    funext answer
    cases answer <;> rfl

/-- **Two stores answer alike if and only if they refuse alike where something is saved.** -/
theorem answers_eq_iff {answers answers' : List StoreAnswer}
    (answered : Answered refused kept calls answers)
    (answered' : Answered refused' kept calls answers') :
    answers = answers' ↔ ∀ key bytes, save key bytes ∈ calls → refused key = refused' key := by
  induction calls generalizing kept answers answers' with
  | nil =>
    cases answered
    cases answered'
    exact iff_of_true rfl fun _ _ member => absurd member List.not_mem_nil
  | cons call calls ih =>
    obtain ⟨⟩ | ⟨expected, later⟩ := answered
    obtain ⟨⟩ | ⟨expected', later'⟩ := answered'
    rw [List.cons.injEq]
    constructor
    · rintro ⟨rfl, rfl⟩ key bytes member
      have agrees : ∀ key bytes, call = save key bytes → refused key = refused' key := by
        rintro key bytes rfl
        exact refused_eq_of_expects expected expected'
      rcases List.mem_cons.1 member with same | among
      · exact agrees key bytes same.symm
      · rw [← (alike_of_refused_eq agrees kept).2] at later'
        exact (ih later later').1 rfl key bytes among
    · intro agrees
      have first : ∀ key bytes, call = save key bytes → refused key = refused' key :=
        fun key bytes same => agrees key bytes (same ▸ List.mem_cons_self)
      obtain ⟨expects, keeps⟩ := alike_of_refused_eq first kept
      rw [← expects] at expected'
      rw [← keeps] at later'
      refine ⟨expected.unique expected', (ih later later').2 fun key bytes member => ?_⟩
      exact agrees key bytes (List.mem_cons_of_mem _ member)

/-- **Where each call is answered as expected, so are several ones.** What is sound before a call is
sound after it, for what is kept then. -/
theorem answered_of_step {options : StorageOptions} {sound : OpenStore → Kept → Prop}
    (step : ∀ call ∈ calls, ∀ {place : OpenStore} {kept : Kept}, sound place kept →
      call.Expects refused kept (call.perform options place).1 ∧
        sound (call.perform options place).2 (call.keep refused kept))
    {place : OpenStore} (start : sound place kept) :
    Answered refused kept calls (performAll options place calls).1 ∧
      sound (performAll options place calls).2 (keepAll refused kept calls) := by
  induction calls generalizing place kept with
  | nil => exact ⟨.nil, start⟩
  | cons call calls ih =>
    obtain ⟨expected, next⟩ := step call List.mem_cons_self start
    obtain ⟨later, final⟩ :=
      ih (fun other member => step other (List.mem_cons_of_mem _ member)) next
    exact ⟨.cons expected later, final⟩

end StoreCall

end Statechart
