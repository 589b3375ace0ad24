/-
**Directories keep dumps as memory does.**

What the files of a directory answer is what a dictionary answers, whatever the texts of the keys
are, apart from the one key that has no temporary file: no dump can be kept under it. The other
files of the directory stay as they are.

* `OpenStore.Remembers.step`: a call of a store in memory.
* `Directory.Holds`: which files a directory has.
* `OpenStore.Files.step`: a call of the store of a directory.
* `StoreCall.performAll_refines`: a directory and a dictionary, asked the same.
-/

import Statechart.Proofs.Files.Making
import Statechart.Proofs.Store.Calls
import Statechart.Proofs.Store.Naming

namespace Statechart

/-! ### Dictionaries -/

/-- Whether a store in memory keeps just that. -/
def OpenStore.Remembers (place : OpenStore) (kept : Kept) : Prop :=
  place.store = Storage.memoryStore ∧ ∀ key, place.storage.memory.get? key = kept key

/-- A call of a store in memory is answered as expected. -/
theorem OpenStore.Remembers.step {options : StorageOptions} (memory : options.backend = .memory)
    {place : OpenStore} {kept : Kept} (remembers : place.Remembers kept) (call : StoreCall) :
    call.Expects (fun _ => false) kept (call.perform options place).1 ∧
      (call.perform options place).2.Remembers (call.keep (fun _ => false) kept) := by
  obtain ⟨store, storage⟩ := place
  obtain ⟨rfl, holds⟩ := remembers
  dsimp only at holds
  cases call with
  | save key bytes =>
    refine ⟨rfl, rfl, fun other => ?_⟩
    refine (Dict.get?_insert storage.memory key other bytes).trans ?_
    rw [holds other]
    show _ = Function.update kept key (some bytes) other
    rw [Function.update_apply]
    exact if_congr eq_comm rfl rfl
  | load key => exact ⟨congrArg Except.ok (holds key), rfl, holds⟩
  | remove key =>
    refine ⟨?_, rfl, fun other => ?_⟩
    · exact congrArg (fun found => Except.ok (Option.isSome found)) (holds key)
    · refine (Dict.get?_erase storage.memory key other).trans ?_
      rw [holds other]
      show _ = Function.update kept key none other
      rw [Function.update_apply]
      exact if_congr eq_comm rfl rfl
  | keys =>
    refine ⟨⟨storage.memory.keys, rfl, ?_, fun key => ?_⟩, rfl, holds⟩
    · exact List.pairwise_map.2 storage.memory.ascending
    · rw [Dict.mem_keys_iff, ← holds key, Option.isSome_iff_exists]
  | reopen =>
    unfold StoreCall.perform StorageOptions.openStore
    rw [memory]
    exact ⟨rfl, rfl, holds⟩

/-! ### Directories -/

/-- Files that are none of a store's: no name of theirs tells a key, and none is that of a machine's
file or of a temporary file. -/
structure Directory.Foreign (directory : Directory) : Prop where
  unrecognised : ∀ name ∈ directory.keys, MachineKey.ofFileName? name = none
  unused : ∀ name ∈ directory.keys, ∀ key : MachineKey,
    name ≠ key.fileName ∧ name ≠ key.temporaryName

/-- The files of a directory are those that were there at first and those of the machines of which
something is kept. -/
structure Directory.Holds (initial : Directory) (kept : Kept) (directory : Directory) : Prop where
  machines : ∀ key : MachineKey, directory.get? key.fileName = kept key
  others : ∀ name, (∀ key : MachineKey, name ≠ key.fileName) →
    directory.get? name = initial.get? name

namespace Directory

variable {initial directory : Directory} {kept : Kept} {key : MachineKey} {bytes : Bytes}

theorem Foreign.get?_eq_none (foreign : initial.Foreign) {name : String}
    (used : name = key.fileName ∨ name = key.temporaryName) : initial.get? name = none := by
  rw [Option.eq_none_iff_forall_ne_some]
  intro bytes found
  have apart := foreign.unused name (Dict.mem_keys_iff.2 ⟨bytes, found⟩) key
  exact used.elim apart.1 apart.2

/-- At first nothing is kept. -/
theorem Foreign.holds (foreign : initial.Foreign) : Holds initial (fun _ => none) initial where
  machines _ := foreign.get?_eq_none (.inl rfl)
  others _ _ := rfl

namespace Holds

/-- A dump is kept where the name of its file is allowed, unless its key has no temporary file. -/
theorem save (foreign : initial.Foreign) (holds : Holds initial kept directory)
    (allowed : allows key.fileName = true) (named : key ≠ .nameless) :
    (directory.save key bytes).1 = .ok () ∧
      Holds initial (Function.update kept key (some bytes)) (directory.save key bytes).2 := by
  have saved : directory.save key bytes =
      (.ok (), (directory.erase key.temporaryName).insert key.fileName bytes) := by
    unfold Directory.save
    rw [(MachineKey.canWrite_temporaryName_iff allowed).2 named, if_pos rfl, allowed, if_pos rfl]
  rw [saved]
  refine ⟨rfl, fun other => ?_, fun name apart => ?_⟩
  · rw [Dict.get?_insert, Dict.get?_erase, if_neg (MachineKey.temporaryName_ne_fileName key other),
      holds.machines, Function.update_apply]
    exact if_congr (MachineKey.fileName_injective.eq_iff.trans eq_comm) rfl rfl
  · rw [Dict.get?_insert, if_neg (Ne.symm (apart key)), Dict.get?_erase]
    split
    · next same => exact (foreign.get?_eq_none (.inr same.symm)).symm
    · exact holds.others name apart

/-- Nothing is kept under the key that has no temporary file. -/
theorem save_nameless (directory : Directory) (bytes : Bytes) :
    directory.save .nameless bytes = (.error .system, directory) := by
  unfold Directory.save canWrite
  rw [MachineKey.isStep_temporaryName_iff.2 rfl, Bool.not_true, Bool.and_false]
  exact if_neg Bool.false_ne_true

theorem remove (holds : Holds initial kept directory) :
    Holds initial (Function.update kept key none) (directory.erase key.fileName) where
  machines other := by
    rw [Dict.get?_erase, holds.machines, Function.update_apply]
    exact if_congr (MachineKey.fileName_injective.eq_iff.trans eq_comm) rfl rfl
  others name apart := by
    rw [Dict.get?_erase, if_neg (Ne.symm (apart key)), holds.others name apart]

/-- A file whose name tells a key is the file of that machine. -/
theorem fileName_of_mem (foreign : initial.Foreign) (holds : Holds initial kept directory)
    {name : String} (member : name ∈ directory.keys)
    (told : MachineKey.ofFileName? name = some key) : name = key.fileName := by
  obtain ⟨bytes, found⟩ := Dict.mem_keys_iff.1 member
  by_cases machine : ∃ other : MachineKey, name = other.fileName
  · obtain ⟨other, rfl⟩ := machine
    rw [MachineKey.ofFileName?_fileName] at told
    rw [Option.some.inj told]
  · rw [holds.others name fun other same => machine ⟨other, same⟩] at found
    rw [foreign.unrecognised name (Dict.mem_keys_iff.2 ⟨bytes, found⟩)] at told
    cases told

/-- **The keys that the names tell are those under which something is kept.** -/
theorem mem_machineKeys_iff (foreign : initial.Foreign) (holds : Holds initial kept directory) :
    key ∈ directory.machineKeys ↔ (kept key).isSome = true := by
  unfold machineKeys MachineKey.sorted
  rw [List.mem_mergeSort, List.mem_filterMap, ← holds.machines key, Option.isSome_iff_exists,
    ← Dict.mem_keys_iff]
  constructor
  · rintro ⟨name, member, told⟩
    exact holds.fileName_of_mem foreign member told ▸ member
  · exact fun member => ⟨key.fileName, member, MachineKey.ofFileName?_fileName key⟩

theorem pairwise_machineKeys (foreign : initial.Foreign) (holds : Holds initial kept directory) :
    directory.machineKeys.Pairwise (· < ·) := by
  refine MachineKey.pairwise_sorted ?_
  have distinct : directory.keys.Nodup := directory.nodup_keys
  unfold List.Nodup at distinct ⊢
  rw [List.pairwise_filterMap]
  refine distinct.imp_of_mem fun {name name'} member member' differ key told key' told' same => ?_
  refine differ ?_
  rw [holds.fileName_of_mem foreign member told, holds.fileName_of_mem foreign member' told', same]

end Holds

end Directory

/-- Whether a key has no temporary file. -/
def MachineKey.isNameless (key : MachineKey) : Bool := key = .nameless

/-- Whether the store of a directory is open, whose files are those that were there at first and
those of the machines of which something is kept. -/
structure OpenStore.Files (options : StorageOptions) (directory : String) (initial : Directory)
    (place : OpenStore) (kept : Kept) : Prop where
  store : place.store = Storage.fileStore directory
  /-- The store is the same when it is opened anew. -/
  made : place.storage.files.createDirectories options.machinesDirectory =
    .ok (directory, place.storage.files)
  holds : Directory.Holds initial kept (place.storage.files.directoryAt directory)

namespace OpenStore.Files

variable {options : StorageOptions} {directory : String} {initial : Directory} {place : OpenStore}
  {kept kept' : Kept}

/-- The store of a directory that has other files now. -/
theorem withDirectory (files : Files options directory initial place kept) {later : Directory}
    (holds : Directory.Holds initial kept' later) :
    Files options directory initial
      { place with storage.files := place.storage.files.withDirectory directory later } kept' where
  store := files.store
  made := FileTree.createDirectories_again files.made fun _ => FileTree.isDirectory_withDirectory
  holds := by
    dsimp only
    rw [FileTree.directoryAt_withDirectory_self]
    exact holds

/-- A call of the store of a directory is answered as expected. -/
theorem step (file : options.backend = .file) (foreign : initial.Foreign)
    (files : Files options directory initial place kept) {call : StoreCall}
    (accepted : ∀ key bytes, call = .save key bytes → Directory.allows key.fileName = true) :
    call.Expects MachineKey.isNameless kept (call.perform options place).1 ∧
      Files options directory initial (call.perform options place).2
        (call.keep MachineKey.isNameless kept) := by
  obtain ⟨store, storage⟩ := place
  obtain rfl := files.store
  have machines := files.holds.machines
  have same := files.withDirectory files.holds
  cases call with
  | save key bytes =>
    have left : (StoreCall.save key bytes).perform options
          { store := Storage.fileStore directory, storage } =
        (.saved ((storage.files.directoryAt directory).save key bytes).1,
          { store := Storage.fileStore directory,
            storage.files := storage.files.withDirectory directory
              ((storage.files.directoryAt directory).save key bytes).2,
            storage.memory := storage.memory }) := rfl
    rw [left]
    by_cases named : key = .nameless
    · subst named
      rw [Directory.Holds.save_nameless]
      exact ⟨rfl, same⟩
    · have taken : key.isNameless = false := decide_eq_false named
      obtain ⟨answer, holds⟩ := files.holds.save foreign (accepted key bytes rfl) named
      unfold StoreCall.Expects StoreCall.keep
      dsimp only
      rw [taken]
      exact ⟨answer, files.withDirectory holds⟩
  | load key => exact ⟨congrArg Except.ok (machines key), same⟩
  | remove key =>
    refine ⟨?_, files.withDirectory files.holds.remove⟩
    exact congrArg (fun found => Except.ok (Option.isSome found)) (machines key)
  | keys =>
    refine ⟨⟨_, rfl, files.holds.pairwise_machineKeys foreign, fun key => ?_⟩, same⟩
    exact files.holds.mem_machineKeys_iff foreign
  | reopen =>
    have opened : options.openStore storage = (.ok (Storage.fileStore directory), storage) := by
      unfold StorageOptions.openStore
      rw [file, files.made]
    unfold StoreCall.perform
    rw [opened]
    exact ⟨rfl, files⟩

end OpenStore.Files

/-! ### Both, asked the same -/

namespace StoreCall

variable {options : StorageOptions} {storage : Storage} {directory : String} {files : FileTree}
  {calls : List StoreCall}

/-- The store of a directory is open once the directory is made. -/
theorem openStore_file (file : options.backend = .file)
    (made : storage.files.createDirectories options.machinesDirectory = .ok (directory, files)) :
    options.openStore storage = (.ok (Storage.fileStore directory), { storage with files }) := by
  unfold StorageOptions.openStore
  rw [file]
  dsimp only
  rw [made]

/-- **A directory and a dictionary that are asked the same give the same answers, unless something
is to be kept under the key of two empty texts.** A load gives what was saved last and is not
removed since, a removal tells whether there was something, and the keys of what is kept are listed
in strictly ascending order. The directory keeps nothing under the one key and otherwise answers as
if that had not been asked. No temporary file is taken for that of a machine or left behind, and the
files that are none of the store's stay as they were. -/
theorem performAll_refines (file : options.backend = .file)
    (made : storage.files.createDirectories options.machinesDirectory = .ok (directory, files))
    (foreign : (storage.files.directoryAt directory).Foreign)
    (accepted : ∀ key bytes, .save key bytes ∈ calls → Directory.allows key.fileName = true) :
    options.openStore storage = (.ok (Storage.fileStore directory), { storage with files }) ∧
      let left := performAll options
        { store := Storage.fileStore directory, storage := { storage with files } } calls
      let remembered := performAll { options with backend := .memory }
        { store := Storage.memoryStore, storage := {} } calls
      let kept := keepAll MachineKey.isNameless (fun _ => none) calls
      Answered (fun _ => false) (fun _ => none) calls remembered.1 ∧
        Answered MachineKey.isNameless (fun _ => none) calls left.1 ∧
        (left.1 = remembered.1 ↔ ∀ bytes, .save .nameless bytes ∉ calls) ∧
        (∀ key : MachineKey, MachineKey.ofFileName? key.temporaryName = none ∧
          ∀ other : MachineKey, key.temporaryName ≠ other.fileName) ∧
        Directory.Holds (storage.files.directoryAt directory) kept
          (left.2.storage.files.directoryAt directory) := by
  have start : OpenStore.Files options directory (storage.files.directoryAt directory)
      { store := Storage.fileStore directory, storage := { storage with files } } fun _ => none :=
    { store := rfl
      made := FileTree.createDirectories_again made fun _ => id
      holds := by
        rw [FileTree.directoryAt_createDirectories made]
        exact foreign.holds }
  have fileAnswers := answered_of_step
    (fun call member {place kept} (sound : OpenStore.Files options directory _ place kept) =>
      sound.step file foreign fun key bytes same => accepted key bytes (same ▸ member)) start
  have blank : OpenStore.Remembers { store := Storage.memoryStore, storage := {} } fun _ => none :=
    ⟨rfl, fun _ => rfl⟩
  have memory : ({ options with backend := .memory } : StorageOptions).backend = .memory := rfl
  have memoryAnswers := answered_of_step
    (fun call (_ : call ∈ calls) {place kept} (sound : OpenStore.Remembers place kept) =>
      sound.step memory call) blank
  refine ⟨openStore_file file made, memoryAnswers.1, fileAnswers.1, ?_, fun key =>
    ⟨key.ofFileName?_temporaryName, key.temporaryName_ne_fileName⟩, fileAnswers.2.holds⟩
  rw [answers_eq_iff fileAnswers.1 memoryAnswers.1]
  unfold MachineKey.isNameless
  constructor
  · intro agrees bytes member
    exact absurd (agrees .nameless bytes member) (by decide)
  · rintro never key bytes member
    refine decide_eq_false ?_
    rintro rfl
    exact never bytes member

/-- A working directory where the directory of a store has a file that is none of the store's. -/
def besideNotes : Storage where
  files.directories :=
    { entries :=
        [("data", ∅), ("data/machines",
          { entries := [("notes", [1])], ascending := List.pairwise_singleton ..})]
      ascending := by unfold Ascending; decide }

/-- Calls with keys of which some have an empty text. -/
def slashedCalls : List StoreCall :=
  [.save ⟨"", "../é"⟩ [1, 2], .keys, .reopen, .load ⟨"", "../é"⟩, .remove ⟨"a.b", ""⟩]

/-- Beside a file of notes, such calls are answered as they are in memory. -/
theorem performAll_refines_notes :
    (performAll {} { store := Storage.fileStore "data/machines", storage := besideNotes }
        slashedCalls).1 =
      (performAll { backend := .memory } { store := Storage.memoryStore, storage := {} }
        slashedCalls).1 := by
  have made : besideNotes.files.createDirectories ({} : StorageOptions).machinesDirectory =
      .ok ("data/machines", besideNotes.files) :=
    FileTree.createDirectories_default (by decide) (by decide)
  have notes : ∀ name ∈ (besideNotes.files.directoryAt "data/machines").keys, name = "notes" := by
    decide
  have foreign : (besideNotes.files.directoryAt "data/machines").Foreign := by
    refine ⟨fun name member => ?_, fun name member key => ?_⟩
    · rw [notes name member]
      decide
    · rw [notes name member]
      refine ⟨fun same => ?_, MachineKey.ne_temporaryName (by decide) (by decide) key⟩
      have told := MachineKey.ofFileName?_fileName key
      rw [← same] at told
      cases told
  refine (performAll_refines rfl made foreign ?_).2.2.2.1.2 fun bytes member => ?_
  · intro key bytes member
    simp only [slashedCalls, List.mem_cons, StoreCall.save.injEq, reduceCtorEq, or_false,
      List.not_mem_nil] at member
    rw [member.1]
    decide
  · simp [slashedCalls, MachineKey.nameless] at member

end StoreCall

end Statechart
