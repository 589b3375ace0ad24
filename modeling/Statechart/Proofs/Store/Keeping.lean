/-
**Stores of files keep dumps.**

A directory keeps the dump of each key in the file of its name, whatever other files are there, and
a store that is kept in a part of a world keeps what it keeps there.

* `Directory.keeps`: what a directory keeps.
* `MachineStore.Keeps.within`: what a store keeps in a part of a world.
-/

import Statechart.Proofs.Files.Making
import Statechart.Proofs.Pool.Session
import Statechart.Proofs.Store.Naming
import Statechart.Config.Loading

namespace Statechart

variable {σ τ : Type}

/-- A save leaves what is kept under other keys, even if it fails half way. -/
theorem Directory.keeps :
    Directory.store.Keeps fun directory key => directory.get? key.fileName where
  loaded := by
    intro key directory directory' found loaded
    cases loaded
    rfl
  quiet _ _ := rfl
  saved := by
    intro key bytes directory directory' saved
    change Directory.save key bytes directory = _ at saved
    unfold Directory.save at saved
    split at saved
    · split at saved
      · cases saved
        funext other
        rw [Dict.get?_insert, Dict.get?_erase,
          if_neg (MachineKey.temporaryName_ne_fileName key other), Function.update_apply]
        exact if_congr (MachineKey.fileName_injective.eq_iff.trans eq_comm) rfl rfl
      · cases saved
    · cases saved
  refused := by
    intro key bytes directory directory' fault refused
    change Directory.save key bytes directory = _ at refused
    unfold Directory.save at refused
    split at refused
    · split at refused
      · cases refused
      · cases refused
        funext other
        rw [Dict.get?_insert, if_neg (MachineKey.temporaryName_ne_fileName key other)]
    · cases refused
      rfl

/-- **A store that is kept in a part of a world keeps what it keeps there.** -/
theorem MachineStore.Keeps.within {store : MachineStore τ} {kept : τ → MachineKey → Option Bytes}
    (keeps : store.Keeps kept) {get : σ → τ} {set : τ → σ → σ}
    (got : ∀ part world, get (set part world) = part) :
    (store.within get set).Keeps fun world => kept (get world) where
  loaded := by
    intro key world world' found loaded
    obtain ⟨read, -⟩ := Prod.mk.inj loaded
    exact keeps.loaded (Prod.ext read rfl)
  quiet key world := by
    show kept (get (set _ world)) = _
    rw [got]
    exact keeps.quiet key (get world)
  saved := by
    intro key bytes world world' saved
    obtain ⟨done, rfl⟩ := Prod.mk.inj saved
    rw [got]
    exact keeps.saved (Prod.ext done rfl)
  refused := by
    intro key bytes world world' fault refused
    obtain ⟨failed, rfl⟩ := Prod.mk.inj refused
    rw [got]
    exact keeps.refused (Prod.ext failed rfl)

/-- What a directory of a storage keeps under a key. -/
def Storage.dumpAt (directory : String) (storage : Storage) (key : MachineKey) : Option Bytes :=
  (storage.files.directoryAt directory).get? key.fileName

/-- The store of a directory keeps the files of the directory. -/
theorem Storage.fileStore_keeps (directory : String) :
    (Storage.fileStore directory).Keeps (Storage.dumpAt directory) :=
  Directory.keeps.within fun _ _ => FileTree.directoryAt_withDirectory_self ..

end Statechart
