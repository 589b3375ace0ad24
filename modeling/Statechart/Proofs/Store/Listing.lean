/-
**What a directory lists.**

A directory lists the keys that the names of its files tell, and loads the dump of a key from the
file that has the key's name. Names are read with digits of either case, but a machine's file is
named in small letters. So whatever can be loaded is listed. What is listed can be loaded, and
stands there once, only if no file has a name that tells a key and is not the name of its file.

* `MachineKey.IsToldBy`: the names that tell a key.
* `MachineKey.ofFileName?_eq_some_iff`: a name is read as the key that it tells.
* `Directory.keys_listed`: what is listed, and when that is just what can be loaded.
-/

import Statechart.Proofs.Store.Calls
import Statechart.Proofs.Store.Naming
import Statechart.Proofs.Text.Symbols
import Mathlib.Data.List.Basic
import Mathlib.Data.List.Pairwise
import Mathlib.Data.List.TakeWhile

namespace Statechart

open Text

/-! ### Names that tell keys -/

namespace MachineKey

/-- **A name tells a key** if it is that of the key's file, be it with capitals before the ending. -/
def IsToldBy (key : MachineKey) (name : String) : Prop :=
  ∃ stem : List Char,
    name = String.ofList (stem ++ machineEnding) ∧ stem.map Char.toLower = key.stem

variable {key : MachineKey}

/-- Digits of either case give the text whose digits they are. -/
theorem hexText?_eq_some_iff {digits : List Char} {text : String} :
    hexText? digits = some text ↔ digits.map Char.toLower = hexChars (utf8 text) := by
  unfold hexText?
  rw [← ofHexChars?_eq_some_iff, Option.bind_eq_bind, Option.bind_eq_some_iff]
  constructor
  · rintro ⟨bytes, read, given⟩
    rw [read, utf8_of_ofUtf8? given]
  · intro read
    exact ⟨utf8 text, read, ofUtf8?_utf8 text⟩

/-- No other character has a point as its small letter. -/
theorem toLower_eq_point_iff {char : Char} : char.toLower = '.' ↔ char = '.' := by
  constructor
  · intro same
    have ascii : char.toNat < 128 := lt_of_toLower (by rw [same]; decide)
    have all : ∀ code : Fin 128, (Char.ofNat code).toLower = '.' → Char.ofNat code = '.' := by
      decide +kernel
    obtain ⟨code, rfl⟩ := exists_code ascii
    exact all code same
  · rintro rfl
    decide

/-- **What stands before an ending is read as the key that it tells.** -/
theorem ofStem?_eq_some_iff {stem : List Char} :
    ofStem? stem = some key ↔ stem.map Char.toLower = key.stem := by
  have pointless (text : String) : '.' ∉ hexChars (utf8 text) :=
    fun member => ne_point_of_mem_hexChars member rfl
  by_cases point : '.' ∈ stem
  · obtain ⟨owner, chartType, rfl, before⟩ := List.eq_append_cons_of_mem point
    have told : (owner ++ '.' :: chartType).map Char.toLower = key.stem ↔
        owner.map Char.toLower = hexChars (utf8 key.owner) ∧
          chartType.map Char.toLower = hexChars (utf8 key.chartType) := by
      unfold MachineKey.stem
      rw [List.map_append, List.map_cons, toLower_eq_point_iff.2 rfl, eq_comm,
        List.append_cons_inj_of_notMem (pointless _) (pointless _)]
      exact ⟨fun ⟨first, _, second⟩ => ⟨first.symm, second.symm⟩,
        fun ⟨first, second⟩ => ⟨first.symm, rfl, second.symm⟩⟩
    rw [ofStem?_append before, told, ← hexText?_eq_some_iff, ← hexText?_eq_some_iff]
    obtain ⟨owner', chartType'⟩ := key
    cases hexText? owner <;> cases hexText? chartType <;> simp
  · have unread : ofStem? stem = none := by
      have digits : ∀ digit ∈ stem, decide (digit ≠ '.') = true :=
        fun digit member => decide_eq_true fun same => point (same ▸ member)
      unfold ofStem?
      rw [List.dropWhile_eq_nil_iff.2 digits]
    rw [unread]
    refine ⟨fun read => (nomatch read), fun told => ?_⟩
    have member : '.' ∈ stem.map Char.toLower := by
      rw [told]
      exact List.mem_append_right _ List.mem_cons_self
    obtain ⟨char, among, same⟩ := List.mem_map.1 member
    exact absurd (toLower_eq_point_iff.1 same ▸ among) point

/-- **A name is read as the key that it tells.** -/
theorem ofFileName?_eq_some_iff {name : String} :
    ofFileName? name = some key ↔ key.IsToldBy name := by
  unfold ofFileName? IsToldBy
  rw [Option.bind_eq_bind, Option.bind_eq_some_iff]
  refine exists_congr fun stem => ?_
  rw [beforeEnding?_eq_some_iff, ofStem?_eq_some_iff, ← String.toList_inj, String.toList_ofList]

theorem isToldBy_fileName (key : MachineKey) : key.IsToldBy key.fileName :=
  ofFileName?_eq_some_iff.1 (ofFileName?_fileName key)

end MachineKey

/-! ### Listing and loading -/

namespace Directory

variable {directory : Directory} {key : MachineKey}

/-- Whether a directory gives bytes for a key. -/
def Loads (directory : Directory) (key : MachineKey) : Prop :=
  ∃ bytes, store.load key directory = (.ok (some bytes), directory)

/-- What is loaded is the file that has the name of the key. -/
theorem loads_iff : directory.Loads key ↔ key.fileName ∈ directory.keys := by
  rw [Dict.mem_keys_iff]
  refine exists_congr fun bytes => ?_
  show (Except.ok (directory.get? key.fileName), directory) = _ ↔ _
  rw [Prod.mk.injEq, and_iff_left rfl, Except.ok.injEq]

/-- **A key is listed if the name of a file tells it.** -/
theorem mem_machineKeys_iff :
    key ∈ directory.machineKeys ↔ ∃ name ∈ directory.keys, key.IsToldBy name := by
  unfold machineKeys MachineKey.sorted
  rw [List.mem_mergeSort, List.mem_filterMap]
  simp only [MachineKey.ofFileName?_eq_some_iff]

/-- **No key is listed twice if no two files have names that tell one key**, and only then. -/
theorem nodup_machineKeys_iff : directory.machineKeys.Nodup ↔
    ∀ name ∈ directory.keys, ∀ name' ∈ directory.keys, ∀ key : MachineKey,
      key.IsToldBy name → key.IsToldBy name' → name = name' := by
  have distinct : directory.keys.Nodup := directory.nodup_keys
  unfold machineKeys MachineKey.sorted
  rw [(List.mergeSort_perm _ _).nodup_iff, List.Nodup, List.pairwise_filterMap]
  simp only [MachineKey.ofFileName?_eq_some_iff]
  constructor
  · intro apart name member name' member' key told told'
    by_contra differ
    have symm : Std.Symm fun name name' : String => ∀ key : MachineKey, key.IsToldBy name →
        ∀ key' : MachineKey, key'.IsToldBy name' → key ≠ key' :=
      ⟨fun _ _ apart key told key' told' => (apart key' told' key told).symm⟩
    exact apart.forall member member' differ key told key told' rfl
  · intro single
    refine distinct.imp_of_mem fun {name name'} member member' differ key told key' told' same => ?_
    exact differ (single name member name' member' key told (same ▸ told'))

/-- **What a directory lists.** The keys ascend, and they are those that the names of files tell.
What can be loaded is among them. They are just that, and each of them once, if and only if the
names that tell keys are the names of their files. -/
theorem keys_listed (directory : Directory) :
    ∃ keys, store.keys directory = (.ok keys, directory) ∧
      keys.Pairwise (fun first second => ¬ second < first) ∧
      (∀ key, key ∈ keys ↔ ∃ name ∈ directory.keys, key.IsToldBy name) ∧
      (∀ key, directory.Loads key → key ∈ keys) ∧
      ((keys.Nodup ∧ ∀ key, key ∈ keys ↔ directory.Loads key) ↔
        ∀ name ∈ directory.keys, ∀ key : MachineKey, key.IsToldBy name → name = key.fileName) := by
  have found : ∀ key, directory.Loads key → key ∈ directory.machineKeys := fun key loads =>
    mem_machineKeys_iff.2 ⟨key.fileName, loads_iff.1 loads, key.isToldBy_fileName⟩
  refine ⟨directory.machineKeys, rfl, ?_, fun _ => mem_machineKeys_iff, found, ?_⟩
  · refine (MachineKey.pairwise_atMost_sorted _).imp fun {first second} below => ?_
    simpa [MachineKey.atMost] using below
  · constructor
    · rintro ⟨single, loaded⟩ name member key told
      have loads := (loaded key).1 (mem_machineKeys_iff.2 ⟨name, member, told⟩)
      exact nodup_machineKeys_iff.1 single name member key.fileName (loads_iff.1 loads) key told
        key.isToldBy_fileName
    · intro own
      refine ⟨nodup_machineKeys_iff.2 fun name member name' member' key told told' => ?_,
        fun key => ⟨fun listed => ?_, found key⟩⟩
      · rw [own name member key told, own name' member' key told']
      · obtain ⟨name, member, told⟩ := mem_machineKeys_iff.1 listed
        exact loads_iff.2 (own name member key told ▸ member)

-- A file whose name has a capital is listed for a key of which nothing is loaded.
example : let directory : Directory :=
      { entries := [("6F.63.chart", [])], ascending := List.pairwise_singleton .. }
    ⟨"o", "c"⟩ ∈ directory.machineKeys ∧ directory.get? (⟨"o", "c"⟩ : MachineKey).fileName = none :=
  by decide +kernel

end Directory

end Statechart
