/-
**Directories that are made.**

The directories of a path are made where they are missing and have no files then, so what the files
of any directory are stays as it was. They are there afterwards whatever is done with files, and the
same path leads to the same directory again.

* `FileTree.directoryAt_makeEach`: making directories changes no files.
* `FileTree.createDirectories_again`: what was made is found when it is to be made again.
-/

import Statechart.Files.Tree
import Statechart.Store.Options

namespace Statechart.FileTree

variable {tree tree' later : FileTree} {path other : String} {directory : Directory}

theorem directoryAt_withDirectory_self (tree : FileTree) (path : String) (directory : Directory) :
    (tree.withDirectory path directory).directoryAt path = directory := by
  unfold directoryAt withDirectory
  rw [Dict.get?_insert, if_pos rfl]
  rfl

theorem directoryAt_withDirectory_of_ne (differ : path ≠ other) :
    (tree.withDirectory path directory).directoryAt other = tree.directoryAt other := by
  unfold directoryAt withDirectory
  rw [Dict.get?_insert, if_neg differ]

/-- A directory that is there has some files. -/
theorem isDirectory_iff : tree.isDirectory path = true ↔
    FilePath.isGiven path = true ∨ ∃ directory, tree.directories.get? path = some directory := by
  unfold isDirectory Dict.contains
  rw [Bool.or_eq_true, Option.isSome_iff_exists]

/-- Directories stay when one is given its files. -/
theorem isDirectory_withDirectory (there : tree.isDirectory other = true) :
    (tree.withDirectory path directory).isDirectory other = true := by
  rw [isDirectory_iff] at there ⊢
  refine there.imp_right fun ⟨files, found⟩ => ?_
  unfold withDirectory
  rw [Dict.get?_insert]
  split
  · exact ⟨directory, rfl⟩
  · exact ⟨files, found⟩

theorem isDirectory_withDirectory_self : (tree.withDirectory path directory).isDirectory path =
    true := by
  refine isDirectory_iff.2 (.inr ⟨directory, ?_⟩)
  unfold withDirectory
  rw [Dict.get?_insert, if_pos rfl]

/-- A directory that is missing has no files. -/
theorem directoryAt_of_not_isDirectory (missing : ¬ tree.isDirectory path = true) :
    tree.directoryAt path = ∅ := by
  rw [isDirectory_iff, not_or, not_exists] at missing
  unfold directoryAt
  rw [Option.eq_none_iff_forall_ne_some.2 missing.2]
  rfl

/-! ### Making the directories of names -/

/-- What making the directories of names comes to at the first name. -/
theorem makeEach_cons {name : String} {names : List String} {start reached : String}
    (made : tree.makeEach start (name :: names) = .ok (reached, tree')) :
    Directory.allows name = true ∧
      ((tree.isDirectory (FilePath.child start name) = true ∧
          tree.makeEach (FilePath.child start name) names = .ok (reached, tree')) ∨
        (¬ tree.isDirectory (FilePath.child start name) = true ∧
          (tree.withDirectory (FilePath.child start name) ∅).makeEach
            (FilePath.child start name) names = .ok (reached, tree'))) := by
  unfold makeEach at made
  dsimp only at made
  split at made
  · cases made
  · next allowed =>
    refine ⟨by simpa using allowed, ?_⟩
    split at made
    · next there => exact .inl ⟨there, made⟩
    · next missing =>
      split at made
      · cases made
      · exact .inr ⟨missing, made⟩

/-- Directories that are there stay when others are made. -/
theorem isDirectory_makeEach {names : List String} {start reached : String}
    (made : tree.makeEach start names = .ok (reached, tree'))
    (there : tree.isDirectory other = true) : tree'.isDirectory other = true := by
  induction names generalizing tree start with
  | nil =>
    cases made
    exact there
  | cons name names ih =>
    obtain ⟨-, ⟨-, rest⟩ | ⟨-, rest⟩⟩ := makeEach_cons made
    · exact ih rest there
    · exact ih rest (isDirectory_withDirectory there)

/-- **Making directories changes no files.** -/
theorem directoryAt_makeEach {names : List String} {start reached : String}
    (made : tree.makeEach start names = .ok (reached, tree')) (path : String) :
    tree'.directoryAt path = tree.directoryAt path := by
  induction names generalizing tree start with
  | nil =>
    cases made
    rfl
  | cons name names ih =>
    obtain ⟨-, ⟨-, rest⟩ | ⟨missing, rest⟩⟩ := makeEach_cons made
    · exact ih rest
    · rw [ih rest]
      by_cases same : FilePath.child start name = path
      · rw [← same, directoryAt_withDirectory_self, directoryAt_of_not_isDirectory missing]
      · exact directoryAt_withDirectory_of_ne same

/-- A directory that is there is not made. -/
theorem makeEach_of_there {name next : String} {names : List String} {start : String}
    (allowed : Directory.allows name = true) (leads : FilePath.child start name = next)
    (there : tree.isDirectory next = true) :
    tree.makeEach start (name :: names) = tree.makeEach next names := by
  subst leads
  rw [makeEach, allowed, there]
  rfl

/-- Where all that was made is still there, nothing is made and the same directory is reached. -/
theorem makeEach_again {names : List String} {start reached : String}
    (made : tree.makeEach start names = .ok (reached, tree'))
    (stays : ∀ path, tree'.isDirectory path = true → later.isDirectory path = true) :
    later.makeEach start names = .ok (reached, later) := by
  induction names generalizing tree start with
  | nil =>
    cases made
    rfl
  | cons name names ih =>
    obtain ⟨allowed, rest⟩ := makeEach_cons made
    have passed : tree'.isDirectory (FilePath.child start name) = true ∧
        later.makeEach (FilePath.child start name) names = .ok (reached, later) := by
      rcases rest with ⟨there, rest⟩ | ⟨-, rest⟩
      · exact ⟨isDirectory_makeEach rest there, ih rest⟩
      · exact ⟨isDirectory_makeEach rest isDirectory_withDirectory_self, ih rest⟩
    exact (makeEach_of_there allowed rfl (stays _ passed.1)).trans passed.2

/-! ### The directory of a path -/

theorem directoryAt_createDirectories {reached : String}
    (made : tree.createDirectories path = .ok (reached, tree')) (path : String) :
    tree'.directoryAt path = tree.directoryAt path :=
  directoryAt_makeEach made path

/-- **What was made is found when it is to be made again.** -/
theorem createDirectories_again {reached : String}
    (made : tree.createDirectories path = .ok (reached, tree'))
    (stays : ∀ path, tree'.isDirectory path = true → later.isDirectory path = true) :
    later.createDirectories path = .ok (reached, later) :=
  makeEach_again made stays

/-- Where machines are kept if nothing else is asked for. -/
theorem machinesDirectory_default :
    ({} : StorageOptions).machinesDirectory = "./data/machines" := by
  have unslashed : "./data".endsWith "/" = false :=
    String.Slice.endsWith_string_eq_false_iff.2 (by rw [String.copy_toSlice]; decide)
  unfold StorageOptions.machinesDirectory StorageOptions.within
  dsimp only
  rw [unslashed]
  decide

/-- Where the directories of machines are there, they are found and nothing is made. -/
theorem createDirectories_default (data : tree.isDirectory "data" = true)
    (machines : tree.isDirectory "data/machines" = true) :
    tree.createDirectories ({} : StorageOptions).machinesDirectory =
      .ok ("data/machines", tree) := by
  have starts : FilePath.start "./data/machines" = ("", [".", "data", "machines"]) := by decide
  unfold createDirectories
  rw [machinesDirectory_default, starts]
  calc tree.makeEach "" [".", "data", "machines"]
    _ = tree.makeEach "" ["data", "machines"] := makeEach_of_there (by decide) (by decide) rfl
    _ = tree.makeEach "data" ["machines"] := makeEach_of_there (by decide) (by decide) data
    _ = tree.makeEach "data/machines" [] := makeEach_of_there (by decide) (by decide) machines

end Statechart.FileTree
