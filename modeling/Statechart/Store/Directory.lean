/-
**Stores in a directory.**

The dump of each machine is a file. Its name has the owner and the type in hexadecimal digits, so
any texts give a portable name and `MachineKey.ofFileName?` reads both back. A dump is first written
to a temporary file, which then takes the name of the old one. The key of two empty texts has no
temporary file, so that no dump can be kept under it.
-/

import Statechart.Store.Basic
import Statechart.Files.Path
import Statechart.Text.Hex

namespace Statechart

open Text

/-- The contents of files by name. -/
abbrev Directory := Dict String Bytes

/-- How many bytes the name of a file may have. -/
def fileNameLimit : Nat := 255

/-- What the name of a dump's file ends with. -/
def machineEnding : List Char := ['.', 'c', 'h', 'a', 'r', 't']

/-- What the name of a temporary file ends with. -/
def temporaryEnding : List Char := ['.', 't', 'm', 'p']

/-- What stands before an ending. -/
def beforeEnding? (ending text : List Char) : Option (List Char) :=
  if ending.isSuffixOf text then some (text.take (text.length - ending.length)) else none

theorem beforeEnding?_eq_some_iff {ending text start : List Char} :
    beforeEnding? ending text = some start ↔ text = start ++ ending := by
  unfold beforeEnding?
  constructor
  · intro found
    split at found
    · next suffix =>
      obtain ⟨before, rfl⟩ := List.isSuffixOf_iff_suffix.1 suffix
      simp_all
    · simp at found
  · rintro rfl
    simp [List.isSuffixOf_iff_suffix]

namespace MachineKey

/-- The name that the files of a machine share, up to the ending. -/
def stem (key : MachineKey) : List Char :=
  hexChars (utf8 key.owner) ++ '.' :: hexChars (utf8 key.chartType)

/-- The name of a machine's file. -/
def fileName (key : MachineKey) : String := String.ofList (key.stem ++ machineEnding)

/-- The name of the file that a dump is first written to: that of the machine's file with another
ending. If all that is before the ending is a point, this point and that of the ending lead to the
directory above, and no other ending is put there. -/
def temporaryName (key : MachineKey) : String :=
  if key.stem = ['.'] then ".." else String.ofList (key.stem ++ temporaryEnding)

/-- The text whose bytes are given in hexadecimal digits. -/
def hexText? (digits : List Char) : Option String := do
  let bytes ← ofHexChars? digits
  ofUtf8? bytes

/-- The key that a name tells up to its ending. -/
def ofStem? (stem : List Char) : Option MachineKey :=
  match stem.dropWhile (· ≠ '.') with
  | [] => none
  | _ :: chartType => do
    let owner ← hexText? (stem.takeWhile (· ≠ '.'))
    let chartType ← hexText? chartType
    return { owner, chartType }

/-- The key of the machine whose file has a name. -/
def ofFileName? (name : String) : Option MachineKey := do
  let stem ← beforeEnding? machineEnding name.toList
  ofStem? stem

end MachineKey

namespace Directory

/-- Whether a file can have a name. -/
def allows (name : String) : Bool := name.utf8ByteSize ≤ fileNameLimit

/-- Whether a file of a name can be written. -/
def canWrite (name : String) : Bool := allows name && !FilePath.isStep name

/-- The keys of the machines whose files are there. -/
def machineKeys (directory : Directory) : List MachineKey :=
  MachineKey.sorted (directory.keys.filterMap MachineKey.ofFileName?)

/-- Writes a dump to its temporary file, and gives that the name of the machine's file. -/
def save (key : MachineKey) (bytes : Bytes) (directory : Directory) :
    Except IoFault Unit × Directory :=
  if canWrite key.temporaryName then
    if allows key.fileName then
      (.ok (), (directory.erase key.temporaryName).insert key.fileName bytes)
    else (.error .system, directory.insert key.temporaryName bytes)
  else (.error .system, directory)

/-- The store of dumps that are kept as the files of a directory. -/
def store : MachineStore Directory where
  load key directory := (.ok (directory.get? key.fileName), directory)
  save := save
  remove key directory := (.ok (directory.contains key.fileName), directory.erase key.fileName)
  keys directory := (.ok directory.machineKeys, directory)

end Directory

end Statechart
