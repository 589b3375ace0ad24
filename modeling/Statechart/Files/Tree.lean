/-
**Trees of files.**

A tree has the files of each of its directories. A path is followed from directory to directory, and
its last name may be that of a file.

* `read`: the bytes of a file.
* `createDirectories`: makes the directories of a path that are missing.
* `directoryAt`, `withDirectory`: the files of one directory.
-/

import Statechart.Files.Path
import Statechart.Store.Directory

namespace Statechart

open Text

/-- Why a file cannot be read or a directory cannot be made. -/
inductive FileFault
  | missing
  | notDirectory
  | isDirectory
  | nameTooLong
  /-- The bytes of a file are not those of a text. -/
  | notText
  deriving DecidableEq

/-- What is said of a fault. -/
def FileFault.message : FileFault → String
  | .missing => "No such file or directory (os error 2)"
  | .notDirectory => "Not a directory (os error 20)"
  | .isDirectory => "Is a directory (os error 21)"
  | .nameTooLong => "File name too long (os error 36)"
  | .notText => "stream did not contain valid UTF-8"

/-- The files of each directory, by its path. The directories around it are there too. -/
structure FileTree where
  directories : Dict String Directory := ∅

namespace FileTree

/-- The files of a directory. -/
def directoryAt (tree : FileTree) (path : String) : Directory :=
  (tree.directories.get? path).getD ∅

/-- The tree in which a directory has some files and no others. -/
def withDirectory (tree : FileTree) (path : String) (directory : Directory) : FileTree where
  directories := tree.directories.insert path directory

/-- Whether a path is that of a directory. -/
def isDirectory (tree : FileTree) (path : String) : Bool :=
  FilePath.isGiven path || tree.directories.contains path

/-- Why a name does not lead on from a directory. -/
def faultAt (tree : FileTree) (directory name : String) : FileFault :=
  if (tree.directoryAt directory).contains name then .notDirectory else .missing

/-- The directory that names lead to from another one. -/
def follow (tree : FileTree) : String → List String → Except FileFault String
  | directory, [] => .ok directory
  | directory, name :: names =>
    let next := FilePath.child directory name
    if !Directory.allows name then .error .nameTooLong
    else if tree.isDirectory next then tree.follow next names
    else .error (tree.faultAt directory name)

/-- The bytes of the file of a name in a directory. -/
def fileIn (tree : FileTree) (directory name : String) : Except FileFault Bytes :=
  if !Directory.allows name then .error .nameTooLong
  else if FilePath.isStep name || tree.isDirectory (FilePath.child directory name) then
    .error .isDirectory
  else
    match (tree.directoryAt directory).get? name with
    | some bytes => .ok bytes
    | none => .error .missing

/-- The bytes of the file at a path. -/
def read (tree : FileTree) (path : String) : Except FileFault Bytes := do
  if path.isEmpty then throw .missing
  let (directory, names) := FilePath.start path
  tree.fileIn (← tree.follow directory names.dropLast) (names.getLastD "")

/-- The text of the file at a path. -/
def readText (tree : FileTree) (path : String) : Except FileFault String := do
  match ofUtf8? (← tree.read path) with
  | some text => return text
  | none => throw .notText

/-- The directory that names lead to from another one, and the tree in which they do. -/
def makeEach (tree : FileTree) : String → List String → Except FileFault (String × FileTree)
  | directory, [] => .ok (directory, tree)
  | directory, name :: names =>
    let next := FilePath.child directory name
    if !Directory.allows name then .error .nameTooLong
    else if tree.isDirectory next then tree.makeEach next names
    else if (tree.directoryAt directory).contains name then .error .notDirectory
    else (tree.withDirectory next ∅).makeEach next names

/-- The directory of a path, and the tree in which it is there. -/
def createDirectories (tree : FileTree) (path : String) : Except FileFault (String × FileTree) :=
  let (directory, names) := FilePath.start path
  tree.makeEach directory names

/-- The tree with a file at a path, in whose directories it can be. -/
def write (tree : FileTree) (path : String) (bytes : Bytes) : Except FileFault FileTree := do
  let (directory, names) := FilePath.start path
  let (directory, tree) ← tree.makeEach directory names.dropLast
  let files := (tree.directoryAt directory).insert (names.getLastD "") bytes
  return tree.withDirectory directory files

/-- The paths of the files within the working directory, in order. -/
def listing (tree : FileTree) : List String :=
  let paths := tree.directories.entries.flatMap fun (path, directory) =>
    if FilePath.isWithin path then directory.keys.map fun name => FilePath.opening path ++ name
    else []
  paths.mergeSort

end FileTree

end Statechart
