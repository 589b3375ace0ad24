/-
**The program.**

It puts the files that a command line is about into a tree, runs the command line on that tree,
writes the files of the store back, and prints.
-/

import Statechart.Command.Run
import Std.Time.DateTime.Timestamp

open Statechart Command

/-- The variables of the environment that mean something. -/
def readEnvironment : IO Environment := do
  let found ← Environment.names.filterMapM fun name => do
    return (← IO.getEnv name).map fun value => (name, value)
  return Dict.ofList found

/-- The tree with the file at a path, if it can be read. -/
def loadFile (files : FileTree) (path : String) : IO FileTree := do
  try
    let bytes ← IO.FS.readBinFile path
    return (files.write path bytes.data.toList).toOption.getD files
  catch _ => return files

/-- The tree with the files of a directory, if it can be listed. -/
def loadDirectory (files : FileTree) (path : String) : IO FileTree := do
  try
    let entries ← (← IO.FS.realPath path).readDir
    entries.foldlM (fun files entry => loadFile files (path ++ "/" ++ entry.fileName)) files
  catch _ => return files

/-- Writes a file in one step: its old bytes stay until the new ones are all there. -/
def storeFile (directory name : String) (bytes : Bytes) : IO Unit := do
  let path := directory ++ "/" ++ name
  let temporary := path ++ ".new"
  IO.FS.writeBinFile temporary ⟨bytes.toArray⟩
  IO.FS.rename temporary path

/-- Writes the files of a directory that are not what they were. -/
def storeDirectory (before after : FileTree) (path : String) : IO Unit := do
  match after.createDirectories path with
  | .error _ => return ()
  | .ok (directory, _) =>
    let old := before.directoryAt directory
    let changed := (after.directoryAt directory).entries.filter fun (name, bytes) =>
      old.get? name ≠ some bytes
    if !changed.isEmpty then
      IO.FS.createDirAll path
      changed.forM fun (name, bytes) => storeFile path name bytes

/-- Prints what the program says, and gives its exit code. -/
def say (result : Result) : IO UInt32 := do
  IO.print (textOf result.lines)
  if result.exitCode = 2 then IO.eprint (textOf helpLines)
  return UInt32.ofNat result.exitCode

/-- Runs a command line. -/
def main (arguments : List String) : IO UInt32 := do
  let environment ← readEnvironment
  match Invocation.ofArguments environment arguments with
  | .error halt => say (halt.result {})
  | .ok invocation =>
    let files ← invocation.paths.foldlM loadFile {}
    let directory? := invocation.directory? environment files
    let before ← directory?.toList.foldlM loadDirectory files
    let now ← Std.Time.Timestamp.now
    let result := run environment arguments before now.toMillisecondsSinceUnixEpoch.val
    directory?.forM (storeDirectory before result.files)
    say result
