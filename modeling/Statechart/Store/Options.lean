/-
**Options of stores.**

Where the dumps of machines are kept: in memory, or in a directory of files.
-/

import Statechart.Json.Value

namespace Statechart

open Json

/-- The places where dumps are kept. -/
inductive StorageBackend
  /-- In memory, until the program ends. -/
  | memory
  /-- In the files of a directory. -/
  | file
  deriving DecidableEq, Inhabited

namespace StorageBackend

/-- The name of a place. -/
def name : StorageBackend → String
  | .memory => "memory"
  | .file => "file"

/-- The place of a name. -/
def ofName? (name : String) : Option StorageBackend :=
  [StorageBackend.memory, .file].find? fun backend => backend.name = name

end StorageBackend

/-- The options of a store. -/
structure StorageOptions where
  backend : StorageBackend := .file
  /-- The directory that has the directory of files. -/
  dataDirectory : String := "./data"
  deriving DecidableEq, Inhabited

namespace StorageOptions

/-- The options as a value. -/
def toValue (options : StorageOptions) : Value :=
  .record
    [("backend", .string options.backend.name), ("data_dir", .string options.dataDirectory)]

/-- The path of a name within a directory. -/
def within (directory name : String) : String :=
  if directory.isEmpty || directory.endsWith "/" then directory ++ name
  else directory ++ "/" ++ name

/-- The path of the directory of files. -/
def machinesDirectory (options : StorageOptions) : String :=
  within options.dataDirectory "machines"

end StorageOptions

end Statechart
