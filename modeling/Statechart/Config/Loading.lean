/-
**Where configurations come from.**

A configuration is the default one, changed by a file and then by the environment. The store that it
asks for is one in memory, or a directory that is made if it is missing.

* `load`: the configuration of an optional file and of the environment, if it is sound.
* `StorageOptions.openStore`: the store of some options.
-/

import Statechart.Config.Reading
import Statechart.Config.Environment
import Statechart.Store.Memory

namespace Statechart

namespace Config

/-- The configuration of a file. -/
def ofFile (files : FileTree) (path : String) : Except ConfigError Config :=
  match files.readText path with
  | .error fault => .error (.unreadable fault)
  | .ok text =>
    match ofYaml? text with
    | some config => .ok config
    | none => .error .malformed

/-- The configuration of an environment alone. -/
def ofEnvironment (environment : Environment) : Config := overriddenBy environment {}

/-- The configuration of a file, if there is one, and of an environment. -/
def loadFrom (environment : Environment) (files : FileTree) (path : Option String) :
    Except ConfigError Config := do
  let config ←
    match path with
    | some path => ofFile files path
    | none => .ok {}
  (config.overriddenBy environment).validate

/-- The configuration of the file that an environment names, and of the environment itself. -/
def load (environment : Environment) (files : FileTree) : Except ConfigError Config :=
  loadFrom environment files environment.configPath?

end Config

/-- Files, and dumps that are kept in memory. -/
structure Storage where
  files : FileTree := {}
  memory : Memory := ∅

namespace Storage

/-- The store of the files of a directory. -/
def fileStore (directory : String) : MachineStore Storage :=
  Directory.store.within (fun storage => storage.files.directoryAt directory)
    fun files storage => { storage with files := storage.files.withDirectory directory files }

/-- The store of dumps that are kept in memory. -/
def memoryStore : MachineStore Storage :=
  Memory.store.within Storage.memory fun memory storage => { storage with memory }

end Storage

/-- The store that options ask for. -/
def StorageOptions.openStore (options : StorageOptions) (storage : Storage) :
    Except IoFault (MachineStore Storage) × Storage :=
  match options.backend with
  | .memory => (.ok Storage.memoryStore, storage)
  | .file =>
    match storage.files.createDirectories options.machinesDirectory with
    | .error _ => (.error .system, storage)
    | .ok (directory, files) => (.ok (Storage.fileStore directory), { storage with files })

end Statechart
