/-
**Configurations as indented texts.**

Every option is written, each on a line of its own. Only the directory of the data is a text that
may need quotation marks.
-/

import Statechart.Config.Basic
import Statechart.Yaml.Printer
import Statechart.Text.Shown

namespace Statechart

open Text

/-- A record of named values, each on a line behind two spaces. -/
def writtenGroup (name : String) (fields : List (String × String)) : String :=
  let lines := fields.map fun (field, value) => "  " ++ field ++ ": " ++ value ++ "\n"
  name ++ ":\n" ++ String.join lines

/-- The options of a pool as they are written. -/
def PoolOptions.written (options : PoolOptions) : String :=
  writtenGroup "pool"
    [("capacity", toString options.capacity),
     ("flush_on_release", shownTruth options.flushOnRelease),
     ("autosave", shownTruth options.autosave)]

/-- The options of a store as they are written. -/
def StorageOptions.written (options : StorageOptions) : String :=
  let indentation := [' ', ' ', ' ', ' ']
  let entry := Yaml.writtenEntry indentation "data_dir" options.dataDirectory
  writtenGroup "storage" [("backend", options.backend.name)] ++ "  " ++ String.ofList entry

/-- The options of a runner as they are written. -/
def RunnerOptions.written (options : RunnerOptions) : String :=
  writtenGroup "runner"
    [("max_trigger_depth", toString options.maxTriggerDepth),
     ("detect_trigger_cycles", shownTruth options.detectTriggerCycles),
     ("verify_callbacks_on_load", shownTruth options.verifyCallbacksOnLoad),
     ("merge_payload", shownTruth options.mergePayload),
     ("source_on_change", shownTruth options.sourceOnChange)]

/-- The text of a configuration. -/
def Config.written (config : Config) : String :=
  config.pool.written ++ config.storage.written ++ config.runner.written

end Statechart
