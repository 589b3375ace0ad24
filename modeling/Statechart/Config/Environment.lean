/-
**Configurations from the environment.**

Variables of the environment go before what a file says. A number that cannot be read and a place
that is unknown are passed over, and any text but two stands for no.
-/

import Statechart.Config.Basic
import Statechart.Text.Digits

namespace Statechart

open Text

/-- The variables of an environment. -/
abbrev Environment := Dict String String

namespace Environment

/-- The variables that mean something. -/
def names : List String :=
  ["RUNCHART_CONFIG", "RUNCHART_POOL_CAPACITY", "RUNCHART_FLUSH_ON_RELEASE", "RUNCHART_AUTOSAVE",
   "RUNCHART_STORAGE_BACKEND", "RUNCHART_DATA_DIR", "RUNCHART_MAX_TRIGGER_DEPTH",
   "RUNCHART_DETECT_TRIGGER_CYCLES", "RUNCHART_VERIFY_CALLBACKS", "RUNCHART_MERGE_PAYLOAD"]

/-- The truth value that a text stands for. -/
def flagOf (text : String) : Bool := text = "1" || text.toLower = "true"

/-- The flag of a name, or a default. -/
def flag (environment : Environment) (name : String) (default : Bool) : Bool :=
  ((environment.get? name).map flagOf).getD default

/-- The number of a name, or a default. -/
def number (environment : Environment) (name : String) (default : Nat) : Nat :=
  ((environment.get? name).bind fun text => word? text.toList).getD default

/-- The place of a name, or a default. -/
def backend (environment : Environment) (name : String) (default : StorageBackend) :
    StorageBackend :=
  ((environment.get? name).bind fun text => StorageBackend.ofName? text.toLower).getD default

/-- The name of the file with the configuration. -/
def configPath? (environment : Environment) : Option String := environment.get? "RUNCHART_CONFIG"

end Environment

/-- The options of a pool with those that an environment gives. -/
def PoolOptions.overriddenBy (environment : Environment) (options : PoolOptions) : PoolOptions where
  capacity := environment.number "RUNCHART_POOL_CAPACITY" options.capacity
  flushOnRelease := environment.flag "RUNCHART_FLUSH_ON_RELEASE" options.flushOnRelease
  autosave := environment.flag "RUNCHART_AUTOSAVE" options.autosave

/-- The options of a store with those that an environment gives. -/
def StorageOptions.overriddenBy (environment : Environment) (options : StorageOptions) :
    StorageOptions where
  backend := environment.backend "RUNCHART_STORAGE_BACKEND" options.backend
  dataDirectory := (environment.get? "RUNCHART_DATA_DIR").getD options.dataDirectory

/-- The options of a runner with those that an environment gives. Whether a source is told of a
change is none of them. -/
def RunnerOptions.overriddenBy (environment : Environment) (options : RunnerOptions) :
    RunnerOptions :=
  { options with
    maxTriggerDepth := environment.number "RUNCHART_MAX_TRIGGER_DEPTH" options.maxTriggerDepth
    detectTriggerCycles :=
      environment.flag "RUNCHART_DETECT_TRIGGER_CYCLES" options.detectTriggerCycles
    verifyCallbacksOnLoad :=
      environment.flag "RUNCHART_VERIFY_CALLBACKS" options.verifyCallbacksOnLoad
    mergePayload := environment.flag "RUNCHART_MERGE_PAYLOAD" options.mergePayload }

/-- A configuration with what an environment gives. -/
def Config.overriddenBy (environment : Environment) (config : Config) : Config where
  pool := config.pool.overriddenBy environment
  storage := config.storage.overriddenBy environment
  runner := config.runner.overriddenBy environment

end Statechart
