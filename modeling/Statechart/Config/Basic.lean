/-
**Configurations.**

A configuration has the options of a pool, of its store and of its runners. It is sound if there is
at least one runner, and if at least one trigger may follow an event.
-/

import Statechart.Pool.Options
import Statechart.Store.Options
import Statechart.Runner.Options
import Statechart.Files.Tree

namespace Statechart

open Json

/-- The options of a program that drives machines. -/
structure Config where
  pool : PoolOptions := {}
  storage : StorageOptions := {}
  runner : RunnerOptions := {}
  deriving DecidableEq, Inhabited

/-- Why a configuration is not sound. -/
inductive ConfigFault
  | noRunner
  | noTrigger
  deriving DecidableEq

/-- What is said of a configuration that is not sound. -/
def ConfigFault.message : ConfigFault → String
  | .noRunner => "configuration validation failed: pool.capacity must be at least 1"
  | .noTrigger => "configuration validation failed: runner.max_trigger_depth must be at least 1"

/-- Why there is no configuration. -/
inductive ConfigError
  /-- Its file cannot be read. -/
  | unreadable (fault : FileFault)
  /-- Its file does not hold one. -/
  | malformed
  | invalid (fault : ConfigFault)
  deriving DecidableEq

namespace Config

/-- The configuration as a value. -/
def toValue (config : Config) : Value :=
  .record
    [("pool", config.pool.toValue), ("storage", config.storage.toValue),
     ("runner", config.runner.toValue)]

/-- Why a configuration is not sound, if it is not. -/
def fault? (config : Config) : Option ConfigFault :=
  if config.pool.capacity = 0 then some .noRunner
  else if config.runner.maxTriggerDepth = 0 then some .noTrigger
  else none

/-- A configuration if it is sound. -/
def validate (config : Config) : Except ConfigError Config :=
  match config.fault? with
  | none => .ok config
  | some fault => .error (.invalid fault)

end Config

end Statechart
