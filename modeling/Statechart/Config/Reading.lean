/-
**Configurations from indented texts.**

The text has a record for each group of options. What is left out has its default, and so has all of
a text that holds nothing.
-/

import Statechart.Config.Basic
import Statechart.Yaml.Typed

namespace Statechart

open Yaml

/-- The options of a pool that a record gives. -/
def PoolOptions.ofNode (graph : Graph) (node : Node Nat) : Walk PoolOptions := do
  let standard : PoolOptions := {}
  let fields ← graph.fields ["capacity", "flush_on_release", "autosave"] node
  return {
    capacity := ← Graph.field fields 0 graph.natural standard.capacity
    flushOnRelease := ← Graph.field fields 1 graph.truth standard.flushOnRelease
    autosave := ← Graph.field fields 2 graph.truth standard.autosave }

/-- The place of a name. -/
def StorageBackend.ofNode (graph : Graph) (node : Node Nat) : Walk StorageBackend := do
  liftM (StorageBackend.ofName? (← graph.choice node))

/-- The options of a store that a record gives. -/
def StorageOptions.ofNode (graph : Graph) (node : Node Nat) : Walk StorageOptions := do
  let standard : StorageOptions := {}
  let fields ← graph.fields ["backend", "data_dir"] node
  return {
    backend := ← Graph.field fields 0 (StorageBackend.ofNode graph) standard.backend
    dataDirectory := ← Graph.field fields 1 graph.text standard.dataDirectory }

/-- The options of a runner that a record gives. -/
def RunnerOptions.ofNode (graph : Graph) (node : Node Nat) : Walk RunnerOptions := do
  let standard : RunnerOptions := {}
  let fields ← graph.fields
    ["max_trigger_depth", "detect_trigger_cycles", "verify_callbacks_on_load", "merge_payload",
     "source_on_change"] node
  return {
    maxTriggerDepth := ← Graph.field fields 0 graph.natural standard.maxTriggerDepth
    detectTriggerCycles := ← Graph.field fields 1 graph.truth standard.detectTriggerCycles
    verifyCallbacksOnLoad := ← Graph.field fields 2 graph.truth standard.verifyCallbacksOnLoad
    mergePayload := ← Graph.field fields 3 graph.truth standard.mergePayload
    sourceOnChange := ← Graph.field fields 4 graph.truth standard.sourceOnChange }

namespace Config

/-- The configuration that a record gives. -/
def ofNode (graph : Graph) (node : Node Nat) : Walk Config := do
  let fields ← graph.fields ["pool", "storage", "runner"] node
  return {
    pool := ← Graph.field fields 0 (PoolOptions.ofNode graph) {}
    storage := ← Graph.field fields 1 (StorageOptions.ofNode graph) {}
    runner := ← Graph.field fields 2 (RunnerOptions.ofNode graph) {} }

/-- The configuration that a text gives. -/
def ofYaml? (text : String) : Option Config := do
  match ← Graph.ofText? text with
  | none => return {}
  | some graph => graph.read? (ofNode graph)

end Config

end Statechart
