/-
**Reading dumps from data texts.**

Dumps, states and history records are records of known fields. A dump may leave out its name, its
history and its data, and a state all but its name. Data nest as deep as is left below the dump and
its field of data.
-/

import Statechart.Dump.Basic
import Statechart.Json.Typed

namespace Statechart

open Json Text

/-- The names of the fields of a state, in order. -/
def State.fieldNames : List String :=
  ["name", "events", "on_enter", "on_exit", "on_change", "trigger", "action", "is_initial",
   "is_final"]

/-- The state that a tree gives. -/
def State.ofTree? (tree : Tree) : Option State := do
  let fields ← tree.fields? fieldNames 1
  let identifier (position : Nat) :=
    Tree.field? fields position (Tree.nullable? Tree.text?) (some none)
  return {
    name := ← Tree.field? fields 0 Tree.text? none
    events := ← Tree.field? fields 1 (Tree.dict? Tree.text?) (some ∅)
    hooks := {
      onEnter := ← identifier 2
      onExit := ← identifier 3
      onChange := ← identifier 4
      trigger := ← identifier 5
      action := ← identifier 6 }
    isInitial := ← Tree.field? fields 7 Tree.truth? (some false)
    isFinal := ← Tree.field? fields 8 Tree.truth? (some false) }

/-- The status that a tree gives: its name, or a record of it that holds nothing. -/
def Status.ofTree? : Tree → Option Status
  | .record [(pieces, .null)] => do Status.ofName? (← Json.string? pieces)
  | tree => do Status.ofName? (← tree.text?)

namespace HistoryRecord

/-- The names of the fields of a record, in order. -/
def fieldNames : List String := ["timestamp", "event", "src", "state", "status"]

/-- The time that a tree gives: a whole number of 64 bits. -/
def timestamp? (tree : Tree) : Option Int := do
  let value ← tree.whole?
  if -(Nat.pow 2 63 : Int) ≤ value ∧ value < (Nat.pow 2 63 : Int) then some value else none

/-- The record that a tree gives. -/
def ofTree? (tree : Tree) : Option HistoryRecord := do
  let fields ← tree.fields? fieldNames 5
  let name (position : Nat) := Tree.field? fields position (Tree.nullable? Tree.text?) (some none)
  return {
    timestamp := ← Tree.field? fields 0 timestamp? none
    event := ← name 1
    source := ← name 2
    state := ← Tree.field? fields 3 Tree.text? none
    status := ← Tree.field? fields 4 Status.ofTree? none }

end HistoryRecord

namespace Dump

/-- The route that a tree gives. -/
def triple? (tree : Tree) : Option Chart.Triple := do
  let (event, source, target) ← Tree.pair? Tree.text? (Tree.pair? Tree.text? Tree.text?) tree
  return { event, source, target }

/-- How deep the values of a datamodel may nest. -/
def dataLevels : Nat := nestingLimit - 2

/-- The data that a tree gives. -/
def datamodel? : Tree → Option Datamodel
  | .record members => (Tree.toFields? dataLevels members).map Dict.ofList
  | _ => none

/-- The dump that a tree gives. -/
def ofTree? (tree : Tree) : Option Dump := do
  let fields ← tree.fields? fieldNames 7
  return {
    chartId := ← Tree.field? fields 0 Tree.text? none
    name := ← Tree.field? fields 1 Tree.text? (some "")
    current := ← Tree.field? fields 2 (Tree.nullable? Tree.text?) (some none)
    initial := ← Tree.field? fields 3 Tree.text? none
    finals := ← Tree.field? fields 4 (Tree.list? Tree.text?) none
    states := ← Tree.field? fields 5 (Tree.list? State.ofTree?) none
    transitions := ← Tree.field? fields 6 (Tree.list? triple?) none
    history := ← Tree.field? fields 7 (Tree.list? HistoryRecord.ofTree?) (some [])
    datamodel := ← Tree.field? fields 8 datamodel? (some ∅) }

/-- The dump that bytes give. -/
def ofBytes? (bytes : Bytes) : Option Dump := do ofTree? (← Tree.ofSymbols? (symbols bytes))

end Dump

end Statechart
