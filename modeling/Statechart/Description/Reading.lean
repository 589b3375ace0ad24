/-
**Descriptions from documents.**

A document describes a chart if it is a list of state records, or else a record with a name, states
and data. Records are given by their fields or by position. Identifiers, event names and their
destinations may be numbers and truth values and are then taken as they are written.
-/

import Statechart.Description.Basic
import Statechart.Document
import Statechart.Error

namespace Statechart

open Json Text

namespace StateDescription

/-- The names of the fields of a state record, in order. -/
def fieldNames : List (List String) :=
  [["id", "state"], ["initial", "is_initial"], ["final", "is_final"], ["events"], ["on_enter"],
   ["on_exit"], ["on_change"], ["trigger"], ["action"], ["substates"]]

/-- One event and its destination. -/
def event? (entry : Document × Document) : Option (String × String) := do
  let name ← entry.1.name?
  let target ← entry.2.name?
  return (name, target)

/-- The events of a record. The last destination of an event wins. -/
def events? : Document → Option (Dict String String)
  | .record entries => (entries.mapM event?).map Dict.ofList
  | _ => none

/-- The names of sub-states. -/
def subStates? (document : Document) : Option (List String) := do
  let items ← document.list?
  items.mapM Document.string?

/-- The state record that a document gives. -/
def ofDocument? (document : Document) : Option StateDescription := do
  let fields ← document.fields? fieldNames
  let name? := Document.nullable? Document.name?
  return {
    identifier := ← Document.field? fields 0 name? none
    isInitial := ← Document.field? fields 1 Document.bool? false
    isFinal := ← Document.field? fields 2 (Document.nullable? Document.bool?) none
    events := (← Document.field? fields 3 (Document.nullable? events?) none).getD ∅
    hooks := {
      onEnter := ← Document.field? fields 4 name? none
      onExit := ← Document.field? fields 5 name? none
      onChange := ← Document.field? fields 6 name? none
      trigger := ← Document.field? fields 7 name? none
      action := ← Document.field? fields 8 name? none }
    subStates := ← Document.field? fields 9 subStates? [] }

end StateDescription

namespace Description

/-- The names of the fields of a description, in order. -/
def fieldNames : List (List String) := [["name"], ["states"], ["datamodel"]]

/-- The state records that a document lists. -/
def states? (document : Document) : Option (List StateDescription) := do
  let items ← document.list?
  items.mapM StateDescription.ofDocument?

/-- The data that a document gives. -/
def datamodel? : Document → Option Datamodel
  | .record entries => (Document.toFields? entries).map Dict.ofList
  | _ => none

/-- The description that a record gives. Its states may not be left out. -/
def ofRecord? (document : Document) : Option Description := do
  let fields ← document.fields? fieldNames
  return {
    name := ← Document.field? fields 0 (Document.nullable? Document.string?) none
    states := ← states? (← fields[1]?.join)
    datamodel := ← Document.field? fields 2 datamodel? ∅ }

/-- The description that a document gives: that of a list of states before that of a record. -/
def ofDocument? (document : Document) : Option Description :=
  match states? document with
  | some states => some { states }
  | none => ofRecord? document

/-- The description that a value gives. -/
def ofValue (value : Value) : Except Error Description :=
  match ofDocument? (.ofValue value) with
  | some description => .ok description
  | none => .error (.badRequest .json .wrongShape)

/-- The description that a data text gives. What stands behind the first value is looked at last. -/
def ofJson (text : String) : Except Error Description :=
  match Tree.first? (characters text.toList) with
  | none => .error (.badRequest .json .malformed)
  | some (tree, rest) =>
    match Document.ofTree? nestingLimit tree with
    | none => .error (.badRequest .json .malformed)
    | some document =>
      match ofDocument? document with
      | none => .error (.badRequest .json .wrongShape)
      | some description =>
        if rest.all Json.isBlank then .ok description else .error (.badRequest .json .malformed)

end Description

end Statechart
