/-
**Descriptions from marked-up documents.**

A state that stands inside another is a sub-state of it; its own record follows the record of the
outer state. `description` reads the elements of a chart, and refuses an element that has no place
where it stands.
-/

import Statechart.Description.Basic
import Statechart.Xml.Document
import Statechart.Json.Reading
import Statechart.Text.Blank
import Statechart.Error

namespace Statechart.Xml

open Json Text

/-- A document's part, or what is wrong with it. -/
abbrev Checked := Except Malformation

namespace Element

/-- The value of an attribute that has to be there and not be empty. -/
def required (element : Element) (name : String) : Checked String :=
  match element.attribute? name with
  | none => .error (.missingAttribute element.tag name)
  | some value => if value.isEmpty then .error (.missingAttribute element.tag name) else .ok value

/-- The truth value of an attribute that may be missing. -/
def flag (element : Element) (name : String) : Checked (Option Bool) :=
  match element.attribute? name with
  | none => .ok none
  | some "true" => .ok (some true)
  | some "false" => .ok (some false)
  | some other => .error (.notBoolean other name)

/-- The text that an element starts with, without the blanks around it. -/
def trimmed (element : Element) : List Char :=
  match element.text? with
  | none => []
  | some text => trimBlanks text.toList

/-- The identifier that an element holds. -/
def identifier (element : Element) : Checked String :=
  let text := element.trimmed
  if text.isEmpty then .error (.emptyElement element.tag) else .ok (String.ofList text)

end Element

/-- The hook that an element of a state declares. -/
def hookOfTag? : String → Option HookKind
  | "onentry" => some .onEnter
  | "onexit" => some .onExit
  | "onchange" => some .onChange
  | "trigger" => some .trigger
  | "action" => some .action
  | _ => none

/-- Whether an element is that of a state. -/
def isStateTag (tag : String) : Bool := tag = "state" || tag = "final"

/-- The record of a state element before its content is looked at. -/
def openRecord (element : Element) : Checked StateDescription := do
  let isInitial ← element.flag "initial"
  let isFinal ← if element.tag = "final" then .ok (some true) else element.flag "final"
  return { identifier := element.attribute? "id", isInitial := isInitial.getD false, isFinal }

mutual

/-- The records of a state element and of the states inside it, outer before inner. -/
def stateRecords : Node → Checked (List StateDescription)
  | .element tag attributes content => do
    let record ← openRecord { tag, attributes, content }
    let (record, nested) ← stateContent content record
    return record :: nested
  | _ => .ok []

/-- A record completed by the content of its element, and the records of the states inside. -/
def stateContent : List Node → StateDescription → Checked (StateDescription × List StateDescription)
  | [], record => .ok (record, [])
  | .element tag attributes content :: rest, record => do
    let element : Element := { tag, attributes, content }
    if tag = "transition" then
      let event ← element.required "event"
      let target ← element.required "target"
      stateContent rest (record.on event target)
    else if isStateTag tag then
      let name ← element.required "id"
      let nested ← stateRecords (.element tag attributes content)
      let (record, others) ← stateContent rest (record.subState name)
      return (record, nested ++ others)
    else
      match hookOfTag? tag with
      | some kind =>
        let identifier ← element.identifier
        stateContent rest (record.hook kind identifier)
      | none => .error (.unexpectedElement tag (.state record.identifier))
  | _ :: rest, record => stateContent rest record

end

/-- The value that a data element holds: what its text says as data, else the text itself. -/
def dataValue (element : Element) : Value :=
  let text := element.trimmed
  if text.isEmpty then .null
  else (Value.parse? (String.ofList text)).getD (.string (String.ofList text))

/-- The data with that of more elements. -/
def readData : List Element → Datamodel → Checked Datamodel
  | [], datamodel => .ok datamodel
  | element :: rest, datamodel =>
    if element.tag ≠ "data" then .error (.unexpectedElement element.tag .datamodel)
    else do
      let name ← element.required "id"
      readData rest (datamodel.insert name (dataValue element))

/-- The states and data of a description with those of more elements. -/
def readChart : List Element → Description → Checked Description
  | [], description => .ok description
  | element :: rest, description => do
    if isStateTag element.tag then
      let records ← stateRecords element.toNode
      readChart rest { description with states := description.states ++ records }
    else if element.tag = "datamodel" then
      let datamodel ← readData element.children description.datamodel
      readChart rest { description with datamodel }
    else .error (.unexpectedElement element.tag .chart)

/-- Marks the first record of an identifier as initial. -/
def markInitial? (name : String) : List StateDescription → Option (List StateDescription)
  | [] => none
  | record :: rest =>
    if record.identifier = some name then some ({ record with isInitial := true } :: rest)
    else (markInitial? name rest).map (record :: ·)

/-- The description that the element of a document gives. -/
def description (root : Element) : Checked Description := do
  let description ← readChart root.children { name := root.attribute? "name" }
  match root.attribute? "initial" with
  | none => return description
  | some name =>
    match markInitial? name description.states with
    | some states => return { description with states }
    | none => .error (.undeclaredInitial name)

end Statechart.Xml

namespace Statechart

/-- The description that a marked-up text gives. -/
def Description.ofXml (text : String) : Except Error Description :=
  match Xml.root? text with
  | none => .error (.badRequest .xml .malformed)
  | some root =>
    match Xml.description root with
    | .ok description => .ok description
    | .error reason => .error (.chart (.malformed reason))

/-- The machine at rest that a marked-up text gives. -/
def Machine.ofXml (text : String) : Except Error Machine :=
  match Description.ofXml text with
  | .error error => .error error
  | .ok description => description.build.mapError .chart

end Statechart
