/-
**Descriptions from indented texts.**

The document of such a text has texts, numbers and truth values for its scalars. A tag that a text
chose for itself has no meaning in a description.
-/

import Statechart.Description.Reading
import Statechart.Yaml.Graph
import Statechart.Yaml.Plain

namespace Statechart.Yaml

open Json

/-- The document of a number. One that is whole and too large for values is none. -/
def wholeDocument? (number : Int) : Option Document :=
  if fitsValue number then some (.number (.integer number)) else none

/-- The document of a plain scalar without a tag. -/
def plainDocument? (text : String) : Option Document :=
  if text.isEmpty || isNull text then some .null
  else
    match bool? text, whole? text with
    | some value, _ => some (.bool value)
    | none, some number => wholeDocument? number
    | none, none =>
      match float? text.toList with
      | some value =>
        if isPadded text.toList then some (.string text) else some (.number (.float value))
      | none => some (.string text)

/-- The document of a scalar with a tag of the core schema. -/
def coreDocument? (text : String) : CoreTag → Option Document
  | .null => if isNull text then some .null else none
  | .bool => (bool? text).map .bool
  | .int => (whole? text).bind wholeDocument?
  | .float => (float? text.toList).map fun value => .number (.float value)

/-- The document of a scalar. A tag that a text chose for itself is here one that has no name. -/
def scalarDocument? (tag : Option Tag) (style : Style) (text : String) : Option Document :=
  let untagged := if style = .plain then plainDocument? text else some (.string text)
  match tag with
  | none => untagged
  | some tag =>
    match CoreTag.ofTag? tag with
    | some core => coreDocument? text core
    | none => if isLocal tag then untagged else some (.string text)

namespace Graph

/-- Whether a node carries a tag that its text chose for itself. -/
def hasLocalTag (node : Node Nat) : Bool := (node.properties.tag.bind localName?).isSome

/-- The document of a node in which lists and mappings nest no deeper than so many levels. The state
counts the aliases that were followed. -/
def documentOf (graph : Graph) : Nat → Node Nat → StateT Nat Option Document
  | levels, node => do
    let node ← graph.follow node
    if hasLocalTag node then failure
    match levels, node with
    | _, .alias _ => failure
    | _, .scalar properties style text => liftM (scalarDocument? properties.tag style text)
    | levels + 1, .sequence _ items => return .list (← items.mapM (documentOf graph levels))
    | levels + 1, .mapping _ entries =>
      return .record (← entries.mapM fun (key, value) =>
        return (← documentOf graph levels key, ← documentOf graph levels value))
    | 0, _ => failure

/-- The document of a text. -/
def document? (graph : Graph) : Option Document :=
  ((graph.documentOf nestingLimit graph.root).run 0).map Prod.fst

end Graph

end Statechart.Yaml

namespace Statechart

/-- The description that an indented text gives. -/
def Description.ofYaml (text : String) : Except Error Description :=
  let found := do
    match ← Yaml.Graph.ofText? text with
    | none => none
    | some graph => Description.ofDocument? (← graph.document?)
  match found with
  | some description => .ok description
  | none => .error (.badRequest .yaml .malformed)

end Statechart
