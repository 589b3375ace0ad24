/-
**Reading records of known fields.**

A reader takes from a document what it knows. Aliases are followed, and counted, where something is
read. Truth values and numbers are plain scalars; so a quoted one is a text. A record is a mapping,
or nothing at all. A known field is given once; an entry of another name is passed over.
-/

import Statechart.Yaml.Graph
import Statechart.Yaml.Plain

namespace Statechart.Yaml

/-- Something read from a document. The state counts the aliases that were followed. -/
abbrev Walk (β : Type) := StateT Nat Option β

namespace Graph

variable {β : Type}

/-- The text of a scalar. -/
def text (graph : Graph) (node : Node Nat) : Walk String := do
  match ← graph.follow node with
  | .scalar _ _ text => return text
  | _ => failure

/-- Whether a scalar may be a value of a type: it is plain, or literal with the tag of the type. -/
def isValue (core : CoreTag) (properties : Properties Nat) (style : Style) : Bool :=
  match style with
  | .plain => true
  | .literal => properties.tag.bind CoreTag.ofTag? = some core
  | _ => false

/-- The value of a scalar of a type. -/
def scalar (graph : Graph) (core : CoreTag) (value? : String → Option β) (node : Node Nat) :
    Walk β := do
  match ← graph.follow node with
  | .scalar properties style text =>
    if isValue core properties style then liftM (value? text) else failure
  | _ => failure

/-- The truth value of a scalar. -/
def truth (graph : Graph) : Node Nat → Walk Bool := graph.scalar .bool bool?

/-- The whole number of a scalar. -/
def natural (graph : Graph) : Node Nat → Walk Nat :=
  graph.scalar .int fun text => natural? text.toList

/-- The name that a scalar is, or that the tag is which is all that is written of it. -/
def choice (graph : Graph) (node : Node Nat) : Walk String := do
  match ← graph.follow node with
  | .scalar properties style text =>
    match properties.tag.bind localName? with
    | none => return text
    | some name =>
      if style = .plain && (text.isEmpty || isNull text) then return name else failure
  | _ => failure

/-- The entries of a mapping, none if nothing is written. -/
def entries (graph : Graph) (node : Node Nat) : Walk (List (Node Nat × Node Nat)) := do
  match ← graph.follow node with
  | .mapping _ entries => return entries
  | .scalar _ .plain "" => return []
  | _ => failure

/-- Puts the values of entries at the places of their names. -/
def placeEntries (graph : Graph) (names : List String) :
    List (Node Nat × Node Nat) → List (Option (Node Nat)) → Walk (List (Option (Node Nat)))
  | [], fields => return fields
  | (key, value) :: entries, fields => do
    let name ← graph.text key
    match names.findIdx? (· = name) with
    | none => graph.placeEntries names entries fields
    | some position =>
      match fields[position]? with
      | some (some _) => failure
      | _ => graph.placeEntries names entries (fields.set position (some value))

/-- The values at the fields of some names. -/
def fields (graph : Graph) (names : List String) (node : Node Nat) :
    Walk (List (Option (Node Nat))) := do
  graph.placeEntries names (← graph.entries node) (names.map fun _ => none)

/-- What a field holds, or a default if it is left out. -/
def field (fields : List (Option (Node Nat))) (position : Nat) (read : Node Nat → Walk β)
    (default : β) : Walk β :=
  match fields[position]? with
  | some (some node) => read node
  | _ => return default

/-- What a reader gives for the document. -/
def read? (graph : Graph) (read : Node Nat → Walk β) : Option β :=
  ((read graph.root).run 0).map Prod.fst

end Graph

end Statechart.Yaml
