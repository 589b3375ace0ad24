/-
**Texts whose nodes are shared.**

An anchor gets the number of anchors known before it, and an alias has the number that its anchor
had last. A number stands for the last node that carries it. An anchor that is given twice is known
once, so the next one can take its number over.
-/

import Statechart.Yaml.Node
import Statechart.Dict

namespace Statechart.Yaml

/-- The number of each known anchor. -/
abbrev Anchors := Dict String Nat

/-- A computation that knows the anchors before it. -/
abbrev Numbering (β : Type) := StateT Anchors Option β

/-- Properties with a number for their anchor, which is known from now on. -/
def Properties.number (properties : Properties String) : Numbering (Properties Nat) := do
  match properties.anchor with
  | none => return { anchor := none, tag := properties.tag }
  | some name =>
    let known ← get
    set (known.insert name known.size)
    return { anchor := some known.size, tag := properties.tag }

/-- The number of an alias, whose anchor has to be known. -/
def aliasNumber (name : String) : Numbering Nat := do
  let known ← get
  match known.get? name with
  | some number => return number
  | none => failure

namespace Node

mutual

/-- A node with numbers for its anchors. -/
def number : Node String → Numbering (Node Nat)
  | .alias name => return .alias (← aliasNumber name)
  | .scalar properties style text => return .scalar (← properties.number) style text
  | .sequence properties items => return .sequence (← properties.number) (← numberItems items)
  | .mapping properties entries => return .mapping (← properties.number) (← numberEntries entries)

/-- Several nodes with numbers for their anchors. -/
def numberItems : List (Node String) → Numbering (List (Node Nat))
  | [] => return []
  | item :: items => return (← number item) :: (← numberItems items)

/-- Several entries with numbers for their anchors. -/
def numberEntries : List (Node String × Node String) → Numbering (List (Node Nat × Node Nat))
  | [] => return []
  | (key, value) :: entries => return (← number key, ← number value) :: (← numberEntries entries)

end

mutual

/-- The nodes of each number, with those inside a node, each behind the nodes around it. -/
def places : Node Nat → Dict Nat (Node Nat) → Dict Nat (Node Nat)
  | .alias _, found => found
  | .scalar properties style text, found =>
    match properties.anchor with
    | some number => found.insert number (.scalar properties style text)
    | none => found
  | .sequence properties items, found =>
    match properties.anchor with
    | some number => placesOfItems items (found.insert number (.sequence properties items))
    | none => placesOfItems items found
  | .mapping properties entries, found =>
    match properties.anchor with
    | some number => placesOfEntries entries (found.insert number (.mapping properties entries))
    | none => placesOfEntries entries found

/-- The same for several nodes. -/
def placesOfItems : List (Node Nat) → Dict Nat (Node Nat) → Dict Nat (Node Nat)
  | [], found => found
  | item :: items, found => placesOfItems items (places item found)

/-- The same for several entries. -/
def placesOfEntries : List (Node Nat × Node Nat) → Dict Nat (Node Nat) → Dict Nat (Node Nat)
  | [], found => found
  | (key, value) :: entries, found => placesOfEntries entries (places value (places key found))

end

mutual

/-- The size of a node: one for each scalar and alias, and two for each collection. -/
def size : Node Nat → Nat
  | .alias _ => 1
  | .scalar _ _ _ => 1
  | .sequence _ items => sizeOfItems items + 2
  | .mapping _ entries => sizeOfEntries entries + 2

/-- The size of several nodes. -/
def sizeOfItems : List (Node Nat) → Nat
  | [] => 0
  | item :: items => size item + sizeOfItems items

/-- The size of several entries. -/
def sizeOfEntries : List (Node Nat × Node Nat) → Nat
  | [] => 0
  | (key, value) :: entries => size key + size value + sizeOfEntries entries

end

end Node

/-- A document whose nodes may be shared. -/
structure Graph where
  root : Node Nat
  /-- The node of each number. -/
  places : Dict Nat (Node Nat)
  /-- How many times an alias may be followed in reading the document. -/
  aliasBound : Nat

namespace Graph

/-- An alias is followed so many times for each part of a document. -/
def aliasesPerPart : Nat := 100

/-- Lists and mappings may be nested this deep in a document, and no deeper. -/
def nestingLimit : Nat := 128

/-- The document of a text; nothing inside if the text holds no document. -/
def ofText? (text : String) : Option (Option Graph) := do
  match ← Node.ofTokens? (← Token.ofText? text) with
  | none => return none
  | some root =>
    let (root, _) ← (root.number).run ∅
    return some { root, places := root.places ∅, aliasBound := root.size * aliasesPerPart }

/-- The node that a node stands for, having counted the alias that was followed. -/
def follow (graph : Graph) : Node Nat → StateT Nat Option (Node Nat)
  | .alias number => do
    let followed ← get
    set (followed + 1)
    match graph.places.get? number with
    | some node => if followed + 1 ≤ graph.aliasBound then return node else failure
    | none => failure
  | node => return node

end Graph

end Statechart.Yaml
