/-
**Marked-up documents.**

A document is a tree of elements, texts, comments and instructions. An attribute without a prefix
is in no namespace; the namespace of an element plays no part.
-/

namespace Statechart.Xml

/-- An attribute of an element. -/
structure Attribute where
  /-- The namespace, none for an attribute without a prefix. -/
  space : Option String
  name : String
  value : String
  deriving DecidableEq

/-- A node of a document. -/
inductive Node
  | element (tag : String) (attributes : List Attribute) (content : List Node)
  | text (value : String)
  | comment (value : String)
  | instruction (target data : String)
  deriving Inhabited

/-- An element by itself: its tag, its attributes and what it holds. -/
structure Element where
  tag : String
  attributes : List Attribute
  content : List Node

namespace Node

/-- The element that a node is. -/
def element? : Node → Option Element
  | .element tag attributes content => some { tag, attributes, content }
  | _ => none

end Node

namespace Element

/-- The element as a node. -/
def toNode (element : Element) : Node := .element element.tag element.attributes element.content

/-- The value of an attribute that is in no namespace. -/
def attribute? (element : Element) (name : String) : Option String :=
  let named := element.attributes.find? fun found => found.space.isNone && found.name = name
  named.map Attribute.value

/-- The elements that an element holds directly. -/
def children (element : Element) : List Element := element.content.filterMap Node.element?

/-- The text that an element starts with, if it starts with text. -/
def text? (element : Element) : Option String :=
  match element.content with
  | .text value :: _ => some value
  | _ => none

end Element

end Statechart.Xml
