/-
**Reading marked-up documents.**

A document is one element, with comments and instructions around it. Document types are not
admitted. `root?` gives the element, or nothing if the text breaks the rules:

* tags nest, and an attribute or a namespace is given once in a tag;
* a prefix has to be declared at its element or around it.
-/

import Statechart.Xml.Node
import Statechart.Xml.Content

namespace Statechart.Xml

/-! ### Comments, instructions and sections -/

/-- The comment behind `<!--`. -/
def comment? (text : List Char) : Option (Node × List Char) := do
  let (value, rest) ← until? (startsWith "-->".toList) text
  let rest ← behind? "-->".toList rest
  if value.getLast? = some '-' then none
  else if (value.zip (value.drop 1)).contains ('-', '-') then none
  else some (.comment (String.ofList value), rest)

/-- The instruction behind `<?`. -/
def instruction? (text : List Char) : Option (Node × List Char) := do
  if startsWith "xml ".toList text then none
  let (target, rest) ← name? text
  let (data, rest) ← until? (startsWith "?>".toList) (skipSpaces rest)
  let rest ← behind? "?>".toList rest
  return (.instruction (String.ofList target) (String.ofList data), rest)

/-- The section behind `<![CDATA[`. -/
def section? (text : List Char) : Option (Node × List Char) := do
  let (value, rest) ← until? (startsWith "]]>".toList) text
  let rest ← behind? "]]>".toList rest
  return (.text (String.ofList (sectionText value)), rest)

/-- Whether a word stands anywhere in a text. -/
def hasInside (word : List Char) : List Char → Bool
  | [] => word.isEmpty
  | char :: rest => startsWith word (char :: rest) || hasInside word rest

/-- The text up to the next tag. -/
def text? (text : List Char) : Option (Node × List Char) := do
  let (data, rest) ← until? (fun rest => rest.head? = some '<') text
  if hasInside "]]>".toList data then none
  else
    let value ← textOf? data
    return (.text (String.ofList value), rest)

/-! ### Tags -/

/-- An attribute as it is written. -/
structure Written where
  name : QualifiedName
  value : String

/-- The data between quotes, up to the closing quote. -/
def quotedData? : List Char → Option (List Char × List Char)
  | quote :: rest => do
    if quote ≠ '"' ∧ quote ≠ '\'' then none
    let (data, rest) ← until? (fun rest => rest.head? = some quote || rest.head? = some '<') rest
    let rest ← behind? [quote] rest
    return (data, rest)
  | [] => none

/-- An attribute's name and the data between its quotes. -/
def attributeData? (text : List Char) : Option (QualifiedName × List Char × List Char) := do
  let (name, rest) ← qualifiedName? text
  let rest ← behind? ['='] (skipSpaces rest)
  let (data, rest) ← quotedData? (skipSpaces rest)
  return (name, data, rest)

/-- The attributes of a start tag, of which there are at most so many, whether the tag stays open,
and what stands behind it. -/
def attributes? : Nat → List Char → Option (List Written × Bool × List Char)
  | 0, _ => none
  | fuel + 1, text =>
    match skipSpaces text with
    | '/' :: '>' :: rest => some ([], false, rest)
    | '>' :: rest => some ([], true, rest)
    | start => do
      if (text.head?.map isSpace) ≠ some true then none
      let (name, data, rest) ← attributeData? start
      let value ← attributeValue? data
      let (others, isOpen, rest) ← attributes? fuel rest
      return ({ name, value } :: others, isOpen, rest)

/-! ### Namespaces -/

/-- The namespace of the prefix `xml`. -/
def xmlSpace : String := "http://www.w3.org/XML/1998/namespace"

/-- The namespace of declarations. -/
def declarationSpace : String := "http://www.w3.org/2000/xmlns/"

/-- The declared prefixes with their namespaces, innermost first; the default one has no prefix. -/
abbrev Scope := List (Option String × String)

/-- What an attribute declares: nothing, a namespace, or the one that needs no declaration. -/
inductive Declaration
  | none
  | space (pair : Option String × String)
  | builtIn

/-- What an attribute declares, if it declares nothing that is forbidden. -/
def declaration? (written : Written) : Option Declaration :=
  let { name, value } := written
  if name.space = "xmlns" then
    if value = declarationSpace then none
    else if name.name = "xml" then if value = xmlSpace then some .builtIn else none
    else if value = xmlSpace then none
    else some (.space (some name.name, value))
  else if name.name = "xmlns" then
    if value = xmlSpace ∨ value = declarationSpace then none else some (.space (none, value))
  else some .none

/-- The namespaces declared in a tag and its other attributes. A prefix is declared once. -/
def declarations? : List Written → Scope → Option (Scope × List Written)
  | [], declared => some (declared, [])
  | first :: rest, declared => do
    match ← declaration? first with
    | .none =>
      let (declared, others) ← declarations? rest declared
      return (declared, first :: others)
    | .builtIn => declarations? rest declared
    | .space pair =>
      if pair.1.isSome && declared.any fun found => found.1 = pair.1 then none
      else declarations? rest (declared ++ [pair])

/-- The namespace of a prefix. -/
def spaceOf? (scope : Scope) (space : String) : Option String :=
  (scope.find? fun found => found.1 = some space).map Prod.snd

/-- An attribute with the namespace of its prefix. -/
def resolve? (scope : Scope) (written : Written) : Option Attribute :=
  let { name, value } := written
  if name.space = "xml" then some { space := some xmlSpace, name := name.name, value }
  else if name.space = "" then some { space := none, name := name.name, value }
  else
    (spaceOf? scope name.space).map fun space => { space := some space, name := name.name, value }

/-- Whether no two attributes have one name in one namespace. -/
def areDistinct : List Attribute → Bool
  | [] => true
  | first :: rest =>
    rest.all (fun other => other.space ≠ first.space || other.name ≠ first.name) && areDistinct rest

/-- The scope inside a tag and the tag's attributes. -/
def tagScope? (scope : Scope) (name : QualifiedName) (written : List Written) :
    Option (Scope × List Attribute) := do
  let (declared, others) ← declarations? written []
  let scope := declared ++ scope
  let attributes ← others.mapM (resolve? scope)
  if name.space = "xmlns" then none
  else if name.space ≠ "" ∧ (spaceOf? scope name.space).isNone then none
  else if areDistinct attributes then some (scope, attributes)
  else none

/-! ### Elements -/

/-- The nodes of content with texts that touch put together. -/
def joinTexts : List Node → List Node
  | .text first :: rest =>
    match joinTexts rest with
    | .text second :: others => .text (first ++ second) :: others
    | others => .text first :: others
  | node :: rest => node :: joinTexts rest
  | [] => []

mutual

/-- The element behind `<`. -/
def element? : Nat → Scope → List Char → Option (Node × List Char)
  | 0, _, _ => none
  | fuel + 1, scope, text => do
    let (name, rest) ← qualifiedName? text
    let (written, isOpen, rest) ← attributes? (rest.length + 1) rest
    let (scope, attributes) ← tagScope? scope name written
    if isOpen then
      let (content, rest) ← content? fuel scope name rest
      return (.element name.name attributes (joinTexts content), rest)
    else
      return (.element name.name attributes [], rest)

/-- The content of an element of a name, and what stands behind its end tag. -/
def content? : Nat → Scope → QualifiedName → List Char → Option (List Node × List Char)
  | 0, _, _, _ => none
  | fuel + 1, scope, name, text =>
    match text with
    | [] => none
    | '<' :: '/' :: rest => do
      let (closed, rest) ← qualifiedName? rest
      let rest ← behind? ['>'] (skipSpaces rest)
      if closed = name then some ([], rest) else none
    | '<' :: '!' :: '-' :: '-' :: rest => do
      let (node, rest) ← comment? rest
      let (nodes, rest) ← content? fuel scope name rest
      return (node :: nodes, rest)
    | '<' :: '!' :: rest => do
      let rest ← behind? "[CDATA[".toList rest
      let (node, rest) ← section? rest
      let (nodes, rest) ← content? fuel scope name rest
      return (node :: nodes, rest)
    | '<' :: '?' :: rest => do
      let (node, rest) ← instruction? rest
      let (nodes, rest) ← content? fuel scope name rest
      return (node :: nodes, rest)
    | '<' :: rest => do
      let (node, rest) ← element? fuel scope rest
      let (nodes, rest) ← content? fuel scope name rest
      return (node :: nodes, rest)
    | _ => do
      let (node, rest) ← text? text
      let (nodes, rest) ← content? fuel scope name rest
      return (node :: nodes, rest)

end

/-! ### Documents -/

/-- A text behind the comments and instructions at its start, of which there are at most so many. -/
def skipAround? : Nat → List Char → Option (List Char)
  | 0, text => some text
  | fuel + 1, text =>
    match skipSpaces text with
    | '<' :: '!' :: '-' :: '-' :: rest => do
      let (_, rest) ← comment? rest
      skipAround? fuel rest
    | '<' :: '?' :: rest => do
      let (_, rest) ← instruction? rest
      skipAround? fuel rest
    | rest => some rest

/-- The rest of a declaration behind one of its parts: behind spaces, or at its end. -/
def behindPart? (text : List Char) : Option (List Char) :=
  if (text.head?.map isSpace) = some true then some (skipSpaces text)
  else if startsWith "?>".toList text then some text
  else none

/-- The rest of a text behind the declaration that starts with `<?xml`. -/
def behindDeclaration? (text : List Char) : Option (List Char) := do
  let text ← behindPart? text
  if !startsWith "version".toList text then none
  let (_, _, text) ← attributeData? text
  let text ← behindPart? text
  let text ←
    if startsWith "encoding".toList text then do
      let (_, _, text) ← attributeData? text
      behindPart? text
    else some text
  let text ←
    if startsWith "standalone".toList text then do
      let (_, _, text) ← attributeData? text
      some text
    else some text
  behind? "?>".toList (skipSpaces text)

/-- A text without the mark of its byte order. -/
def behindByteOrderMark : List Char → List Char
  | first :: rest => if first.toNat = 0xFEFF then rest else first :: rest
  | [] => []

/-- The element of a document. -/
def root? (document : String) : Option Element := do
  let text := behindByteOrderMark document.toList
  let text ← if startsWith "<?xml ".toList text then behindDeclaration? (text.drop 5) else some text
  let text ← skipAround? text.length text
  let rest ← behind? ['<'] text
  let (node, rest) ← element? (2 * rest.length + 1) [] rest
  let rest ← skipAround? rest.length rest
  if rest.isEmpty then node.element? else none

end Statechart.Xml
