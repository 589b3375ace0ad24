/-
**Nodes of an indented text.**

A text is a tree of scalars, sequences and mappings. A node may carry an anchor, and an alias stands
for the node that carries its anchor. `Node.ofTokens?` finds the tree in the tokens of a text of at
most one document.
-/

import Statechart.Yaml.Token

namespace Statechart.Yaml

open Text

/-- What a node may carry: an anchor and a tag. -/
structure Properties (α : Type) where
  anchor : Option α := none
  tag : Option Tag := none

/-- A node whose anchors are of some type. -/
inductive Node (α : Type)
  | alias (anchor : α)
  | scalar (properties : Properties α) (style : Style) (text : String)
  | sequence (properties : Properties α) (items : List (Node α))
  | mapping (properties : Properties α) (entries : List (Node α × Node α))

namespace Node

variable {α : Type}

/-- A node of which nothing is written. -/
def empty : Node α := .scalar {} .plain ""

instance : Inhabited (Node α) := ⟨empty⟩

/-- What a node carries. -/
def properties : Node α → Properties α
  | .alias _ => {}
  | .scalar properties _ _ => properties
  | .sequence properties _ => properties
  | .mapping properties _ => properties

end Node

/-! ### Directives -/

/-- The handles of a document, and the tokens behind its directives. The version is given at most
once, and so is each handle. -/
def directives? : List Token → Bool → Handles → Option (Handles × List Token)
  | .version major minor :: rest, isGiven, handles =>
    if isGiven ∨ major ≠ 1 ∨ (minor ≠ 1 ∧ minor ≠ 2) then none else directives? rest true handles
  | .handle name start :: rest, isGiven, handles =>
    if handles.any fun found => found.1 = name then none
    else directives? rest isGiven (handles ++ [(name, start)])
  | tokens, _, handles => some (handles ++ standardHandles, tokens)

/-! ### Nodes -/

/-- The anchor at the start of tokens. -/
def anchor? : List Token → Option String × List Token
  | .anchor name :: rest => (some name, rest)
  | tokens => (none, tokens)

/-- The tag at the start of tokens. -/
def writtenTag? : List Token → Option WrittenTag × List Token
  | .tag written :: rest => (some written, rest)
  | tokens => (none, tokens)

/-- The anchor and the tag at the start of tokens, in either order. -/
def properties? (handles : Handles) (tokens : List Token) :
    Option (Properties String × List Token) := do
  let (before, tokens) := anchor? tokens
  let (written, tokens) := writtenTag? tokens
  let (anchor, tokens) :=
    match before, written with
    | none, some _ => anchor? tokens
    | _, _ => (before, tokens)
  let tag ←
    match written with
    | none => some none
    | some written => (written.resolve? handles).map some
  return ({ anchor, tag }, tokens)

/-- What a scalar carries: the tag that is only an exclamation mark is none. -/
def scalarProperties (properties : Properties String) : Properties String :=
  if properties.tag = some (utf8 "!") then { properties with tag := none } else properties

/-- Where a node stands. -/
inductive Position
  /-- In an indented collection, or on top of a document. -/
  | block
  /-- In an indented mapping, where the entries of a sequence need no indentation. -/
  | member
  /-- Within brackets. -/
  | flow
  deriving DecidableEq

/-- The parsers of collections: the tokens of a document are read by each for its part. -/
abbrev Parsed := Option (Node String × List Token)

/-- Whether the node in an entry of an indented sequence is left out before a token. -/
def endsEntry : List Token → Bool
  | .blockEntry :: _ | .blockEnd :: _ => true
  | _ => false

/-- The same for an entry without indentation of its own, and for the parts of a mapping. -/
def endsMember : List Token → Bool
  | .key :: _ | .value :: _ | .blockEnd :: _ => true
  | _ => false

/-- Whether a node in a bracketed sequence is left out before a token. -/
def endsItem : List Token → Bool
  | .flowEntry :: _ | .flowSequenceEnd :: _ => true
  | _ => false

/-- Whether a node in a bracketed mapping is left out before a token. -/
def endsPart : List Token → Bool
  | .flowEntry :: _ | .flowMappingEnd :: _ => true
  | _ => false

/-- Whether tokens start with the colon of a value. -/
def atValue : List Token → Bool
  | .value :: _ => true
  | _ => false

mutual

/-- The node at the start of tokens. -/
def node? (handles : Handles) : Nat → Position → List Token → Parsed
  | 0, _, _ => none
  | _ + 1, _, .alias name :: rest => some (.alias name, rest)
  | fuel + 1, position, tokens => do
    let (properties, tokens) ← properties? handles tokens
    match tokens with
    | .scalar style text :: rest => some (.scalar (scalarProperties properties) style text, rest)
    | .flowSequenceStart :: rest => do
      let (items, rest) ← flowItems? handles fuel true rest
      return (.sequence properties items, rest)
    | .flowMappingStart :: rest => do
      let (entries, rest) ← flowEntries? handles fuel true rest
      return (.mapping properties entries, rest)
    | tokens =>
      match position, tokens with
      | .member, .blockEntry :: _ => do
        let (items, rest) ← members? handles fuel tokens
        return (.sequence properties items, rest)
      | .block, .blockSequenceStart :: rest | .member, .blockSequenceStart :: rest => do
        let (items, rest) ← blockItems? handles fuel rest
        return (.sequence properties items, rest)
      | .block, .blockMappingStart :: rest | .member, .blockMappingStart :: rest => do
        let (entries, rest) ← blockEntries? handles fuel rest
        return (.mapping properties entries, rest)
      | _, _ =>
        if properties.anchor.isSome || properties.tag.isSome then
          some (.scalar properties .plain "", tokens)
        else none

/-- The items of an indented sequence, up to its end. -/
def blockItems? (handles : Handles) : Nat → List Token → Option (List (Node String) × List Token)
  | 0, _ => none
  | fuel + 1, .blockEntry :: rest => do
    let (item, rest) ←
      if endsEntry rest then some (Node.empty, rest) else node? handles fuel .block rest
    let (items, rest) ← blockItems? handles fuel rest
    return (item :: items, rest)
  | _ + 1, .blockEnd :: rest => some ([], rest)
  | _ + 1, _ => none

/-- The items of a sequence without indentation of its own. -/
def members? (handles : Handles) : Nat → List Token → Option (List (Node String) × List Token)
  | 0, _ => none
  | fuel + 1, .blockEntry :: rest => do
    let (item, rest) ←
      if endsEntry rest || endsMember rest then some (Node.empty, rest)
      else node? handles fuel .block rest
    let (items, rest) ← members? handles fuel rest
    return (item :: items, rest)
  | _ + 1, tokens => some ([], tokens)

/-- A part of an indented mapping, which may be left out. -/
def part? (handles : Handles) : Nat → List Token → Parsed
  | 0, _ => none
  | fuel + 1, tokens =>
    if endsMember tokens then some (Node.empty, tokens) else node? handles fuel .member tokens

/-- The value of an entry of an indented mapping, which may be left out with its colon. -/
def blockValue? (handles : Handles) : Nat → List Token → Parsed
  | 0, _ => none
  | fuel + 1, .value :: rest => part? handles fuel rest
  | _ + 1, tokens => some (Node.empty, tokens)

/-- The entries of an indented mapping, up to its end. -/
def blockEntries? (handles : Handles) :
    Nat → List Token → Option (List (Node String × Node String) × List Token)
  | 0, _ => none
  | fuel + 1, .key :: rest => do
    let (key, rest) ← part? handles fuel rest
    let (value, rest) ← blockValue? handles fuel rest
    let (entries, rest) ← blockEntries? handles fuel rest
    return ((key, value) :: entries, rest)
  | _ + 1, .blockEnd :: rest => some ([], rest)
  | _ + 1, _ => none

/-- The value of an entry within brackets, which may be left out with its colon, or behind it before
some tokens. -/
def flowValue? (handles : Handles) (isLeftOut : List Token → Bool) : Nat → List Token → Parsed
  | 0, _ => none
  | fuel + 1, .value :: rest =>
    if isLeftOut rest then some (Node.empty, rest) else node? handles fuel .flow rest
  | _ + 1, tokens => some (Node.empty, tokens)

/-- The one entry of a mapping that is an item of a bracketed sequence, behind its question mark. A
key that is left out takes the token behind it along. -/
def pair? (handles : Handles) : Nat → List Token → Parsed
  | 0, _ => none
  | fuel + 1, tokens => do
    let (key, rest) ←
      if atValue tokens || endsItem tokens then some (Node.empty, tokens.drop 1)
      else node? handles fuel .flow tokens
    let (value, rest) ← flowValue? handles endsItem fuel rest
    return (.mapping {} [(key, value)], rest)

/-- The items of a bracketed sequence, up to its end, with commas between them. -/
def flowItems? (handles : Handles) :
    Nat → Bool → List Token → Option (List (Node String) × List Token)
  | 0, _, _ => none
  | _ + 1, _, .flowSequenceEnd :: rest => some ([], rest)
  | fuel + 1, isFirst, tokens => do
    let tokens ←
      if isFirst then some tokens
      else
        match tokens with
        | .flowEntry :: rest => some rest
        | _ => none
    match tokens with
    | .flowSequenceEnd :: rest => some ([], rest)
    | .key :: rest => do
      let (item, rest) ← pair? handles fuel rest
      let (items, rest) ← flowItems? handles fuel false rest
      return (item :: items, rest)
    | tokens => do
      let (item, rest) ← node? handles fuel .flow tokens
      let (items, rest) ← flowItems? handles fuel false rest
      return (item :: items, rest)

/-- The entries of a bracketed mapping, up to its end, with commas between them. -/
def flowEntries? (handles : Handles) :
    Nat → Bool → List Token → Option (List (Node String × Node String) × List Token)
  | 0, _, _ => none
  | _ + 1, _, .flowMappingEnd :: rest => some ([], rest)
  | fuel + 1, isFirst, tokens => do
    let tokens ←
      if isFirst then some tokens
      else
        match tokens with
        | .flowEntry :: rest => some rest
        | _ => none
    match tokens with
    | .flowMappingEnd :: rest => some ([], rest)
    | .key :: rest => do
      let (key, rest) ←
        if atValue rest || endsPart rest then some (Node.empty, rest)
        else node? handles fuel .flow rest
      let (value, rest) ← flowValue? handles endsPart fuel rest
      let (entries, rest) ← flowEntries? handles fuel false rest
      return ((key, value) :: entries, rest)
    | tokens => do
      let (key, rest) ← node? handles fuel .flow tokens
      let (entries, rest) ← flowEntries? handles fuel false rest
      return ((key, Node.empty) :: entries, rest)

end

/-! ### Documents -/

/-- Whether a document ends, or another one starts, before a token. -/
def endsDocument : List Token → Bool
  | [] => true
  | .version _ _ :: _ | .handle _ _ :: _ | .documentStart :: _ | .documentEnd :: _ => true
  | _ => false

/-- The tokens behind the marks of a document's end. -/
def skipEnds : List Token → List Token
  | .documentEnd :: rest => skipEnds rest
  | tokens => tokens

/-- The root of the one document that tokens hold; nothing inside if they hold none. -/
def Node.ofTokens? (tokens : List Token) : Option (Option (Node String)) := do
  if tokens.isEmpty then return none
  let isExplicit :=
    match tokens with
    | .version _ _ :: _ | .handle _ _ :: _ | .documentStart :: _ => true
    | _ => false
  let fuel := 4 * tokens.length + 4
  let (root, rest) ←
    if isExplicit then do
      let (handles, rest) ← directives? tokens false []
      match rest with
      | .documentStart :: rest =>
        if endsDocument rest then some (Node.empty, rest) else node? handles fuel .block rest
      | _ => none
    else node? standardHandles fuel .block tokens
  if (skipEnds rest).isEmpty then return some root else none

end Statechart.Yaml
