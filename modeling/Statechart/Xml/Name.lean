/-
**Characters and names of marked-up documents.**

A document holds only the characters that its grammar admits, and names are made of some of them. A
qualified name is a local name behind an optional prefix and a colon.
-/

namespace Statechart.Xml

/-- Whether a character separates the parts of a tag. -/
def isSpace (char : Char) : Bool := char = ' ' || char = '\t' || char = '\n' || char = '\r'

/-- Whether a document may hold a character. -/
def isAdmitted (char : Char) : Bool :=
  if char.toNat < 0x20 then isSpace char else char.toNat ≠ 0xFFFE && char.toNat ≠ 0xFFFF

/-- Whether a code point lies in one of several ranges. -/
def inRanges (ranges : List (Nat × Nat)) (code : Nat) : Bool :=
  ranges.any fun (first, last) => first ≤ code && code ≤ last

/-- The ranges of characters beyond the seven-bit ones with which a name may start. -/
def startRanges : List (Nat × Nat) :=
  [(0xC0, 0xD6), (0xD8, 0xF6), (0xF8, 0x2FF), (0x370, 0x37D), (0x37F, 0x1FFF), (0x200C, 0x200D),
   (0x2070, 0x218F), (0x2C00, 0x2FEF), (0x3001, 0xD7FF), (0xF900, 0xFDCF), (0xFDF0, 0xFFFD),
   (0x10000, 0xEFFFF)]

/-- The ranges of characters beyond the seven-bit ones that may stand in a name but not start it. -/
def innerRanges : List (Nat × Nat) := [(0xB7, 0xB7), (0x300, 0x36F), (0x203F, 0x2040)]

/-- Whether a name may start with a character. -/
def isNameStart (char : Char) : Bool :=
  if char.toNat < 128 then char.isAlpha || char = ':' || char = '_'
  else inRanges startRanges char.toNat

/-- Whether a name may hold a character. -/
def isNameChar (char : Char) : Bool :=
  if char.toNat < 128 then char.isAlphanum || char = ':' || char = '_' || char = '-' || char = '.'
  else inRanges startRanges char.toNat || inRanges innerRanges char.toNat

/-- A text from its first character that is no space. -/
def skipSpaces (text : List Char) : List Char := text.dropWhile isSpace

/-- The rest of a text behind a word. -/
def behind? : List Char → List Char → Option (List Char)
  | [], text => some text
  | expected :: word, char :: rest => if expected = char then behind? word rest else none
  | _ :: _, [] => none

/-- Whether a text starts with a word. -/
def startsWith (word text : List Char) : Bool := (behind? word text).isSome

/-- The part of a text before the first place with a property, and the rest. Every character before
that place has to be admitted, and so has the one at it. -/
def until? (stop : List Char → Bool) : List Char → Option (List Char × List Char)
  | [] => some ([], [])
  | char :: rest =>
    if !isAdmitted char then none
    else if stop (char :: rest) then some ([], char :: rest)
    else (until? stop rest).map fun (before, rest) => (char :: before, rest)

/-- The name at the start of a text. -/
def name? (text : List Char) : Option (List Char × List Char) :=
  match text with
  | [] => none
  | first :: _ => if isNameStart first then some (text.span isNameChar) else none

/-- A name with its prefix, which is empty if there is none. -/
structure QualifiedName where
  space : String
  name : String
  deriving DecidableEq

/-- The qualified name that characters give: at most one colon, and both parts start as names do,
except that the part before the colon may be empty. -/
def qualified? (chars : List Char) : Option QualifiedName :=
  let parts (space name : List Char) : Option QualifiedName :=
    if space.head?.all isNameStart && name.head?.any isNameStart then
      some { space := String.ofList space, name := String.ofList name }
    else none
  match chars.span (· ≠ ':') with
  | (name, []) => parts [] name
  | (space, _ :: name) => if name.contains ':' then none else parts space name

/-- The qualified name at the start of a text. -/
def qualifiedName? (text : List Char) : Option (QualifiedName × List Char) := do
  let (chars, rest) := text.span isNameChar
  let name ← qualified? chars
  return (name, rest)

end Statechart.Xml
