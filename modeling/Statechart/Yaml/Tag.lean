/-
**Tags.**

A tag names the kind of a node. It is written in full between angle brackets, or as a suffix to a
handle, and a directive says what a handle stands for. In a suffix a percent sign and two
hexadecimal digits give a byte.
-/

import Statechart.Yaml.Cursor
import Statechart.Text.Hex

namespace Statechart.Yaml

open Text

/-- The text of a tag. -/
abbrev Tag := Bytes

/-- A tag as it is written: a handle, which is empty for a tag in full, and the rest. -/
structure WrittenTag where
  handle : String
  suffix : Bytes
  deriving DecidableEq

/-- Whether a tag may hold a character. Full tags and what directives give may hold more. -/
def isTagChar (isFull : Bool) (char : Char) : Bool :=
  isWordChar char || (";/?:@&=+$.!~*'()".toList.contains char) ||
    (isFull && ",[]".toList.contains char)

/-- The number of bytes that follow the first byte of a character. -/
def followers? (first : Nat) : Option Nat :=
  if first < 0x80 then some 0
  else if 0xC0 ≤ first ∧ first < 0xE0 then some 1
  else if 0xE0 ≤ first ∧ first < 0xF0 then some 2
  else if 0xF0 ≤ first ∧ first < 0xF8 then some 3
  else none

/-- The bytes of a tag's text at a cursor, of which so many still belong to the character before,
and the cursor behind them. -/
def tagBytes? (isFull : Bool) : Nat → Nat → Cursor → Option (Bytes × Cursor)
  | 0, _, cursor => some ([], cursor)
  | fuel + 1, owed, cursor =>
    match cursor.rest with
    | '%' :: high :: low :: _ => do
      let value := (← hexValue? high) * 16 + (← hexValue? low)
      let owed ←
        match owed with
        | 0 => followers? value
        | owed + 1 => if 0x80 ≤ value ∧ value < 0xC0 then some owed else none
      let (bytes, cursor) ← tagBytes? isFull fuel owed (cursor.advance 3)
      return (UInt8.ofNat value :: bytes, cursor)
    | char :: _ =>
      if owed ≠ 0 ∨ char = '%' then none
      else if isTagChar isFull char then do
        let (bytes, cursor) ← tagBytes? isFull fuel 0 (cursor.advance 1)
        return (UInt8.ofNat char.toNat :: bytes, cursor)
      else some ([], cursor)
    | [] => if owed = 0 then some ([], cursor) else none

/-- The text of a tag at a cursor, behind what was read of it before. It ends at its first zero. -/
def tagText? (isFull : Bool) (before : List Char) (cursor : Cursor) : Option (Bytes × Cursor) := do
  let (bytes, cursor) ← tagBytes? isFull cursor.rest.length 0 cursor
  if before.isEmpty && bytes.isEmpty then none
  else
    let start := before.drop 1 |>.map fun char => UInt8.ofNat char.toNat
    return ((start ++ bytes).takeWhile (· ≠ 0), cursor)

/-- What could be a handle at a cursor: an exclamation mark, the characters of a word, and a second
mark if there is one. -/
def handle? (cursor : Cursor) : Option (List Char × Cursor) :=
  match cursor.rest with
  | '!' :: _ =>
    let (word, cursor) := (cursor.advance 1).span isWordChar
    match cursor.rest with
    | '!' :: _ => some ('!' :: (word ++ ['!']), cursor.advance 1)
    | _ => some ('!' :: word, cursor)
  | _ => none

/-- The tag at a cursor. -/
def tag? (inFlow : Bool) (cursor : Cursor) : Option (WrittenTag × Cursor) := do
  let (tag, cursor) ←
    match cursor.rest with
    | '!' :: '<' :: _ => do
      let (suffix, cursor) ← tagText? true [] (cursor.advance 2)
      if cursor.rest.head? = some '>' then
        some ({ handle := "", suffix : WrittenTag }, cursor.advance 1)
      else none
    | _ => do
      let (handle, cursor) ← handle? cursor
      if 2 ≤ handle.length ∧ handle.getLast? = some '!' then
        let (suffix, cursor) ← tagText? false [] cursor
        some ({ handle := String.ofList handle, suffix }, cursor)
      else
        let (suffix, cursor) ← tagText? false handle cursor
        if suffix.isEmpty then some ({ handle := "", suffix := utf8 "!" }, cursor)
        else some ({ handle := "!", suffix }, cursor)
  if isWordEnd cursor.rest || inFlow && cursor.rest.head? = some ',' then some (tag, cursor)
  else none

/-- What handles stand for. -/
abbrev Handles := List (String × Bytes)

/-- The handles that need no directive. -/
def standardHandles : Handles := [("!", utf8 "!"), ("!!", utf8 "tag:yaml.org,2002:")]

/-- The tag that is written in a way. -/
def WrittenTag.resolve? (handles : Handles) (written : WrittenTag) : Option Tag :=
  if written.handle.isEmpty then some written.suffix
  else
    (handles.find? fun found => found.1 = written.handle).map fun found => found.2 ++ written.suffix

/-- The tags of the core schema. -/
inductive CoreTag
  | null
  | bool
  | int
  | float
  deriving DecidableEq

/-- The name of a tag of the core schema. -/
def CoreTag.name : CoreTag → String
  | .null => "null"
  | .bool => "bool"
  | .int => "int"
  | .float => "float"

/-- The tag of the core schema that a tag is. -/
def CoreTag.ofTag? (tag : Tag) : Option CoreTag :=
  [CoreTag.null, .bool, .int, .float].find? fun core =>
    tag = utf8 ("tag:yaml.org,2002:" ++ core.name)

/-- Whether a text chose a tag for itself: it starts with an exclamation mark. -/
def isLocal (tag : Tag) : Bool := tag.head? = some 0x21

/-- The name of a tag that a text chose for itself, if the bytes of its name are a text. -/
def localName? (tag : Tag) : Option String := if isLocal tag then ofUtf8? tag.tail else none

end Statechart.Yaml
