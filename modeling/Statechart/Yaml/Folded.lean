/-
**Scalars that run over lines.**

Plain and quoted scalars are words with gaps between them. A gap on one line is kept as it is; one
that goes over a line's end is folded: a single break becomes a space, and of several the first is
dropped.
-/

import Statechart.Yaml.Cursor
import Statechart.Text.Hex

namespace Statechart.Yaml

open Text

/-! ### Gaps -/

/-- What separates two words. -/
structure Gap where
  /-- The blanks on the first line. -/
  blanks : List Char := []
  /-- The breaks. -/
  breaks : List Char := []

namespace Gap

/-- The text that a gap stands for. -/
def text (gap : Gap) : List Char :=
  match gap.breaks with
  | [] => gap.blanks
  | first :: others =>
    if first = '\n' then if others.isEmpty then [' '] else others else first :: others

/-- Whether a gap goes over the end of a line. -/
def isBroken (gap : Gap) : Bool := !gap.breaks.isEmpty

/-- The gap at a cursor, of at most so many characters, and the cursor behind it. No tabulator may
stand before a column in a line behind the first. -/
def read? (margin : Nat) : Nat → Bool → Cursor → Option (Gap × Cursor)
  | 0, _, cursor => some ({}, cursor)
  | fuel + 1, behindBreak, cursor =>
    match cursor.break? with
    | some (char, next) => do
      let (gap, cursor) ← read? margin fuel true next
      return ({ gap with breaks := char :: gap.breaks }, cursor)
    | none =>
      match cursor.rest with
      | [] => some ({}, cursor)
      | char :: _ =>
        if !isBlank char then some ({}, cursor)
        else if behindBreak && cursor.column < margin && char = '\t' then none
        else do
          let (gap, cursor) ← read? margin fuel behindBreak (cursor.advance 1)
          return ({ gap with blanks := char :: gap.blanks }, cursor)

end Gap

/-- The gap at a cursor and the cursor behind it. -/
def gap? (margin : Nat) (cursor : Cursor) : Option (Gap × Cursor) :=
  Gap.read? margin cursor.rest.length false cursor

/-! ### Quoted scalars -/

/-- The text between single quotes, behind the first of them, of at most so many characters. -/
def singleQuoted? : Nat → Cursor → Option (List Char × Cursor)
  | 0, _ => none
  | fuel + 1, cursor =>
    if cursor.atDocumentMark then none
    else
      match cursor.rest with
      | [] => none
      | '\'' :: '\'' :: _ => do
        let (text, cursor) ← singleQuoted? fuel (cursor.advance 2)
        return ('\'' :: text, cursor)
      | '\'' :: _ => some ([], cursor.advance 1)
      | char :: _ =>
        if isSpace char then do
          let (gap, cursor) ← gap? 0 cursor
          let (text, cursor) ← singleQuoted? fuel cursor
          return (gap.text ++ text, cursor)
        else do
          let (text, cursor) ← singleQuoted? fuel (cursor.advance 1)
          return (char :: text, cursor)

/-- The code point that an escape of one letter stands for. -/
def simpleEscape? : Char → Option Nat
  | '0' => some 0x00
  | 'a' => some 0x07
  | 'b' => some 0x08
  | 't' => some 0x09
  | '\t' => some 0x09
  | 'n' => some 0x0A
  | 'v' => some 0x0B
  | 'f' => some 0x0C
  | 'r' => some 0x0D
  | 'e' => some 0x1B
  | ' ' => some 0x20
  | '"' => some 0x22
  | '/' => some 0x2F
  | '\\' => some 0x5C
  | 'N' => some 0x85
  | '_' => some 0xA0
  | 'L' => some 0x2028
  | 'P' => some 0x2029
  | _ => none

/-- The number of hexadecimal digits behind the letter of an escape. -/
def escapeDigits? : Char → Option Nat
  | 'x' => some 2
  | 'u' => some 4
  | 'U' => some 8
  | _ => none

/-- The number that so many hexadecimal digits at the start of a text give. -/
def hexNumber? (count : Nat) (text : List Char) : Option Nat :=
  let digits := text.take count
  if digits.length < count then none
  else digits.foldlM (fun number digit => (hexValue? digit).map (number * 16 + ·)) 0

/-- The character that the escape behind a backslash stands for, and how many characters it
takes. -/
def escape? : List Char → Option (Char × Nat)
  | [] => none
  | letter :: rest =>
    match escapeDigits? letter with
    | some count => do
      let code ← hexNumber? count rest
      if code.isValidChar then some (Char.ofNat code, count + 1) else none
    | none => (simpleEscape? letter).map fun code => (Char.ofNat code, 1)

/-- The text between double quotes, behind the first of them, of at most so many characters. -/
def doubleQuoted? : Nat → Cursor → Option (List Char × Cursor)
  | 0, _ => none
  | fuel + 1, cursor =>
    if cursor.atDocumentMark then none
    else
      match cursor.rest with
      | [] => none
      | '"' :: _ => some ([], cursor.advance 1)
      | '\\' :: rest =>
        if rest.head?.any isBreak then do
          let (gap, cursor) ← gap? 0 (cursor.advance 1).skipBreak
          let (text, cursor) ← doubleQuoted? fuel cursor
          return (gap.breaks ++ text, cursor)
        else do
          let (char, count) ← escape? rest
          let (text, cursor) ← doubleQuoted? fuel (cursor.advance (count + 1))
          return (char :: text, cursor)
      | char :: _ =>
        if isSpace char then do
          let (gap, cursor) ← gap? 0 cursor
          let (text, cursor) ← doubleQuoted? fuel cursor
          return (gap.text ++ text, cursor)
        else do
          let (text, cursor) ← doubleQuoted? fuel (cursor.advance 1)
          return (char :: text, cursor)

/-- The text of a quoted scalar behind its first quote. -/
def quoted? (isSingle : Bool) (cursor : Cursor) : Option (List Char × Cursor) :=
  if isSingle then singleQuoted? (cursor.rest.length + 1) cursor
  else doubleQuoted? (cursor.rest.length + 1) cursor

/-! ### Plain scalars -/

/-- Whether a character opens, closes or divides a bracketed collection. -/
def isFlowMark (char : Char) : Bool :=
  char = ',' || char = '[' || char = ']' || char = '\x7b' || char = '\x7d'

/-- The word of a plain scalar at the start of a text, which is empty where something else starts.
Within brackets a colon may not stand before a mark of the brackets or a question mark. -/
def plainWord? (inFlow : Bool) : List Char → Option (List Char)
  | [] => some []
  | char :: rest =>
    if isSpace char then some []
    else if inFlow && char = ':' && rest.head?.any fun next => isFlowMark next || next = '?' then
      none
    else if char = ':' && isWordEnd rest then some []
    else if inFlow && isFlowMark char then some []
    else (plainWord? inFlow rest).map (char :: ·)

/-- The text of a plain scalar from a cursor on, behind a gap, in at most so many words; whether the
gap behind its last word goes over the end of a line; and the cursor behind that gap. -/
def plainWords? (inFlow : Bool) (margin : Nat) :
    Nat → Gap → Cursor → Option (List Char × Bool × Cursor)
  | 0, gap, cursor => some ([], gap.isBroken, cursor)
  | fuel + 1, gap, cursor =>
    if cursor.atDocumentMark || cursor.rest.head? = some '#' then some ([], gap.isBroken, cursor)
    else do
      let word ← plainWord? inFlow cursor.rest
      if word.isEmpty then some ([], gap.isBroken, cursor)
      else
        let start := gap.text ++ word
        let cursor := cursor.advance word.length
        if !cursor.rest.head?.any isSpace then some (start, false, cursor)
        else
          let (gap, cursor) ← gap? margin cursor
          if !inFlow && cursor.column < margin then some (start, gap.isBroken, cursor)
          else
            let (text, isBroken, cursor) ← plainWords? inFlow margin fuel gap cursor
            return (start ++ text, isBroken, cursor)

/-- The text of a plain scalar, whether it is followed by the end of a line, and the cursor behind
both. Its words stand at a column or behind it, or else within brackets. -/
def plain? (inFlow : Bool) (margin : Nat) (cursor : Cursor) :
    Option (List Char × Bool × Cursor) :=
  plainWords? inFlow margin (cursor.rest.length + 1) {} cursor

end Statechart.Yaml
