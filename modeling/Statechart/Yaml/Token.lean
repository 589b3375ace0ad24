/-
**Tokens of an indented text.**

`Token.ofText?` divides a text into tokens. Indentation becomes tokens that open and close
collections. That a node is the key of a mapping shows only at the colon behind it, so a place where
a key may start is remembered, and the token for the key is put there later.
-/

import Statechart.Yaml.Folded
import Statechart.Yaml.Block
import Statechart.Yaml.Tag

namespace Statechart.Yaml

open Text

/-- The ways in which a scalar is written. -/
inductive Style
  | plain
  /-- Between quotation marks of either kind. -/
  | quoted
  | literal
  | folded
  deriving DecidableEq

/-- A part of a text. -/
inductive Token
  /-- A directive that gives the version of the format. -/
  | version (major minor : Nat)
  /-- A directive that says what a handle stands for. -/
  | handle (name : String) (start : Bytes)
  | documentStart
  | documentEnd
  | blockSequenceStart
  | blockMappingStart
  | blockEnd
  | flowSequenceStart
  | flowSequenceEnd
  | flowMappingStart
  | flowMappingEnd
  | blockEntry
  | flowEntry
  | key
  | value
  | alias (name : String)
  | anchor (name : String)
  | tag (written : WrittenTag)
  | scalar (style : Style) (text : String)
  deriving DecidableEq

/-- A place where a key may have started. -/
structure Candidate where
  /-- The number of tokens before it. -/
  tokens : Nat
  index : Nat
  line : Nat
  column : Nat
  /-- Whether nothing but a key may stand there. -/
  isRequired : Bool

/-- A text that is divided into tokens as far as its cursor. -/
structure Lexer where
  cursor : Cursor
  /-- The tokens, the last one first. -/
  tokens : List Token := []
  /-- The number of tokens. -/
  count : Nat := 0
  /-- The columns of the open collections that are not bracketed, the innermost one first. -/
  columns : List Nat := []
  /-- Whether a key may start at the cursor. -/
  keyAllowed : Bool := true
  /-- Where a key may have started within the innermost open brackets. -/
  candidate : Option Candidate := none
  /-- The same for the brackets around them, and for the text around all brackets. -/
  outer : List (Option Candidate) := []

namespace Lexer

/-- Whether a cursor is within brackets. -/
def inFlow (lexer : Lexer) : Bool := !lexer.outer.isEmpty

/-- The lexer with one more token. -/
def push (lexer : Lexer) (token : Token) : Lexer :=
  { lexer with tokens := token :: lexer.tokens, count := lexer.count + 1 }

/-- The lexer with a token put behind so many others. -/
def insert (lexer : Lexer) (before : Nat) (token : Token) : Lexer :=
  let behind := lexer.count - before
  { lexer with
    tokens := lexer.tokens.take behind ++ token :: lexer.tokens.drop behind
    count := lexer.count + 1 }

/-- The lexer so many characters further on the same line. -/
def advance (lexer : Lexer) (count : Nat) : Lexer :=
  { lexer with cursor := lexer.cursor.advance count }

/-! ### Indentation -/

/-- Opens a collection at a column unless one is open there or behind it, and puts its token behind
so many others. -/
def openBlock (lexer : Lexer) (column before : Nat) (token : Token) : Lexer :=
  if lexer.inFlow then lexer
  else
    match lexer.columns with
    | [] => { lexer with columns := [column] }.insert before token
    | innermost :: _ =>
      if innermost < column then
        { lexer with columns := column :: lexer.columns }.insert before token
      else lexer

/-- Closes the open collections behind a column, or all of them. -/
def closeBlocks (lexer : Lexer) (column : Option Nat) : Lexer :=
  if lexer.inFlow then lexer
  else
    let closed := lexer.columns.takeWhile fun innermost => column.all (· < innermost)
    closed.foldl (fun lexer _ => lexer.push .blockEnd)
      { lexer with columns := lexer.columns.drop closed.length }

/-! ### Keys -/

/-- Forgets the place where a key may have started, unless there has to be a key. -/
def forget? : Option Candidate → Option (Option Candidate)
  | none => some none
  | some candidate => if candidate.isRequired then none else some none

/-- The lexer that has forgotten where a key may have started within the innermost brackets. -/
def dropCandidate? (lexer : Lexer) : Option Lexer := do
  return { lexer with candidate := ← forget? lexer.candidate }

/-- A key ends on its line, within this many characters. -/
def keyLength : Nat := 1024

/-- Forgets a place from which a key cannot reach to a cursor. -/
def refresh? (cursor : Cursor) : Option Candidate → Option (Option Candidate)
  | none => some none
  | some candidate =>
    if candidate.line < cursor.line ∨ candidate.index + keyLength < cursor.index then
      forget? (some candidate)
    else some (some candidate)

/-- Remembers that a key may start at the cursor. -/
def saveCandidate? (lexer : Lexer) : Option Lexer :=
  if lexer.keyAllowed then do
    let lexer ← lexer.dropCandidate?
    let { index, line, column, .. } := lexer.cursor
    let isRequired := !lexer.inFlow && lexer.columns.head? = some column
    let candidate : Candidate := { tokens := lexer.count, index, line, column, isRequired }
    return { lexer with candidate := some candidate }
  else some lexer

/-! ### Single tokens -/

/-- The lexer behind a mark of one character. -/
def mark (lexer : Lexer) (token : Token) (keyAllowed : Bool) : Lexer :=
  { (lexer.push token).advance 1 with keyAllowed }

/-- The lexer behind a number of at most nine digits. -/
def number? (cursor : Cursor) : Option (Nat × Cursor) :=
  let (digits, cursor) := cursor.span Char.isDigit
  if digits.isEmpty ∨ 9 < digits.length then none
  else some (digits.foldl (fun number digit => number * 10 + (digit.toNat - '0'.toNat)) 0, cursor)

/-- The version at a cursor. -/
def version? (cursor : Cursor) : Option (Token × Cursor) := do
  let (major, cursor) ← number? (cursor.skipWhile isBlank)
  if cursor.rest.head? = some '.' then
    let (minor, cursor) ← number? (cursor.advance 1)
    some (.version major minor, cursor)
  else none

/-- A handle and what it stands for, at a cursor. -/
def handleMeaning? (cursor : Cursor) : Option (Token × Cursor) := do
  let (name, cursor) ← handle? (cursor.skipWhile isBlank)
  if name ≠ ['!'] ∧ (name.length < 2 ∨ name.getLast? ≠ some '!') then none
  else if !cursor.rest.head?.any isBlank then none
  else
    let (start, cursor) ← tagText? true [] (cursor.skipWhile isBlank)
    if isWordEnd cursor.rest then some (.handle (String.ofList name) start, cursor) else none

/-- The lexer behind a directive. -/
def directive? (lexer : Lexer) : Option Lexer := do
  let lexer ← (lexer.closeBlocks none).dropCandidate?
  let (name, cursor) := (lexer.cursor.advance 1).span isWordChar
  if !isWordEnd cursor.rest then none
  else
    let (token, cursor) ←
      match String.ofList name with
      | "YAML" => version? cursor
      | "TAG" => handleMeaning? cursor
      | _ => none
    let cursor ← cursor.lineEnd?
    return { lexer.push token with cursor, keyAllowed := false }

/-- The lexer behind the mark of a document's start or end. -/
def documentMark? (lexer : Lexer) (token : Token) : Option Lexer := do
  let lexer ← (lexer.closeBlocks none).dropCandidate?
  return { (lexer.push token).advance 3 with keyAllowed := false }

/-- The lexer behind an opening bracket. -/
def open? (lexer : Lexer) (token : Token) : Option Lexer := do
  let lexer ← lexer.saveCandidate?
  return { lexer with candidate := none, outer := lexer.candidate :: lexer.outer }.mark token true

/-- The lexer behind a closing bracket. -/
def close? (lexer : Lexer) (token : Token) : Option Lexer := do
  let lexer ← lexer.dropCandidate?
  let lexer :=
    match lexer.outer with
    | [] => lexer
    | candidate :: outer => { lexer with candidate, outer }
  return lexer.mark token false

/-- The lexer behind a comma. -/
def flowEntry? (lexer : Lexer) : Option Lexer := do
  let lexer ← lexer.dropCandidate?
  return lexer.mark .flowEntry true

/-- Opens a collection at the cursor, where a key has to be allowed unless it is within brackets. -/
def openHere? (lexer : Lexer) (token : Token) : Option Lexer :=
  if lexer.inFlow then some lexer
  else if lexer.keyAllowed then some (lexer.openBlock lexer.cursor.column lexer.count token)
  else none

/-- The lexer behind a dash. -/
def blockEntry? (lexer : Lexer) : Option Lexer := do
  let lexer ← lexer.openHere? .blockSequenceStart
  let lexer ← lexer.dropCandidate?
  return lexer.mark .blockEntry true

/-- The lexer behind a question mark. -/
def key? (lexer : Lexer) : Option Lexer := do
  let lexer ← lexer.openHere? .blockMappingStart
  let lexer ← lexer.dropCandidate?
  return lexer.mark .key (!lexer.inFlow)

/-- The lexer behind a colon. If a key may have started before it, there it did. -/
def value? (lexer : Lexer) : Option Lexer :=
  match lexer.candidate with
  | some candidate =>
    let lexer := lexer.insert candidate.tokens .key
    let lexer := lexer.openBlock candidate.column candidate.tokens .blockMappingStart
    some ({ lexer with candidate := none }.mark .value false)
  | none => do
    let lexer ← lexer.openHere? .blockMappingStart
    return lexer.mark .value (!lexer.inFlow)

/-- Whether a text goes on in a way in which a name may end. -/
def endsName : List Char → Bool
  | [] => true
  | char :: _ => isSpace char || "?:,]\x7d%@`".toList.contains char

/-- The lexer behind an anchor or an alias. -/
def name? (lexer : Lexer) (token : String → Token) : Option Lexer := do
  let lexer ← lexer.saveCandidate?
  let (name, cursor) := (lexer.cursor.advance 1).span isWordChar
  if name.isEmpty || !endsName cursor.rest then none
  else return { lexer.push (token (String.ofList name)) with cursor, keyAllowed := false }

/-- The lexer behind a tag. -/
def tagged? (lexer : Lexer) : Option Lexer := do
  let lexer ← lexer.saveCandidate?
  let (tag, cursor) ← tag? lexer.inFlow lexer.cursor
  return { lexer.push (.tag tag) with cursor, keyAllowed := false }

/-- The lexer behind a block of lines. -/
def blockScalar? (lexer : Lexer) (isLiteral : Bool) : Option Lexer := do
  let lexer ← lexer.dropCandidate?
  let (text, cursor) ← block? isLiteral lexer.columns.head? (lexer.cursor.advance 1)
  let style : Style := if isLiteral then .literal else .folded
  return { lexer.push (.scalar style (String.ofList text)) with cursor, keyAllowed := true }

/-- The lexer behind a quoted scalar. -/
def quotedScalar? (lexer : Lexer) (isSingle : Bool) : Option Lexer := do
  let lexer ← lexer.saveCandidate?
  let (text, cursor) ← Yaml.quoted? isSingle (lexer.cursor.advance 1)
  return { lexer.push (.scalar .quoted (String.ofList text)) with cursor, keyAllowed := false }

/-- The column before which a plain scalar cannot go on. -/
def margin (lexer : Lexer) : Nat := (lexer.columns.head?.map (· + 1)).getD 0

/-- The lexer behind a plain scalar. -/
def plainScalar? (lexer : Lexer) : Option Lexer := do
  let lexer ← lexer.saveCandidate?
  let (text, isBroken, cursor) ← plain? lexer.inFlow lexer.margin lexer.cursor
  return { lexer.push (.scalar .plain (String.ofList text)) with cursor, keyAllowed := isBroken }

/-- Whether a plain scalar may start with a character that is followed by a text. -/
def startsPlain (inFlow : Bool) (first : Char) (rest : List Char) : Bool :=
  if first = '-' then !rest.head?.any isBlank
  else if first = '?' || first = ':' then !inFlow && !isWordEnd rest
  else !isSpace first && !(",[]\x7b\x7d#&*!|>'\"%@`".toList.contains first)

/-! ### The whole text -/

/-- The lexer behind the token at its cursor. -/
def next? (lexer : Lexer) : Option Lexer :=
  match lexer.cursor.rest with
  | [] => none
  | first :: rest =>
    if lexer.cursor.column = 0 ∧ first = '%' then lexer.directive?
    else if lexer.cursor.atMark '-' then lexer.documentMark? .documentStart
    else if lexer.cursor.atMark '.' then lexer.documentMark? .documentEnd
    else if first = '[' then lexer.open? .flowSequenceStart
    else if first = '\x7b' then lexer.open? .flowMappingStart
    else if first = ']' then lexer.close? .flowSequenceEnd
    else if first = '\x7d' then lexer.close? .flowMappingEnd
    else if first = ',' then lexer.flowEntry?
    else if first = '-' ∧ isWordEnd rest then lexer.blockEntry?
    else if first = '?' ∧ (lexer.inFlow ∨ isWordEnd rest) then lexer.key?
    else if first = ':' ∧ (lexer.inFlow ∨ isWordEnd rest) then lexer.value?
    else if first = '*' then lexer.name? .alias
    else if first = '&' then lexer.name? .anchor
    else if first = '!' then lexer.tagged?
    else if first = '|' ∧ !lexer.inFlow then lexer.blockScalar? true
    else if first = '>' ∧ !lexer.inFlow then lexer.blockScalar? false
    else if first = '\'' then lexer.quotedScalar? true
    else if first = '"' then lexer.quotedScalar? false
    else if startsPlain lexer.inFlow first rest then lexer.plainScalar?
    else none

/-- The lexer behind the blanks, comments and breaks at its cursor, of which there are at most so
many. Behind a break a key may start, and where one may, indentation is spaces alone. -/
def skip : Nat → Lexer → Lexer
  | 0, lexer => lexer
  | fuel + 1, lexer =>
    let tabAllowed := lexer.inFlow || !lexer.keyAllowed
    let cursor := lexer.cursor.skipWhile fun char => char = ' ' || (tabAllowed && char = '\t')
    let cursor := cursor.skipComment
    match cursor.break? with
    | some (_, next) =>
      skip fuel { lexer with cursor := next, keyAllowed := lexer.keyAllowed || !lexer.inFlow }
    | none => { lexer with cursor }

/-- The lexer at its next token: collections that end before it are closed. -/
def toNext? (lexer : Lexer) : Option Lexer := do
  let lexer := lexer.skip (lexer.cursor.rest.length + 1)
  let candidate ← refresh? lexer.cursor lexer.candidate
  let outer ← lexer.outer.mapM (refresh? lexer.cursor)
  return { lexer with candidate, outer }.closeBlocks (some lexer.cursor.column)

/-- The lexer at the end of its text, which is so many tokens away at most. -/
def toEnd? : Nat → Lexer → Option Lexer
  | 0, _ => none
  | fuel + 1, lexer => do
    let lexer ← lexer.toNext?
    if lexer.cursor.rest.isEmpty then (lexer.closeBlocks none).dropCandidate?
    else toEnd? fuel (← lexer.next?)

end Lexer

/-- The tokens of a text, which may start with the mark of its byte order. -/
def Token.ofText? (text : String) : Option (List Token) := do
  let chars :=
    match text.toList with
    | first :: rest => if first.toNat = 0xFEFF then rest else first :: rest
    | [] => []
  if chars.all isAdmitted then
    let lexer ← ({ cursor := { rest := chars } : Lexer }).toEnd? (chars.length + 1)
    return lexer.tokens.reverse
  else none

end Statechart.Yaml
