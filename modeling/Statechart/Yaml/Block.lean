/-
**Scalars that are blocks of lines.**

The lines of a block start at one column. A literal block keeps its line breaks, and a folded one
joins two lines by a space unless one of them starts with a blank.
-/

import Statechart.Yaml.Cursor

namespace Statechart.Yaml

/-- What becomes of the breaks at the end of a block. -/
inductive Chomping
  /-- All of them are dropped. -/
  | strip
  /-- The first one is kept. -/
  | clip
  /-- All of them are kept. -/
  | keep
  deriving DecidableEq

/-- The chomping that a sign asks for. -/
def chomping? : Char → Option Chomping
  | '+' => some .keep
  | '-' => some .strip
  | _ => none

/-- The header of a block. -/
structure BlockHeader where
  chomping : Chomping := .clip
  /-- The indentation in relation to the surrounding collection. -/
  indentation : Option Nat := none

/-- The indentation that a digit asks for; zero is none. -/
def indentation? (digit : Char) : Option Nat :=
  if digit = '0' then none else some (digit.toNat - '0'.toNat)

/-- The header at a cursor, behind the mark of a block: a sign and a digit in either order. -/
def blockHeader? (cursor : Cursor) : Option (BlockHeader × Cursor) :=
  match cursor.rest with
  | [] => some ({}, cursor)
  | first :: rest =>
    match chomping? first with
    | some chomping =>
      match rest with
      | digit :: _ =>
        if digit.isDigit then do
          let indentation ← indentation? digit
          return ({ chomping, indentation := some indentation }, cursor.advance 2)
        else some ({ chomping }, cursor.advance 1)
      | [] => some ({ chomping }, cursor.advance 1)
    | none =>
      if first.isDigit then do
        let indentation ← indentation? first
        match rest.head?.bind chomping? with
        | some chomping => some ({ chomping, indentation := some indentation }, cursor.advance 2)
        | none => some ({ indentation := some indentation }, cursor.advance 1)
      else some ({}, cursor)

/-- The breaks of the empty lines at a cursor, of which there are fewer than a number, the widest
column of the spaces before them and at the cursor behind them, and that cursor. Spaces are passed
over up to a column, if it is known, and no tabulator may stand among them. -/
def emptyLines? (column : Option Nat) : Nat → Cursor → Option (List Char × Nat × Cursor)
  | 0, cursor => some ([], cursor.column, cursor)
  | fuel + 1, cursor =>
    let spaces := (cursor.rest.takeWhile (· = ' ')).length
    let count :=
      match column with
      | none => spaces
      | some column => min spaces (column - cursor.column)
    let cursor := cursor.advance count
    let isBefore := column.all fun column => cursor.column < column
    if isBefore && cursor.rest.head? = some '\t' then none
    else
      match cursor.break? with
      | none => some ([], cursor.column, cursor)
      | some (char, next) => do
        let (breaks, widest, next) ← emptyLines? column fuel next
        return (char :: breaks, max cursor.column widest, next)

/-- The text of the lines of a block from a cursor on, of which there are fewer than a number, and
the break and the empty lines behind the last of them, which stand before its first line too. -/
def blockLines? (isLiteral : Bool) (column : Nat) :
    Nat → Bool → List Char → List Char → Cursor →
      Option (List Char × List Char × List Char × Cursor)
  | 0, _, leading, trailing, cursor => some ([], leading, trailing, cursor)
  | fuel + 1, behindBlank, leading, trailing, cursor =>
    if cursor.column ≠ column ∨ cursor.rest.isEmpty then some ([], leading, trailing, cursor)
    else do
      let startsBlank := cursor.rest.head?.any isBlank
      let isFolded := !isLiteral && leading = ['\n'] && !behindBlank && !startsBlank
      let joined :=
        if isFolded then if trailing.isEmpty then [' '] else trailing else leading ++ trailing
      let (line, cursor) := cursor.span fun char => !isBreak char
      let (leading, cursor) :=
        match cursor.break? with
        | some (char, next) => ([char], next)
        | none => ([], cursor)
      let (trailing, _, cursor) ← emptyLines? (some column) (cursor.rest.length + 1) cursor
      let (text, leading, trailing, cursor) ←
        blockLines? isLiteral column fuel startsBlank leading trailing cursor
      return (joined ++ line ++ text, leading, trailing, cursor)

/-- The text of a block behind its mark, and the cursor behind it. The collection around the block
starts at a column, if there is one. -/
def block? (isLiteral : Bool) (parent : Option Nat) (cursor : Cursor) :
    Option (List Char × Cursor) := do
  let (header, cursor) ← blockHeader? cursor
  let cursor ← cursor.lineEnd?
  let given := header.indentation.map (parent.getD 0 + ·)
  let (breaks, widest, cursor) ← emptyLines? given (cursor.rest.length + 1) cursor
  let least := max 1 ((parent.map (· + 1)).getD 0)
  let column := given.getD (max widest least)
  let (text, leading, trailing, cursor) ←
    blockLines? isLiteral column (cursor.rest.length + 1) false [] breaks cursor
  let tail :=
    match header.chomping with
    | .strip => []
    | .clip => leading
    | .keep => leading ++ trailing
  return (text ++ tail, cursor)

end Statechart.Yaml
