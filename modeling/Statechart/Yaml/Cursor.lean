/-
**Places in an indented text.**

What a character of such a text means depends on where it stands. A cursor is the rest of a text
together with the line and the column at which it starts, and with the number of characters before
it.
-/

namespace Statechart.Yaml

/-- Whether a text may hold a character. -/
def isAdmitted (char : Char) : Bool :=
  let code := char.toNat
  code = 0x09 || code = 0x0A || code = 0x0D || (0x20 ≤ code && code ≤ 0x7E) || code = 0x85 ||
    (0xA0 ≤ code && code ≤ 0xD7FF) || (0xE000 ≤ code && code ≤ 0xFFFD && code ≠ 0xFEFF) ||
    0x10000 ≤ code

/-- Whether a character separates words within a line. -/
def isBlank (char : Char) : Bool := char = ' ' || char = '\t'

/-- Whether a character ends a line. -/
def isBreak (char : Char) : Bool :=
  char = '\r' || char = '\n' || char.toNat = 0x85 || char.toNat = 0x2028 || char.toNat = 0x2029

/-- Whether a character separates words. -/
def isSpace (char : Char) : Bool := isBlank char || isBreak char

/-- Whether a character may stand in the name of an anchor, a directive or a tag handle. -/
def isWordChar (char : Char) : Bool := char.isAlphanum || char = '_' || char = '-'

/-- Whether a text starts with the end of a word: a separator, or its own end. -/
def isWordEnd : List Char → Bool
  | [] => true
  | char :: _ => isSpace char

/-- Whether a text starts with the end of a line, or with its own end. -/
def isLineEnd : List Char → Bool
  | [] => true
  | char :: _ => isBreak char

/-- The rest of a text and where it starts. -/
structure Cursor where
  rest : List Char
  /-- The number of characters before it. -/
  index : Nat := 0
  line : Nat := 0
  column : Nat := 0

namespace Cursor

/-- The cursor so many characters further on the same line. -/
def advance (cursor : Cursor) (count : Nat) : Cursor :=
  { cursor with
    rest := cursor.rest.drop count
    index := cursor.index + count
    column := cursor.column + count }

/-- The characters with a property at a cursor, none of which ends a line, and the cursor behind
them. -/
def span (property : Char → Bool) (cursor : Cursor) : List Char × Cursor :=
  let found := cursor.rest.takeWhile property
  (found, cursor.advance found.length)

/-- The cursor behind the characters with a property, none of which ends a line. -/
def skipWhile (property : Char → Bool) (cursor : Cursor) : Cursor := (cursor.span property).2

/-- The cursor at the start of the next line, so many characters further. -/
def nextLine (cursor : Cursor) (count : Nat) : Cursor where
  rest := cursor.rest.drop count
  index := cursor.index + count
  line := cursor.line + 1
  column := 0

/-- The break at a cursor and the cursor behind it. Breaks of one kind are told apart no more, but
the separators of lines and paragraphs remain what they are. -/
def break? (cursor : Cursor) : Option (Char × Cursor) :=
  match cursor.rest with
  | '\r' :: '\n' :: _ => some ('\n', cursor.nextLine 2)
  | char :: _ =>
    if char.toNat = 0x2028 ∨ char.toNat = 0x2029 then some (char, cursor.nextLine 1)
    else if isBreak char then some ('\n', cursor.nextLine 1)
    else none
  | [] => none

/-- The cursor behind the break at it, if there is one. -/
def skipBreak (cursor : Cursor) : Cursor :=
  match cursor.break? with
  | some (_, next) => next
  | none => cursor

/-- The cursor behind a comment, if one starts at it. -/
def skipComment (cursor : Cursor) : Cursor :=
  match cursor.rest with
  | '#' :: _ => cursor.skipWhile fun char => !isBreak char
  | _ => cursor

/-- The cursor behind what may end a line: blanks, a comment and the break. Nothing else may stand
there. -/
def lineEnd? (cursor : Cursor) : Option Cursor :=
  let cursor := (cursor.skipWhile isBlank).skipComment
  if isLineEnd cursor.rest then some cursor.skipBreak else none

/-- Whether a line starts at a cursor with the mark of a document made of one character. -/
def atMark (mark : Char) (cursor : Cursor) : Bool :=
  cursor.column = 0 && cursor.rest.take 3 = [mark, mark, mark] && isWordEnd (cursor.rest.drop 3)

/-- Whether a line starts at a cursor with the mark of a document's start or end. -/
def atDocumentMark (cursor : Cursor) : Bool := cursor.atMark '-' || cursor.atMark '.'

end Cursor

end Statechart.Yaml
