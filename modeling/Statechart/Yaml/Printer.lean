/-
**Writing texts as scalars.**

A text that is the value of an entry is written plain if it reads back as that text. Otherwise it is
quoted, or a literal block if it has several lines. What cannot be shown is written as an escape,
for which the text has to be between double quotation marks.
-/

import Statechart.Yaml.Cursor
import Statechart.Yaml.Plain

namespace Statechart.Yaml

open Text Decimal

/-- The ways of writing a text. -/
inductive Writing
  | plain
  | single
  | double
  | literal
  deriving DecidableEq

/-! ### What a text is like -/

/-- Words that some readers take for truth values. -/
def truthWords : List String :=
  ["y", "Y", "yes", "Yes", "YES", "n", "N", "no", "No", "NO", "true", "True", "TRUE", "false",
   "False", "FALSE", "on", "On", "ON", "off", "Off", "OFF"]

/-- Whether a plain scalar is a text, and not some other value. -/
def isText (text : String) : Bool :=
  !text.isEmpty && !isNull text && !truthWords.contains text && !isPadded text.toList &&
    (whole? text).isNone && (float? text.toList).isNone

/-- Whether a character can be shown. -/
def isPrintable (char : Char) : Bool :=
  char = '\n' || ' ' ≤ char && char ≤ '~' || 0xA0 ≤ char.toNat && char.toNat ≤ 0xD7FF ||
    0xE000 ≤ char.toNat && char.toNat ≤ 0xFFFD && char.toNat ≠ 0xFEFF || 0x10000 ≤ char.toNat

/-- Whether the start of a text would be taken for something else. -/
def opensOther (text : List Char) : Bool :=
  match text with
  | '-' :: '-' :: '-' :: _ | '.' :: '.' :: '.' :: _ => true
  | [] => false
  | first :: rest =>
    if first = '?' || first = ':' || first = '-' then isWordEnd rest
    else "#,[]\x7b\x7d&*!|>'\"%@`".toList.contains first

/-- Whether a text has the mark of an entry or a comment behind its first character. -/
def hasMark : List Char → Bool
  | before :: char :: rest =>
    char = ':' && isWordEnd rest || char = '#' && isSpace before || hasMark (char :: rest)
  | _ => false

/-- Whether two characters of some kinds stand next to each other in a text. -/
def adjacent (first second : Char → Bool) : List Char → Bool
  | char :: next :: rest => first char && second next || adjacent first second (next :: rest)
  | _ => false

/-- Whether a character is a space. -/
def isSpaceMark (char : Char) : Bool := char = ' '

/-- Whether a text starts or ends with a character with a property. -/
def hasAtEnds (property : Char → Bool) (text : List Char) : Bool :=
  text.head?.any property || text.getLast?.any property

/-- Whether a text has to be between double quotation marks, if it is not plain. -/
def needsDouble (text : List Char) : Bool :=
  !text.all isPrintable || adjacent isSpaceMark isBreak text

/-- Whether a text can be written plain. -/
def allowsPlain (text : List Char) : Bool :=
  !needsDouble text && !opensOther text && !hasMark text && !text.any isBreak &&
    !hasAtEnds isSpaceMark text

/-- Whether a text can be written between single quotation marks. -/
def allowsSingle (text : List Char) : Bool :=
  !needsDouble text && !adjacent isBreak isSpaceMark text

/-- Whether a text can be written as a literal block. -/
def allowsLiteral (text : List Char) : Bool :=
  !needsDouble text && !text.getLast?.any isSpaceMark

/-- The way in which a text is written. -/
def writingOf (text : String) : Writing :=
  let chars := text.toList
  if chars.contains '\n' then if allowsLiteral chars then .literal else .double
  else if isText text && allowsPlain chars then .plain
  else if allowsSingle chars then .single
  else .double

/-! ### The text as it is written -/

/-- Upper-case hexadecimal digits of a number, so many of them. -/
def upperDigits (count number : Nat) : List Char :=
  (List.range count).reverse.map fun place =>
    (Nat.digitChar (number / Nat.pow 16 place % 16)).toUpper

/-- The escape of a character. -/
def escaped (char : Char) : List Char :=
  let code := char.toNat
  let simple := [(0x00, '0'), (0x07, 'a'), (0x08, 'b'), (0x09, 't'), (0x0A, 'n'), (0x0B, 'v'),
    (0x0C, 'f'), (0x0D, 'r'), (0x1B, 'e'), (0x22, '"'), (0x5C, '\\'), (0x85, 'N'), (0xA0, '_'),
    (0x2028, 'L'), (0x2029, 'P')]
  match simple.find? fun (known, _) => known = code with
  | some (_, mark) => ['\\', mark]
  | none =>
    if code ≤ 0xFF then '\\' :: 'x' :: upperDigits 2 code
    else if code ≤ 0xFFFF then '\\' :: 'u' :: upperDigits 4 code
    else '\\' :: 'U' :: upperDigits 8 code

/-- A character between double quotation marks. -/
def inDouble (char : Char) : List Char :=
  if !isPrintable char || isBreak char || char = '"' || char = '\\' then escaped char else [char]

/-- The characters of several lines, each line behind an indentation unless it is empty. The flag
says whether a line starts. -/
def indented (indentation : List Char) (inLine : Char → List Char) : Bool → List Char → List Char
  | _, [] => []
  | starts, char :: rest =>
    if isBreak char then char :: indented indentation inLine true rest
    else
      let written := inLine char ++ indented indentation inLine false rest
      if starts then indentation ++ written else written

/-- A character between single quotation marks. -/
def inSingle (char : Char) : List Char := if char = '\'' then ['\'', '\''] else [char]

/-- The sign for the breaks at the end of a literal block. -/
def chompingSign (text : List Char) : List Char :=
  match text.reverse with
  | last :: before =>
    if !isBreak last then ['-'] else if before.head?.all isBreak then ['+'] else []
  | [] => ['-']

/-- The header of a literal block: its mark, its indentation if the text does not show it, and the
sign for its end. -/
def literalHeader (text : List Char) : List Char :=
  let shown := text.head?.any fun first => isSpaceMark first || isBreak first
  '|' :: ((if shown then ['2'] else []) ++ chompingSign text)

/-- A text as the value of an entry, its lines behind an indentation. -/
def written (indentation : List Char) (text : String) : List Char :=
  let chars := text.toList
  match writingOf text with
  | .plain => chars
  | .single =>
    let closing := if chars.getLast?.any isBreak then indentation ++ ['\''] else ['\'']
    '\'' :: (indented indentation inSingle false chars ++ closing)
  | .double => '"' :: (chars.flatMap inDouble ++ ['"'])
  | .literal => literalHeader chars ++ '\n' :: indented indentation (fun char => [char]) true chars

/-- An entry whose value is a text, with the break behind it. -/
def writtenEntry (indentation : List Char) (name text : String) : List Char :=
  let value := written indentation text
  let ending := if writingOf text = .literal && value.getLast?.any isBreak then [] else ['\n']
  name.toList ++ [':', ' '] ++ value ++ ending

end Statechart.Yaml
