/-
**The grammar of data texts.**

A tree is what the grammar alone finds in a text. Nothing is judged yet: escapes are kept as
units, numbers as their digits, members of a record in order with every repetition, and there is no
bound on nesting. A reader that skips a part of a text asks no more of that part than this grammar.
-/

import Statechart.Text.Hex

namespace Statechart.Json

open Text

/-- One piece of a quoted text: a character, a sixteen-bit unit given by an escape, or a byte that
belongs to no character. -/
inductive Piece
  | char (value : Char)
  | unit (code : Nat)
  | stray (byte : UInt8)
  deriving DecidableEq

/-- The written form of a number, as digits. -/
structure Literal where
  negative : Bool
  whole : List Nat
  fraction : List Nat
  /-- The sign and the digits of the exponent. -/
  exponent : Option (Bool × List Nat)
  deriving DecidableEq

/-- A text as the grammar divides it. -/
inductive Tree
  | null
  | bool (value : Bool)
  | number (literal : Literal)
  | string (pieces : List Piece)
  | list (items : List Tree)
  | record (members : List (List Piece × Tree))
  deriving Inhabited

/-- Whether a symbol may stand between any two parts of a text. -/
def isBlank : Symbol → Bool
  | .char value => value = ' ' ∨ value = '\n' ∨ value = '\t' ∨ value = '\r'
  | .stray _ => false

/-- A text from its first symbol that is no blank. -/
def skipBlanks (text : List Symbol) : List Symbol := text.dropWhile isBlank

/-- The value of a decimal digit. -/
def digit? : Symbol → Option Nat
  | .char value => if '0' ≤ value ∧ value ≤ '9' then some (value.toNat - '0'.toNat) else none
  | .stray _ => none

/-- The decimal digits at the start of a text, and the rest. -/
def digits : List Symbol → List Nat × List Symbol
  | [] => ([], [])
  | symbol :: rest =>
    match digit? symbol with
    | none => ([], symbol :: rest)
    | some value =>
      let (values, rest) := digits rest
      (value :: values, rest)

/-- The digits at the start of a text, of which there has to be one. -/
def someDigits? (text : List Symbol) : Option (List Nat × List Symbol) :=
  match digits text with
  | ([], _) => none
  | found => some found

/-- The whole part of a number: one digit, or several that do not start with a zero. -/
def wholePart? (text : List Symbol) : Option (List Nat × List Symbol) :=
  match digits text with
  | ([], _) => none
  | (0 :: _ :: _, _) => none
  | found => some found

/-- The digits behind a point, none if there is no point. -/
def fractionPart? : List Symbol → Option (List Nat × List Symbol)
  | .char '.' :: rest => someDigits? rest
  | text => some ([], text)

/-- The sign of an exponent. -/
def exponentSign : List Symbol → Bool × List Symbol
  | .char '-' :: rest => (true, rest)
  | .char '+' :: rest => (false, rest)
  | text => (false, text)

/-- The sign and digits behind the mark of an exponent, if there is a mark. -/
def exponentPart? (text : List Symbol) : Option (Option (Bool × List Nat) × List Symbol) :=
  let marked (rest : List Symbol) : Option (Option (Bool × List Nat) × List Symbol) := do
    let (negative, rest) := exponentSign rest
    let (found, rest) ← someDigits? rest
    return (some (negative, found), rest)
  match text with
  | .char 'e' :: rest => marked rest
  | .char 'E' :: rest => marked rest
  | _ => some (none, text)

/-- The number at the start of a text, behind a sign that was read before. -/
def literal? (negative : Bool) (text : List Symbol) : Option (Literal × List Symbol) := do
  let (whole, text) ← wholePart? text
  let (fraction, text) ← fractionPart? text
  let (exponent, text) ← exponentPart? text
  return ({ negative, whole, fraction, exponent }, text)

/-- The unit that four hexadecimal digits give. -/
def unit? (first second third fourth : Symbol) : Option Nat := do
  let value? : Symbol → Option Nat
    | .char digit => hexValue? digit
    | .stray _ => none
  let upper := (← value? first) * 16 + (← value? second)
  let lower := (← value? third) * 16 + (← value? fourth)
  return upper * 256 + lower

/-- The character that an escape of one letter stands for. -/
def simpleEscape? : Symbol → Option Char
  | .char '"' => some '"'
  | .char '\\' => some '\\'
  | .char '/' => some '/'
  | .char 'b' => some (Char.ofNat 8)
  | .char 'f' => some (Char.ofNat 12)
  | .char 'n' => some '\n'
  | .char 'r' => some '\r'
  | .char 't' => some '\t'
  | _ => none

/-- The pieces of a text up to its closing quote, and what stands behind the quote. -/
def quoted? : List Symbol → Option (List Piece × List Symbol)
  | [] => none
  | .char '"' :: rest => some ([], rest)
  | .char '\\' :: .char 'u' :: first :: second :: third :: fourth :: rest =>
    match unit? first second third fourth, quoted? rest with
    | some code, some (pieces, rest) => some (.unit code :: pieces, rest)
    | _, _ => none
  | .char '\\' :: symbol :: rest =>
    match simpleEscape? symbol, quoted? rest with
    | some value, some (pieces, rest) => some (.char value :: pieces, rest)
    | _, _ => none
  | .char value :: rest =>
    if value = '\\' ∨ value.toNat < 32 then none
    else
      match quoted? rest with
      | some (pieces, rest) => some (.char value :: pieces, rest)
      | none => none
  | .stray byte :: rest =>
    match quoted? rest with
    | some (pieces, rest) => some (.stray byte :: pieces, rest)
    | none => none

/-- The rest of a text behind the characters of a word. -/
def word? : List Char → List Symbol → Option (List Symbol)
  | [], text => some text
  | char :: chars, symbol :: rest => if symbol = .char char then word? chars rest else none
  | _ :: _, [] => none

namespace Tree

mutual

/-- The value at the start of a text, behind blanks, and what stands behind it. -/
def value? : Nat → List Symbol → Option (Tree × List Symbol)
  | 0, _ => none
  | fuel + 1, text =>
    match skipBlanks text with
    | .char 'n' :: rest => (word? "ull".toList rest).map (Tree.null, ·)
    | .char 't' :: rest => (word? "rue".toList rest).map (Tree.bool true, ·)
    | .char 'f' :: rest => (word? "alse".toList rest).map (Tree.bool false, ·)
    | .char '"' :: rest => (quoted? rest).map fun (pieces, rest) => (.string pieces, rest)
    | .char '-' :: rest => (literal? true rest).map fun (literal, rest) => (.number literal, rest)
    | .char '[' :: rest =>
      match skipBlanks rest with
      | .char ']' :: rest => some (.list [], rest)
      | rest => (items? fuel rest).map fun (items, rest) => (.list items, rest)
    | .char '{' :: rest =>
      match skipBlanks rest with
      | .char '}' :: rest => some (.record [], rest)
      | rest => (members? fuel rest).map fun (members, rest) => (.record members, rest)
    | text => (literal? false text).map fun (literal, rest) => (.number literal, rest)

/-- The items of a list up to its closing bracket, of which there is at least one. -/
def items? : Nat → List Symbol → Option (List Tree × List Symbol)
  | 0, _ => none
  | fuel + 1, text =>
    match value? fuel text with
    | none => none
    | some (item, rest) =>
      match skipBlanks rest with
      | .char ',' :: rest => (items? fuel rest).map fun (items, rest) => (item :: items, rest)
      | .char ']' :: rest => some ([item], rest)
      | _ => none

/-- The members of a record up to its closing brace, of which there is at least one. -/
def members? : Nat → List Symbol → Option (List (List Piece × Tree) × List Symbol)
  | 0, _ => none
  | fuel + 1, text =>
    match skipBlanks text with
    | .char '"' :: rest =>
      match quoted? rest with
      | none => none
      | some (name, rest) =>
        match skipBlanks rest with
        | .char ':' :: rest =>
          match value? fuel rest with
          | none => none
          | some (value, rest) =>
            match skipBlanks rest with
            | .char ',' :: rest =>
              (members? fuel rest).map fun (members, rest) => ((name, value) :: members, rest)
            | .char '}' :: rest => some ([(name, value)], rest)
            | _ => none
        | _ => none
    | _ => none

end

/-- The first value of a text and what stands behind it. Two steps for each symbol are enough. -/
def first? (text : List Symbol) : Option (Tree × List Symbol) := value? (2 * text.length + 1) text

/-- The one value of a text. -/
def ofSymbols? (text : List Symbol) : Option Tree := do
  let (tree, rest) ← first? text
  if rest.all isBlank then some tree else none

end Tree

end Statechart.Json
