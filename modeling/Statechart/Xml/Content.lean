/-
**Character data.**

A reference between an ampersand and a semicolon stands for a character. In text the end of a line
is one line feed, whether it was written as that, as a carriage return or as both; in the value of
an attribute it is a space, as is a tabulator. A character that a reference stands for is kept as it
is.
-/

import Statechart.Xml.Name
import Statechart.Text.Hex

namespace Statechart.Xml

open Text

/-- A character of a document's data, and whether it was written or referred to. -/
inductive Mark
  | written (char : Char)
  | referred (char : Char)
  deriving DecidableEq

/-- The number that digits of a base give. -/
def numeral? (base : Nat) (digits : List Char) : Option Nat :=
  if digits.isEmpty then none
  else digits.foldlM (fun number digit => (hexValue? digit).map (number * base + ·)) 0

/-- The character of a number below `2 ^ 32`; one that is no code point gives the replacement
character. -/
def referredChar? (number : Nat) : Option Char :=
  if Nat.pow 2 32 ≤ number then none
  else
    let char := if number.isValidChar then Char.ofNat number else Char.ofNat 0xFFFD
    if isAdmitted char then some char else none

/-- The character that a named reference stands for. -/
def namedChar? (name : List Char) : Option Char :=
  match String.ofList name with
  | "quot" => some '"'
  | "amp" => some '&'
  | "apos" => some '\''
  | "lt" => some '<'
  | "gt" => some '>'
  | _ => none

/-- The character that a text behind an ampersand stands for, and what stands behind it. -/
def referredStart? : List Char → Option (Char × List Char)
  | '#' :: 'x' :: text => do
    let (digits, rest) := text.span fun digit => (hexValue? digit).isSome
    let char ← referredChar? (← numeral? 16 digits)
    return (char, rest)
  | '#' :: text => do
    let (digits, rest) := text.span Char.isDigit
    let char ← referredChar? (← numeral? 10 digits)
    return (char, rest)
  | text => do
    let (name, rest) ← name? text
    let char ← namedChar? name
    return (char, rest)

/-- The character that a reference stands for, behind the ampersand, and what stands behind the
semicolon. -/
def reference? (text : List Char) : Option (Char × List Char) := do
  let (char, rest) ← referredStart? text
  match rest with
  | ';' :: rest => some (char, rest)
  | _ => none

/-- The characters of data, of which there are at most so many. -/
def marks? : Nat → List Char → Option (List Mark)
  | _, [] => some []
  | 0, _ :: _ => none
  | fuel + 1, '&' :: rest => do
    let (char, rest) ← reference? rest
    return .referred char :: (← marks? fuel rest)
  | fuel + 1, char :: rest => do
    return .written char :: (← marks? fuel rest)

/-- Appends a written character to a text whose last character comes first. -/
def pushWritten (text : List Char) (char : Char) (isLast : Bool) : List Char :=
  match text with
  | '\r' :: before =>
    if char = '\n' then '\n' :: before
    else if isLast && char = '\r' then '\n' :: '\n' :: before
    else char :: '\n' :: before
  | _ => if isLast && char = '\r' then '\n' :: text else char :: text

/-- Appends characters to a text whose last character comes first. A written character directly
behind a reference is kept as it is. -/
def pushMarks (text : List Char) (behindReference : Bool) : List Mark → List Char
  | [] => text
  | .referred char :: rest => pushMarks (char :: text) true rest
  | .written char :: rest =>
    if behindReference then pushMarks (char :: text) false rest
    else pushMarks (pushWritten text char rest.isEmpty) false rest

/-- The text that data gives. -/
def textOf? (data : List Char) : Option (List Char) :=
  (marks? data.length data).map fun marks => (pushMarks [] false marks).reverse

/-- The text of a section in which nothing is referred to. -/
def sectionText (data : List Char) : List Char := (pushMarks [] false (data.map .written)).reverse

/-- The value of an attribute with such characters. -/
def attributeChars : List Mark → List Char
  | [] => []
  | .referred char :: rest => char :: attributeChars rest
  | .written '\r' :: .written '\n' :: rest => attributeChars (.written '\n' :: rest)
  | .written char :: rest => (if isSpace char then ' ' else char) :: attributeChars rest

/-- The value that an attribute's data gives. -/
def attributeValue? (data : List Char) : Option String :=
  (marks? data.length data).map fun marks => String.ofList (attributeChars marks)

end Statechart.Xml
