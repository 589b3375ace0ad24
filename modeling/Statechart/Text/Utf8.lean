/-
**Texts as bytes and bytes as texts.**

A text is written in UTF-8. Reading goes the other way for any bytes at all: well-formed bytes give
their characters, and bytes that are no text are kept one by one between the characters around
them, for readers that pass over what they do not use.
-/

namespace Statechart

/-- A sequence of bytes. -/
abbrev Bytes := List UInt8

namespace Text

/-- The UTF-8 bytes of a text. -/
def utf8 (text : String) : Bytes := text.toUTF8.data.toList

/-- The text whose UTF-8 bytes these are. -/
def ofUtf8? (bytes : Bytes) : Option String := String.fromUTF8? ⟨bytes.toArray⟩

/-- What one place of a byte sequence holds: a character, or a byte that belongs to none. -/
inductive Symbol
  | char (value : Char)
  | stray (byte : UInt8)
  deriving DecidableEq

/-- The symbols of a text are its characters. -/
def characters (text : List Char) : List Symbol := text.map .char

/-- Whether a byte continues a character. -/
def isContinuation (byte : UInt8) : Bool := 0x80 ≤ byte && byte ≤ 0xBF

/-- The value of a lead byte followed by continuation bytes. -/
def codePoint (lead : Nat) (tail : List UInt8) : Nat :=
  tail.foldl (fun value byte => value * 64 + (byte.toNat - 0x80)) lead

/-- The character at the start of the bytes and the number of bytes behind its first one. -/
def leading? : Bytes → Option (Char × Nat)
  | [] => none
  | first :: rest =>
    let sequence (lead : UInt8) (count : Nat) (least : Nat) : Option (Char × Nat) :=
      let tail := rest.take count
      let value := codePoint (first - lead).toNat tail
      if tail.length = count ∧ tail.all isContinuation ∧ least ≤ value ∧ value.isValidChar then
        some (Char.ofNat value, count)
      else none
    if first ≤ 0x7F then some (Char.ofNat first.toNat, 0)
    else if 0xC2 ≤ first ∧ first ≤ 0xDF then sequence 0xC0 1 0x80
    else if 0xE0 ≤ first ∧ first ≤ 0xEF then sequence 0xE0 2 0x800
    else if 0xF0 ≤ first ∧ first ≤ 0xF4 then sequence 0xF0 3 0x10000
    else none

/-- The symbols of bytes of which so many still belong to the character before. -/
def symbolsAfter : Nat → Bytes → List Symbol
  | _, [] => []
  | owed + 1, _ :: rest => symbolsAfter owed rest
  | 0, first :: rest =>
    match leading? (first :: rest) with
    | some (value, owed) => .char value :: symbolsAfter owed rest
    | none => .stray first :: symbolsAfter 0 rest

/-- The symbols of any bytes. -/
def symbols (bytes : Bytes) : List Symbol :=
  match ofUtf8? bytes with
  | some text => characters text.toList
  | none => symbolsAfter 0 bytes

/-- Reading back a written text gives the text. -/
theorem ofUtf8?_utf8 (text : String) : ofUtf8? (utf8 text) = some text := by
  have valid : (ByteArray.mk text.toByteArray.data).IsValidUTF8 := text.isValidUTF8
  simpa [ofUtf8?, utf8, String.fromUTF8?, String.fromUTF8] using valid

theorem symbols_utf8 (text : String) : symbols (utf8 text) = characters text.toList := by
  simp [symbols, ofUtf8?_utf8]

end Text

end Statechart
