/-
**Reading quoted texts back.**

A text is written between quotes with escapes, and the grammar keeps escapes of units as units. Each
written character is read as one piece, and the pieces of a text give its characters.

* `pieceOf`: the piece as which a written character is read.
* `quoted?_quote`: a written text is read as the pieces of its characters.
* `string?_pieces`: which give the text.
-/

import Statechart.Json.Printer
import Statechart.Json.Reading
import Statechart.Proofs.Text.Hex

namespace Statechart.Json

open Text

/-- Whether a character is written as the escape of a unit. -/
def isUnitEscaped (char : Char) : Bool :=
  char.toNat < 32 && !(char.toNat ∈ [8, 9, 10, 12, 13])

/-- The piece as which a written character is read. -/
def pieceOf (char : Char) : Piece :=
  if isUnitEscaped char then .unit char.toNat else .char char

/-- The pieces as which a written text is read. -/
def pieces (text : String) : List Piece := text.toList.map pieceOf

/-- The four digits of a unit give the unit. -/
theorem unit?_fourDigits {code : Nat} (small : code < 65536) :
    unit? (.char (hexDigit (code / 4096 % 16))) (.char (hexDigit (code / 256 % 16)))
      (.char (hexDigit (code / 16 % 16))) (.char (hexDigit (code % 16))) = some code := by
  unfold unit?
  dsimp only
  rw [hexValue?_hexDigit (Nat.mod_lt _ (by decide)), hexValue?_hexDigit (Nat.mod_lt _ (by decide)),
    hexValue?_hexDigit (Nat.mod_lt _ (by decide)), hexValue?_hexDigit (Nat.mod_lt _ (by decide))]
  show some _ = some code
  congr 1
  omega

/-- Puts a piece before those that are read of the rest. -/
def withPiece (piece : Piece) (found : Option (List Piece × List Symbol)) :
    Option (List Piece × List Symbol) :=
  found.map fun (pieces, rest) => (piece :: pieces, rest)

/-- How a character is written: with a letter behind a backslash, as a unit, or as it is. -/
theorem escape_cases (char : Char) :
    (∃ letter, letter ≠ 'u' ∧ escape char = ['\\', letter] ∧
      simpleEscape? (.char letter) = some char ∧ isUnitEscaped char = false) ∨
    (escape char = unitEscape char.toNat ∧ isUnitEscaped char = true) ∨
    (char ≠ '"' ∧ char ≠ '\\' ∧ 32 ≤ char.toNat ∧ escape char = [char] ∧
      isUnitEscaped char = false) := by
  have simple (known letter : Char) (same : char = known) (differ : letter ≠ 'u')
      (written : escape known = ['\\', letter]) (read : simpleEscape? (.char letter) = some known)
      (plain : isUnitEscaped known = false) :
      ∃ letter, letter ≠ 'u' ∧ escape char = ['\\', letter] ∧
        simpleEscape? (.char letter) = some char ∧ isUnitEscaped char = false :=
    ⟨letter, differ, same ▸ written, same ▸ read, same ▸ plain⟩
  by_cases quote : char = '"'
  · exact .inl (simple '"' '"' quote (by decide) (by decide) (by decide) (by decide))
  by_cases slash : char = '\\'
  · exact .inl (simple '\\' '\\' slash (by decide) (by decide) (by decide) (by decide))
  by_cases newline : char = '\n'
  · exact .inl (simple '\n' 'n' newline (by decide) (by decide) (by decide) (by decide))
  by_cases return_ : char = '\r'
  · exact .inl (simple '\r' 'r' return_ (by decide) (by decide) (by decide) (by decide))
  by_cases tab : char = '\t'
  · exact .inl (simple '\t' 't' tab (by decide) (by decide) (by decide) (by decide))
  by_cases back : char = Char.ofNat 8
  · exact .inl (simple (Char.ofNat 8) 'b' back (by decide) (by decide) (by decide) (by decide))
  by_cases feed : char = Char.ofNat 12
  · exact .inl (simple (Char.ofNat 12) 'f' feed (by decide) (by decide) (by decide) (by decide))
  have newline_ : char.toNat ≠ 10 := fun same => newline (Char.toNat_inj.1 same)
  have return__ : char.toNat ≠ 13 := fun same => return_ (Char.toNat_inj.1 same)
  have tab_ : char.toNat ≠ 9 := fun same => tab (Char.toNat_inj.1 same)
  have back_ : char.toNat ≠ 8 := fun same => back (Char.toNat_inj.1 same)
  have feed_ : char.toNat ≠ 12 := fun same => feed (Char.toNat_inj.1 same)
  have rest : escape char = if char.toNat < 32 then unitEscape char.toNat else [char] := by
    simp only [escape, quote, slash, newline, return_, tab, back_, feed_, if_false]
  by_cases control : char.toNat < 32
  · refine .inr (.inl ⟨by rw [rest, if_pos control], ?_⟩)
    simp [isUnitEscaped, *]
  · refine .inr (.inr ⟨quote, slash, by omega, by rw [rest, if_neg control], ?_⟩)
    simp [isUnitEscaped, control]

/-- A written character is read as its piece. -/
theorem quoted?_escape (char : Char) (rest : List Symbol) :
    quoted? (characters (escape char) ++ rest) = withPiece (pieceOf char) (quoted? rest) := by
  rcases escape_cases char with ⟨letter, differ, written, read, plain⟩ | ⟨written, control⟩ |
    ⟨quote, slash, printable, written, plain⟩
  · rw [written, pieceOf, plain]
    show quoted? (.char '\\' :: .char letter :: rest) = _
    rw [quoted?.eq_4 _ _ fun _ _ _ _ _ same => absurd (Symbol.char.inj same) differ, read]
    cases quoted? rest <;> rfl
  · have small : char.toNat < 65536 := by
      simp only [isUnitEscaped, Bool.and_eq_true, decide_eq_true_eq] at control
      omega
    rw [written, pieceOf, control]
    show quoted? (.char '\\' :: .char 'u' :: .char _ :: .char _ :: .char _ :: .char _ :: rest) = _
    rw [quoted?.eq_3, unit?_fourDigits small]
    cases quoted? rest <;> rfl
  · have kept : ¬ (char = '\\' ∨ char.toNat < 32) := by
      rintro (same | control)
      · exact slash same
      · omega
    rw [written, pieceOf, plain]
    show quoted? (.char char :: rest) = _
    rw [quoted?.eq_5 _ _ quote (fun _ _ _ _ _ _ same => slash same) fun _ _ _ same => slash same,
      if_neg kept]
    cases quoted? rest <;> rfl

/-- **A written text is read as the pieces of its characters.** -/
theorem quoted?_quote (text : String) (rest : List Symbol) :
    quoted? (characters (text.toList.flatMap escape ++ ['"']) ++ rest) =
      some (pieces text, rest) := by
  unfold pieces
  induction text.toList with
  | nil => rfl
  | cons char chars ih =>
    have split : characters ((char :: chars).flatMap escape ++ ['"']) ++ rest =
        characters (escape char) ++ (characters (chars.flatMap escape ++ ['"']) ++ rest) := by
      simp [characters]
    rw [split, quoted?_escape, ih]
    rfl

/-- A unit of a control character does not start a pair. -/
theorem characters?_unit {code : Nat} (small : code < 32) (rest : List Piece) :
    characters? (.unit code :: rest) = (characters? rest).map (Char.ofNat code :: ·) := by
  have low : ¬ (0xD800 ≤ code ∧ code < 0xDC00) := by omega
  have high : ¬ (0xDC00 ≤ code ∧ code < 0xE000) := by omega
  have surrogate : ¬ (0xD800 ≤ code ∧ code < 0xE000) := by omega
  by_cases paired : ∃ next later, rest = .unit next :: later
  · obtain ⟨next, later, rfl⟩ := paired
    rw [characters?.eq_4, if_neg low, if_neg high]
  · rw [characters?.eq_5 _ _ fun next later same => paired ⟨next, later, same⟩, if_neg surrogate]

/-- The pieces of some characters give the characters. -/
theorem characters?_map_pieceOf (chars : List Char) :
    characters? (chars.map pieceOf) = some chars := by
  induction chars with
  | nil => rfl
  | cons char chars ih =>
    rw [List.map_cons]
    by_cases control : isUnitEscaped char
    · have small : char.toNat < 32 := by
        simp only [isUnitEscaped, Bool.and_eq_true, decide_eq_true_eq] at control
        exact control.1
      rw [show pieceOf char = .unit char.toNat from if_pos control, characters?_unit small, ih,
        Char.ofNat_toNat]
      rfl
    · rw [show pieceOf char = .char char from if_neg control, characters?, ih]
      rfl

/-- **The pieces of a text give the text.** -/
theorem string?_pieces (text : String) : string? (pieces text) = some text := by
  unfold string? pieces
  rw [characters?_map_pieceOf, Option.map_some, String.ofList_toList]

end Statechart.Json
