/-
**What bytes start with.**

In UTF-8 a byte of seven bits is a character, and a character of more bytes than one has only bytes
of eight bits. So bytes of seven bits are found again among the symbols of any bytes, whether these
are a text or not.

* `utf8EncodeChar_cases`: a character is a byte of seven bits, or its bytes have eight.
* `symbols_cons_low`: a byte of seven bits is a character of its own.
* `symbols_cons_high`: a byte of eight bits before one of seven belongs to no character.
-/

import Statechart.Text.Utf8

namespace Statechart

namespace Text

/-! ### The bytes of characters -/

theorem utf8_ofList (chars : List Char) :
    utf8 (String.ofList chars) = chars.flatMap String.utf8EncodeChar := by
  unfold utf8
  rw [show (String.ofList chars).toUTF8 = (String.ofList chars).toByteArray from rfl,
    String.toByteArray_ofList, List.utf8Encode, List.toList_data_toByteArray]

theorem utf8_ofList_cons (char : Char) (chars : List Char) :
    utf8 (String.ofList (char :: chars)) =
      String.utf8EncodeChar char ++ utf8 (String.ofList chars) := by
  rw [utf8_ofList, utf8_ofList, List.flatMap_cons]

/-- Bytes that are read as a text are the bytes of the text. -/
theorem utf8_of_ofUtf8? {bytes : Bytes} {text : String} (read : ofUtf8? bytes = some text) :
    utf8 text = bytes := by
  unfold ofUtf8? String.fromUTF8? at read
  split at read
  · cases read
    rfl
  · cases read

/-- A text that has bytes has a first character. -/
theorem exists_ofList_cons {text : String} {first : UInt8} {rest : Bytes}
    (written : utf8 text = first :: rest) :
    ∃ char chars, text = String.ofList (char :: chars) ∧
      String.utf8EncodeChar char ++ utf8 (String.ofList chars) = first :: rest := by
  cases characters : text.toList with
  | nil =>
    rw [← String.ofList_toList (s := text), characters] at written
    cases written
  | cons char chars =>
    have same : text = String.ofList (char :: chars) := by
      rw [← characters, String.ofList_toList]
    exact ⟨char, chars, same, by rw [← utf8_ofList_cons, ← same, written]⟩

/-- The value of a byte of seven bits is that of a character. -/
theorem toNat_ofNat {byte : UInt8} (low : byte < 0x80) :
    (Char.ofNat byte.toNat).toNat = byte.toNat := by
  have small : byte.toNat < 0x80 := low
  rw [Char.ofNat, dif_pos (.inl (Nat.lt_trans small (by decide)))]
  rfl

theorem le_or {mark : UInt8} (marked : 0x80 ≤ mark) (byte : UInt8) : 0x80 ≤ byte ||| mark := by
  rw [UInt8.le_iff_toNat_le, UInt8.toNat_or]
  exact Nat.le_trans marked Nat.right_le_or

/-- A character of seven bits is its own byte. -/
theorem utf8EncodeChar_of_lt {byte : UInt8} (low : byte < 0x80) :
    String.utf8EncodeChar (Char.ofNat byte.toNat) = [byte] := by
  have small : byte.toNat < 0x80 := low
  have value : (Char.ofNat byte.toNat).val.toNat = byte.toNat := toNat_ofNat low
  have one : (Char.ofNat byte.toNat).utf8Size = 1 :=
    Char.utf8Size_eq_one_iff.2 (UInt32.le_iff_toNat_le.2 (by
      rw [value]
      exact Nat.le_of_lt_succ small))
  rw [String.utf8EncodeChar_eq_singleton one]
  refine congrArg (fun byte : UInt8 => [byte]) (UInt8.toNat_inj.1 ?_)
  rw [UInt32.toNat_toUInt8, value]
  exact Nat.mod_eq_of_lt byte.toNat_lt

/-- A character is its own byte, or its bytes are two or more of eight bits. -/
theorem utf8EncodeChar_cases (char : Char) :
    (∃ byte : UInt8, byte < 0x80 ∧ char = Char.ofNat byte.toNat) ∨
      ∃ (first second : UInt8) (rest : Bytes),
        String.utf8EncodeChar char = first :: second :: rest ∧ 0x80 ≤ first ∧ 0x80 ≤ second := by
  rcases Char.utf8Size_eq char with one | two | three | four
  · have small : char.val.toNat ≤ 127 := UInt32.le_iff_toNat_le.1 (Char.utf8Size_eq_one_iff.1 one)
    have value : char.val.toUInt8.toNat = char.val.toNat := by
      rw [UInt32.toNat_toUInt8]
      exact Nat.mod_eq_of_lt (by omega)
    refine .inl ⟨char.val.toUInt8, ?_, ?_⟩
    · rw [UInt8.lt_iff_toNat_lt, value]
      exact Nat.lt_succ_of_le small
    · rw [value]
      exact (Char.ofNat_toNat char).symm
  · exact .inr ⟨_, _, _, String.utf8EncodeChar_eq_cons_cons two, le_or (by decide) _,
      le_or (by decide) _⟩
  · exact .inr ⟨_, _, _, String.utf8EncodeChar_eq_cons_cons_cons three, le_or (by decide) _,
      le_or (by decide) _⟩
  · exact .inr ⟨_, _, _, String.utf8EncodeChar_eq_cons_cons_cons_cons four, le_or (by decide) _,
      le_or (by decide) _⟩

/-! ### Symbols -/

/-- A byte of seven bits is read as its character. -/
theorem leading?_cons_low {first : UInt8} (low : first < 0x80) (rest : Bytes) :
    leading? (first :: rest) = some (Char.ofNat first.toNat, 0) := by
  have bound : first ≤ 0x7F := Nat.le_of_lt_succ low
  unfold leading?
  dsimp only
  rw [if_pos bound]

/-- A byte of eight bits starts no character if one of seven follows. -/
theorem leading?_cons_high {first second : UInt8} (high : 0x80 ≤ first) (low : second < 0x80)
    (rest : Bytes) : leading? (first :: second :: rest) = none := by
  have beyond : ¬ first ≤ 0x7F := fun small =>
    absurd (UInt8.le_trans high small) (by decide)
  have parted : isContinuation second = false := by
    unfold isContinuation
    rw [decide_eq_false (UInt8.not_le.2 low), Bool.false_and]
  unfold leading?
  simp [beyond, parted]

/-- **A byte of seven bits is a character of its own**, whatever follows it. -/
theorem symbols_cons_low {first : UInt8} (low : first < 0x80) (rest : Bytes) :
    symbols (first :: rest) = .char (Char.ofNat first.toNat) :: symbols rest := by
  unfold symbols
  cases read : ofUtf8? rest with
  | some text =>
    have whole : utf8 (String.ofList (Char.ofNat first.toNat :: text.toList)) = first :: rest := by
      rw [utf8_ofList_cons, utf8EncodeChar_of_lt low, String.ofList_toList, utf8_of_ofUtf8? read]
      rfl
    rw [← whole, ofUtf8?_utf8]
    dsimp only
    rw [String.toList_ofList]
    rfl
  | none =>
    have unread : ofUtf8? (first :: rest) = none := by
      cases whole : ofUtf8? (first :: rest) with
      | none => rfl
      | some text =>
        obtain ⟨char, chars, -, bytes⟩ := exists_ofList_cons (utf8_of_ofUtf8? whole)
        rcases utf8EncodeChar_cases char with ⟨byte, small, same⟩ | ⟨lead, _, _, shape, high, -⟩
        · rw [same, utf8EncodeChar_of_lt small] at bytes
          have rest' : utf8 (String.ofList chars) = rest := (List.cons.inj bytes).2
          rw [← rest', ofUtf8?_utf8] at read
          cases read
        · rw [shape] at bytes
          rw [← (List.cons.inj bytes).1] at low
          exact absurd high (UInt8.not_le.2 low)
    rw [unread]
    dsimp only
    rw [symbolsAfter, leading?_cons_low low]

/-- **A byte of eight bits before one of seven belongs to no character.** -/
theorem symbols_cons_high {first second : UInt8} (high : 0x80 ≤ first) (low : second < 0x80)
    (rest : Bytes) :
    ∃ behind, symbols (first :: second :: rest) =
      .stray first :: .char (Char.ofNat second.toNat) :: behind := by
  have unread : ofUtf8? (first :: second :: rest) = none := by
    cases whole : ofUtf8? (first :: second :: rest) with
    | none => rfl
    | some text =>
      obtain ⟨char, chars, -, bytes⟩ := exists_ofList_cons (utf8_of_ofUtf8? whole)
      rcases utf8EncodeChar_cases char with ⟨byte, small, same⟩ | ⟨lead, next, _, shape, -, high'⟩
      · rw [same, utf8EncodeChar_of_lt small] at bytes
        rw [(List.cons.inj bytes).1] at small
        exact absurd high (UInt8.not_le.2 small)
      · rw [shape] at bytes
        rw [(List.cons.inj (List.cons.inj bytes).2).1] at high'
        exact absurd high' (UInt8.not_le.2 low)
  refine ⟨symbolsAfter 0 rest, ?_⟩
  unfold symbols
  rw [unread]
  dsimp only
  rw [symbolsAfter, leading?_cons_high high low]
  dsimp only
  rw [symbolsAfter, leading?_cons_low low]

end Text

end Statechart
