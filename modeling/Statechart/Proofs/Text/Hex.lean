/-
**Hexadecimal texts read back.**

Two digits are written for each byte and tell it, so bytes are told by their hexadecimal text, as
texts are told by their bytes.

* `ofHexChars?_hexChars`: bytes are read again from their digits.
* `ofHexChars?_eq_some_iff`: which digits give bytes.
* `hex_injective`: different bytes have different hexadecimal texts.
* `utf8_injective`: different texts have different bytes.
-/

import Statechart.Text.Hex
import Mathlib.Logic.Function.Defs

namespace Statechart.Text

theorem hexValue?_hexDigit {value : Nat} (small : value < 16) :
    hexValue? (hexDigit value) = some value := by
  have all : ∀ digit : Fin 16, hexValue? (hexDigit digit) = some digit.val := by decide
  exact all ⟨value, small⟩

/-- **Bytes are read again from their digits.** -/
theorem ofHexChars?_hexChars (bytes : Bytes) : ofHexChars? (hexChars bytes) = some bytes := by
  induction bytes with
  | nil => rfl
  | cons byte bytes ih =>
    have bound := byte.toNat_lt
    have high : hexValue? (hexDigit (byte.toNat / 16)) = some (byte.toNat / 16) :=
      hexValue?_hexDigit (by omega)
    have low : hexValue? (hexDigit (byte.toNat % 16)) = some (byte.toNat % 16) :=
      hexValue?_hexDigit (by omega)
    have whole : UInt8.ofNat (byte.toNat / 16 * 16 + byte.toNat % 16) = byte := by
      rw [Nat.div_add_mod', UInt8.ofNat_toNat]
    show (do
      let high ← hexValue? (hexDigit (byte.toNat / 16))
      let low ← hexValue? (hexDigit (byte.toNat % 16))
      let bytes ← ofHexChars? (hexChars bytes)
      return UInt8.ofNat (high * 16 + low) :: bytes) = some (byte :: bytes)
    rw [high, low, ih]
    exact congrArg (fun first => some (first :: bytes)) whole

/-! ### Digits of either case -/

/-- A digit has seven bits, and its value is below sixteen. -/
theorem lt_of_hexValue? {digit : Char} {value : Nat} (read : hexValue? digit = some value) :
    digit.toNat < 128 ∧ value < 16 := by
  have bound : ∀ last : Char, digit ≤ last → digit.toNat ≤ last.toNat :=
    fun last below => UInt32.le_iff_toNat_le.1 below
  unfold hexValue? at read
  split at read
  · next range =>
    cases read
    have last := bound '9' range.2
    simp only [Char.reduceToNat] at last ⊢
    omega
  · split at read
    · next range =>
      cases read
      have last := bound 'f' range.2
      simp only [Char.reduceToNat] at last ⊢
      omega
    · split at read
      · next range =>
        cases read
        have last := bound 'F' range.2
        simp only [Char.reduceToNat] at last ⊢
        omega
      · cases read

/-- A character whose small letter has seven bits has seven bits. -/
theorem lt_of_toLower {char : Char} (small : char.toLower.toNat < 128) : char.toNat < 128 := by
  unfold Char.toLower at small
  split at small
  · next capital => exact Nat.lt_of_le_of_lt (UInt32.le_iff_toNat_le.1 capital.2) (by decide)
  · exact small

/-- A character of seven bits is the one of a code that has seven. -/
theorem exists_code {char : Char} (ascii : char.toNat < 128) :
    ∃ code : Fin 128, char = Char.ofNat code :=
  ⟨⟨char.toNat, ascii⟩, (Char.ofNat_toNat char).symm⟩

/-- **The digits of a value are its small one and the same as a capital.** -/
theorem hexValue?_eq_some_iff {digit : Char} {value : Nat} :
    hexValue? digit = some value ↔ value < 16 ∧ digit.toLower = hexDigit value := by
  have all : ∀ code : Fin 128, ∀ value : Fin 16, hexValue? (Char.ofNat code) = some value.val ↔
      (Char.ofNat code).toLower = hexDigit value := by decide +kernel
  have one (ascii : digit.toNat < 128) (small : value < 16) :
      hexValue? digit = some value ↔ digit.toLower = hexDigit value := by
    obtain ⟨code, rfl⟩ := exists_code ascii
    exact all code ⟨value, small⟩
  constructor
  · intro read
    obtain ⟨ascii, small⟩ := lt_of_hexValue? read
    exact ⟨small, (one ascii small).1 read⟩
  · rintro ⟨small, same⟩
    have written : ∀ value : Fin 16, (hexDigit value).toNat < 128 := by decide
    have ascii : digit.toNat < 128 := lt_of_toLower (same ▸ written ⟨value, small⟩)
    exact (one ascii small).2 same

/-- **Digits give the bytes that are written in them or in their small letters.** -/
theorem ofHexChars?_eq_some_iff {digits : List Char} {bytes : Bytes} :
    ofHexChars? digits = some bytes ↔ digits.map Char.toLower = hexChars bytes := by
  fun_induction ofHexChars? digits generalizing bytes with
  | case1 =>
    cases bytes with
    | nil => exact iff_of_true rfl rfl
    | cons byte bytes => exact ⟨fun same => (nomatch same), fun same => (nomatch same)⟩
  | case2 =>
    refine ⟨fun same => (nomatch same), fun same => ?_⟩
    cases bytes with
    | nil => cases same
    | cons byte bytes => cases (List.cons.inj same).2
  | case3 high low rest ih =>
    cases bytes with
    | nil =>
      refine ⟨fun read => ?_, fun same => (nomatch same)⟩
      simp only [Option.bind_eq_bind, Option.bind_eq_some_iff] at read
      obtain ⟨_, -, _, -, _, -, read⟩ := read
      cases read
    | cons byte bytes =>
      have bound := byte.toNat_lt
      have written : hexChars (byte :: bytes) =
        hexDigit (byte.toNat / 16) :: hexDigit (byte.toNat % 16) :: hexChars bytes := rfl
      rw [written, List.map_cons, List.map_cons, List.cons.injEq, List.cons.injEq, ← ih]
      simp only [Option.bind_eq_bind, Option.bind_eq_some_iff]
      constructor
      · rintro ⟨first, upper, second, lower, others, later, same⟩
        cases same
        obtain ⟨small, upper⟩ := hexValue?_eq_some_iff.1 upper
        obtain ⟨small', lower⟩ := hexValue?_eq_some_iff.1 lower
        have value : (UInt8.ofNat (first * 16 + second)).toNat = first * 16 + second := by
          rw [UInt8.toNat_ofNat']
          omega
        rw [value, show (first * 16 + second) / 16 = first by omega,
          show (first * 16 + second) % 16 = second by omega]
        exact ⟨upper, lower, later⟩
      · rintro ⟨upper, lower, later⟩
        refine ⟨_, hexValue?_eq_some_iff.2 ⟨by omega, upper⟩, _,
          hexValue?_eq_some_iff.2 ⟨by omega, lower⟩, _, later, ?_⟩
        rw [Nat.div_add_mod', UInt8.ofNat_toNat]
        rfl

/-! ### Injectivity -/

/-- Different bytes have different hexadecimal texts. -/
theorem hex_injective : Function.Injective hex := by
  intro first second same
  have digits : hexChars first = hexChars second := String.ofList_injective same
  refine Option.some.inj ?_
  rw [← ofHexChars?_hexChars first, digits, ofHexChars?_hexChars]

/-- Different texts have different bytes. -/
theorem utf8_injective : Function.Injective utf8 := by
  intro first second same
  refine Option.some.inj ?_
  rw [← ofUtf8?_utf8 first, same, ofUtf8?_utf8]

end Statechart.Text
