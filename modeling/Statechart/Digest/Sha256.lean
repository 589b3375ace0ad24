/-
**The secure hash SHA-256.**

The message is padded to whole blocks of sixty-four bytes, and every block mixes its sixteen words
into the eight registers in sixty-four rounds.
-/

import Statechart.Text.Hex

namespace Statechart.Digest

/-- The eight chaining words. -/
structure Registers where
  a : UInt32
  b : UInt32
  c : UInt32
  d : UInt32
  e : UInt32
  f : UInt32
  g : UInt32
  h : UInt32
  deriving DecidableEq

/-- The words that the hash starts with: fractions of the square roots of the first eight primes. -/
def startRegisters : Registers :=
  { a := 0x6a09e667, b := 0xbb67ae85, c := 0x3c6ef372, d := 0xa54ff53a
    e := 0x510e527f, f := 0x9b05688c, g := 0x1f83d9ab, h := 0x5be0cd19 }

/-- The round constants: fractions of the cube roots of the first sixty-four primes. -/
def roundConstants : List UInt32 :=
  [0x428a2f98, 0x71374491, 0xb5c0fbcf, 0xe9b5dba5, 0x3956c25b, 0x59f111f1, 0x923f82a4, 0xab1c5ed5,
   0xd807aa98, 0x12835b01, 0x243185be, 0x550c7dc3, 0x72be5d74, 0x80deb1fe, 0x9bdc06a7, 0xc19bf174,
   0xe49b69c1, 0xefbe4786, 0x0fc19dc6, 0x240ca1cc, 0x2de92c6f, 0x4a7484aa, 0x5cb0a9dc, 0x76f988da,
   0x983e5152, 0xa831c66d, 0xb00327c8, 0xbf597fc7, 0xc6e00bf3, 0xd5a79147, 0x06ca6351, 0x14292967,
   0x27b70a85, 0x2e1b2138, 0x4d2c6dfc, 0x53380d13, 0x650a7354, 0x766a0abb, 0x81c2c92e, 0x92722c85,
   0xa2bfe8a1, 0xa81a664b, 0xc24b8b70, 0xc76c51a3, 0xd192e819, 0xd6990624, 0xf40e3585, 0x106aa070,
   0x19a4c116, 0x1e376c08, 0x2748774c, 0x34b0bcb5, 0x391c0cb3, 0x4ed8aa4a, 0x5b9cca4f, 0x682e6ff3,
   0x748f82ee, 0x78a5636f, 0x84c87814, 0x8cc70208, 0x90befffa, 0xa4506ceb, 0xbef9a3f7, 0xc67178f2]

/-- A word turned right by so many bits. -/
def rotateRight (word count : UInt32) : UInt32 := (word >>> count) ||| (word <<< (32 - count))

/-- The word of four bytes, highest first. -/
def wordOf (bytes : Bytes) : UInt32 := bytes.foldl (fun word byte => word <<< 8 ||| byte.toUInt32) 0

/-- The four bytes of a word, highest first. -/
def wordBytes (word : UInt32) : Bytes :=
  [(word >>> 24).toUInt8, (word >>> 16).toUInt8, (word >>> 8).toUInt8, word.toUInt8]

/-- The message behind its padding: a set bit, zeros, and its length in bits as eight bytes. -/
def padded (message : Bytes) : Bytes :=
  let bits := 8 * message.length
  let fill := (119 - message.length % 64) % 64
  message ++ 0x80 :: (List.replicate fill 0 ++
    wordBytes (UInt32.ofNat (bits / Nat.pow 2 32)) ++ wordBytes (UInt32.ofNat bits))

/-- The word that follows a window of the sixteen last words of a block's schedule. -/
def nextWord (window : List UInt32) : UInt32 :=
  let second := window.getD 1 0
  let fifteenth := window.getD 14 0
  let low := rotateRight second 7 ^^^ rotateRight second 18 ^^^ second >>> 3
  let high := rotateRight fifteenth 17 ^^^ rotateRight fifteenth 19 ^^^ fifteenth >>> 10
  window.getD 0 0 + low + window.getD 9 0 + high

/-- One round with its constant and its word. -/
def round (constant word : UInt32) (r : Registers) : Registers :=
  let high := rotateRight r.e 6 ^^^ rotateRight r.e 11 ^^^ rotateRight r.e 25
  let choice := (r.e &&& r.f) ^^^ (~~~r.e &&& r.g)
  let first := r.h + high + choice + constant + word
  let low := rotateRight r.a 2 ^^^ rotateRight r.a 13 ^^^ rotateRight r.a 22
  let majority := (r.a &&& r.b) ^^^ (r.a &&& r.c) ^^^ (r.b &&& r.c)
  { a := first + (low + majority), b := r.a, c := r.b, d := r.c
    e := r.d + first, f := r.e, g := r.f, h := r.g }

/-- The rounds with the given constants on a window of the block's schedule. -/
def rounds : List UInt32 → List UInt32 → Registers → Registers
  | [], _, registers => registers
  | constant :: constants, window, registers =>
    rounds constants (window.drop 1 ++ [nextWord window])
      (round constant (window.getD 0 0) registers)

/-- The registers after a block of sixteen words. -/
def compress (start : Registers) (block : List UInt32) : Registers :=
  let r := rounds roundConstants block start
  { a := start.a + r.a, b := start.b + r.b, c := start.c + r.c, d := start.d + r.d
    e := start.e + r.e, f := start.f + r.f, g := start.g + r.g, h := start.h + r.h }

/-- A list divided into parts of one size, of which there are so many. -/
def parts {α : Type} (size : Nat) : Nat → List α → List (List α)
  | 0, _ => []
  | count + 1, items => items.take size :: parts size count (items.drop size)

/-- The hash of a message. -/
def sha256 (message : Bytes) : Bytes :=
  let bytes := padded message
  let words := (parts 4 (bytes.length / 4) bytes).map wordOf
  let r := (parts 16 (words.length / 16) words).foldl compress startRegisters
  [r.a, r.b, r.c, r.d, r.e, r.f, r.g, r.h].flatMap wordBytes

end Statechart.Digest
