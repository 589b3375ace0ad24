/-
**Damaged frames.**

A frame is accepted only as the frame of its payload, byte by byte. So whoever changes some bytes of
a frame either leaves its payload, and with it the whole frame, or has to find another payload of
the same length and check under the same header, which no short burst gives. Where the mark at the
start is damaged the bytes are taken for a bare data text, and no dump is read of them: no data text
starts with a capital, and one with a capital behind its first symbol is a text or a number.

* `Frame.decode?_eq_ok_iff`: which frames are accepted.
* `Json.Tree.value?_cons_upper`: the values whose second symbol is a capital.
* `Frame.Damaged`: the damages that are found.
* `Machine.decode?_damaged`: a damaged frame gives no machine.
-/

import Statechart.Proofs.Digest.Crc32c
import Statechart.Proofs.Dump.Lossless
import Statechart.Proofs.Runner.Operation

namespace Statechart

open Json Text

/-! ### Frames that are accepted -/

namespace Frame

/-- Bytes are written again from the number that they give. -/
theorem bigEndian_ofBigEndian (bytes : Bytes) :
    bigEndian bytes.length (ofBigEndian bytes) = bytes := by
  induction bytes using List.reverseRecOn with
  | nil => rfl
  | append_singleton bytes byte ih =>
    have number : ofBigEndian (bytes ++ [byte]) = ofBigEndian bytes * 256 + byte.toNat := by
      rw [ofBigEndian, List.foldl_append]
      rfl
    have small := byte.toNat_lt
    have before : (ofBigEndian bytes * 256 + byte.toNat) / 256 = ofBigEndian bytes := by omega
    have last : UInt8.ofNat (ofBigEndian bytes * 256 + byte.toNat) = byte := by
      refine UInt8.toNat_inj.1 ?_
      rw [UInt8.toNat_ofNat']
      omega
    rw [List.length_append, List.length_singleton, number, bigEndian, before, last, ih]

/-- Two numbers that fit so many bytes are the same if they are written alike. -/
theorem bigEndian_inj {count number number' : Nat} (fits : number < Nat.pow 256 count)
    (fits' : number' < Nat.pow 256 count)
    (same : bigEndian count number = bigEndian count number') : number = number' := by
  have read := congrArg ofBigEndian same
  rwa [ofBigEndian_bigEndian, ofBigEndian_bigEndian, Nat.mod_eq_of_lt fits,
    Nat.mod_eq_of_lt fits'] at read

theorem ofBigEndian_lt (bytes : Bytes) : ofBigEndian bytes < Nat.pow 256 bytes.length := by
  have again := ofBigEndian_bigEndian bytes.length (ofBigEndian bytes)
  rw [bigEndian_ofBigEndian] at again
  rw [again]
  exact Nat.mod_lt _ (Nat.pow_pos (by decide))

/-- The bytes of a number that stands in other bytes. -/
theorem bigEndian_numberAt {bytes : Bytes} {start count : Nat}
    (inside : start + count ≤ bytes.length) :
    bigEndian count (numberAt bytes start count) = (bytes.drop start).take count := by
  have size : ((bytes.drop start).take count).length = count := by
    rw [List.length_take, List.length_drop]
    omega
  have written := bigEndian_ofBigEndian ((bytes.drop start).take count)
  rwa [size] at written

theorem numberAt_lt {bytes : Bytes} {start count : Nat} (inside : start + count ≤ bytes.length) :
    numberAt bytes start count < Nat.pow 256 count := by
  have size : ((bytes.drop start).take count).length = count := by
    rw [List.length_take, List.length_drop]
    omega
  have small := ofBigEndian_lt ((bytes.drop start).take count)
  rwa [size] at small

/-- Bytes that are long enough are a mark, three numbers and what stands behind them. -/
theorem eq_header_append {bytes : Bytes} (long : 14 ≤ bytes.length) :
    bytes = bytes.take 4 ++ bigEndian 2 (numberAt bytes 4 2) ++ bigEndian 4 (numberAt bytes 6 4) ++
      bigEndian 4 (numberAt bytes 10 4) ++ bytes.drop 14 := by
  rw [bigEndian_numberAt (by omega), bigEndian_numberAt (by omega), bigEndian_numberAt (by omega),
    ← List.take_add, ← List.take_add, ← List.take_add, List.take_append_drop]

/-- Bytes from some place are the next few and those behind them. -/
theorem drop_eq_take_append (bytes : Bytes) (start count : Nat) :
    bytes.drop start = (bytes.drop start).take count ++ bytes.drop (start + count) := by
  rw [← List.drop_drop, List.take_append_drop]

/-- **A frame is accepted exactly as the frame of its payload.** -/
theorem decode?_eq_ok_iff {bytes payload : Bytes} (framed : isFrame bytes) :
    decode? bytes = .ok payload ↔ bytes = encode payload ∧ payload.length < Nat.pow 2 32 := by
  constructor
  · intro decoded
    unfold decode? at decoded
    dsimp only at decoded
    split at decoded
    · cases decoded
    next long =>
    split at decoded
    · cases decoded
    next current =>
    split at decoded
    · cases decoded
    next complete =>
    split at decoded
    · cases decoded
    next intact =>
    have long : 14 ≤ bytes.length := Nat.not_lt.1 long
    have mark : magic = bytes.take 4 :=
      List.prefix_iff_eq_take.1 (List.isPrefixOf_iff_prefix.1 framed)
    have check : (Digest.crc32c (bytes.drop frameHeaderSize)).toNat = numberAt bytes 10 4 := by
      rw [not_not.1 intact, UInt32.toNat_ofNat']
      exact Nat.mod_eq_of_lt (numberAt_lt (by omega))
    obtain rfl := Except.ok.inj decoded
    constructor
    · unfold encode
      rw [← not_not.1 complete, check, ← not_not.1 current, mark]
      exact eq_header_append long
    · rw [← not_not.1 complete]
      exact numberAt_lt (by omega)
  · rintro ⟨rfl, small⟩
    rw [decode?_encode_eq, if_pos small]

/-- The bytes of a frame's header. -/
theorem take_encode (payload : Bytes) :
    (encode payload).take frameHeaderSize = magic ++ bigEndian 2 version ++
      bigEndian 4 payload.length ++ bigEndian 4 (Digest.crc32c payload).toNat := by
  unfold encode
  refine List.take_left' ?_
  simp only [List.length_append, length_bigEndian]
  rfl

/-- **A header tells the length and the check of the payload.** -/
theorem header_inj {payload payload' : Bytes} (small : payload.length < Nat.pow 2 32)
    (small' : payload'.length < Nat.pow 2 32)
    (same : (encode payload).take frameHeaderSize = (encode payload').take frameHeaderSize) :
    payload.length = payload'.length ∧ Digest.crc32c payload = Digest.crc32c payload' := by
  rw [take_encode, take_encode] at same
  obtain ⟨sizes, checks⟩ := List.append_inj' same (by rw [length_bigEndian, length_bigEndian])
  have sizes := List.append_cancel_left sizes
  have fits (check : UInt32) : check.toNat < Nat.pow 256 4 := check.toNat_lt
  exact ⟨bigEndian_inj (show _ < Nat.pow 256 4 from small) small' sizes,
    UInt32.toNat_inj.1 (bigEndian_inj (fits _) (fits _) checks)⟩

theorem length_encode (payload : Bytes) :
    (encode payload).length = frameHeaderSize + payload.length := by
  rw [← List.take_append_drop frameHeaderSize (encode payload), take_encode, drop_encode]
  simp only [List.length_append, length_bigEndian]
  rfl

/-! ### Damages -/

/-- Bytes and what a damage makes of them. -/
inductive Damaged : Bytes → Bytes → Prop
  /-- One byte of the header is overwritten. -/
  | header (before : Bytes) (byte byte' : UInt8) (after : Bytes)
      (inside : before.length < frameHeaderSize) :
      Damaged (before ++ byte :: after) (before ++ byte' :: after)
  /-- At most four successive bytes of the payload are overwritten. -/
  | burst (before bytes bytes' after : Bytes) (behind : frameHeaderSize ≤ before.length)
      (even : bytes.length = bytes'.length) (short : bytes.length ≤ 4) :
      Damaged (before ++ bytes ++ after) (before ++ bytes' ++ after)
  /-- Only so many bytes are left. -/
  | cut (whole : Bytes) (count : Nat) : Damaged whole (whole.take count)
  /-- Further bytes follow. -/
  | extended (whole more : Bytes) : Damaged whole (whole ++ more)

/-- **No damaged frame is accepted as a frame.** -/
theorem Damaged.eq_of_encode {whole damaged payload payload' : Bytes}
    (damage : Damaged whole damaged) (framed : whole = encode payload)
    (small : payload.length < Nat.pow 2 32) (framed' : damaged = encode payload')
    (small' : payload'.length < Nat.pow 2 32) : damaged = whole := by
  have payloads : ∀ {bytes payload : Bytes}, bytes = encode payload →
      bytes.drop frameHeaderSize = payload := fun same => same ▸ drop_encode _
  have headers (same : whole.take frameHeaderSize = damaged.take frameHeaderSize) :
      payload.length = payload'.length ∧ Digest.crc32c payload = Digest.crc32c payload' :=
    header_inj small small' (framed ▸ framed' ▸ same)
  have sizes (same : whole.take frameHeaderSize = damaged.take frameHeaderSize) :
      whole.length = damaged.length := by
    rw [framed, framed', length_encode, length_encode, (headers same).1]
  cases damage with
  | header before byte byte' after inside =>
    have behind (byte : UInt8) : (before ++ byte :: after).drop frameHeaderSize =
        after.drop (frameHeaderSize - before.length - 1) := by
      rw [List.drop_append, List.drop_eq_nil_of_le (Nat.le_of_lt inside), List.nil_append,
        ← Nat.sub_add_cancel (Nat.sub_pos_of_lt inside)]
      rfl
    rw [framed, framed', ← payloads framed, ← payloads framed', behind, behind]
  | burst before bytes bytes' after behind even short =>
    have later (bytes : Bytes) : (before ++ bytes ++ after).drop frameHeaderSize =
        before.drop frameHeaderSize ++ bytes ++ after := by
      rw [List.append_assoc, List.append_assoc, List.drop_append_of_le_length behind]
    have checks := (headers (by
      rw [List.append_assoc, List.append_assoc, List.take_append_of_le_length behind,
        List.take_append_of_le_length behind])).2
    rw [← payloads framed, ← payloads framed', later, later] at checks
    rw [Digest.eq_of_crc32c_eq even short checks]
  | cut _ count =>
    have long : frameHeaderSize ≤ count := by
      have size := congrArg List.length framed'
      rw [List.length_take, length_encode] at size
      omega
    refine (List.take_prefix count whole).eq_of_length (sizes ?_).symm
    rw [List.take_take, Nat.min_eq_left long]
  | extended _ more =>
    refine ((List.prefix_append whole more).eq_of_length (sizes ?_)).symm
    rw [List.take_append_of_le_length]
    rw [framed, length_encode]
    exact Nat.le_add_right _ _

/-- What a damaged frame starts with: its first byte is left, or its second, or nothing is. -/
theorem Damaged.start {whole damaged payload : Bytes} (damage : Damaged whole damaged)
    (framed : whole = encode payload) :
    damaged = [] ∨ (∃ rest, damaged = 0x52 :: rest) ∨
      ∃ first rest, damaged = first :: 0x43 :: rest := by
  cases damage with
  | header before byte byte' after inside =>
    cases before with
    | nil => exact .inr (.inr ⟨byte', _, by rw [(List.cons.inj framed).2]; rfl⟩)
    | cons first before => exact .inr (.inl ⟨_, by rw [(List.cons.inj framed).1]; rfl⟩)
  | burst before bytes bytes' after behind even short =>
    cases before with
    | nil => cases behind
    | cons first before => exact .inr (.inl ⟨_, by rw [(List.cons.inj framed).1]; rfl⟩)
  | cut _ count =>
    cases count with
    | zero => exact .inl rfl
    | succ count => exact .inr (.inl ⟨_, by rw [framed]; rfl⟩)
  | extended _ more => exact .inr (.inl ⟨_, by rw [framed]; rfl⟩)

end Frame

/-! ### Texts with a capital at the start -/

namespace Json

/-- A capital is no blank. -/
theorem skipBlanks_upper {letter : Char} (upper : letter.isUpper) (rest : List Symbol) :
    skipBlanks (.char letter :: rest) = .char letter :: rest := by
  refine List.dropWhile_cons_of_neg fun blank => ?_
  simp only [isBlank, decide_eq_true_eq] at blank
  rcases blank with rfl | rfl | rfl | rfl <;> cases upper

/-- No number starts with a capital. -/
theorem literal?_upper {letter : Char} (upper : letter.isUpper) (negative : Bool)
    (rest : List Symbol) : literal? negative (.char letter :: rest) = none := by
  have beyond : ¬ letter ≤ '9' := fun small => by
    have capital : decide ('A'.val ≤ letter.val ∧ letter.val ≤ 'Z'.val) = true := upper
    have least : 'A'.toNat ≤ letter.toNat :=
      UInt32.le_iff_toNat_le.1 (of_decide_eq_true capital).1
    exact absurd (Nat.le_trans least (UInt32.le_iff_toNat_le.1 small)) (by decide)
  have digit : digit? (.char letter) = none := if_neg fun among => beyond among.2
  have none : digits (.char letter :: rest) = ([], .char letter :: rest) := by
    rw [digits, digit]
  unfold literal? wholePart?
  rw [none]
  rfl

/-- A word in small letters does not go on with a capital. -/
theorem word?_upper {letter : Char} (upper : letter.isUpper) {char : Char}
    (small : ¬ char.isUpper) (chars : List Char) (rest : List Symbol) :
    word? (char :: chars) (.char letter :: rest) = none :=
  if_neg fun same => small ((Symbol.char.inj same : letter = char) ▸ upper)

namespace Tree

/-- **No value starts with a capital.** -/
theorem value?_upper {letter : Char} (upper : letter.isUpper) (fuel : Nat) (rest : List Symbol) :
    value? fuel (.char letter :: rest) = none := by
  cases fuel with
  | zero => rfl
  | succ fuel =>
    unfold value?
    rw [skipBlanks_upper upper]
    split <;> first | (next same => cases (List.cons.inj same).1; cases upper) | skip
    rw [literal?_upper upper]
    rfl

theorem items?_upper {letter : Char} (upper : letter.isUpper) (fuel : Nat) (rest : List Symbol) :
    items? fuel (.char letter :: rest) = none := by
  cases fuel with
  | zero => rfl
  | succ fuel => rw [items?, value?_upper upper]

theorem members?_upper {letter : Char} (upper : letter.isUpper) (fuel : Nat) (rest : List Symbol) :
    members? fuel (.char letter :: rest) = none := by
  cases fuel with
  | zero => rfl
  | succ fuel =>
    rw [members?, skipBlanks_upper upper]
    split
    · next same => cases same; cases upper
    · rfl

/-- **A value whose second symbol is a capital is a text or a number.** -/
theorem value?_cons_upper {letter : Char} (upper : letter.isUpper) {fuel : Nat} {symbol : Symbol}
    {rest behind : List Symbol} {tree : Tree}
    (read : value? fuel (symbol :: .char letter :: rest) = some (tree, behind)) :
    (∃ pieces, tree = .string pieces) ∨ ∃ literal, tree = .number literal := by
  by_cases blank : isBlank symbol
  · have skipped :
        skipBlanks (symbol :: .char letter :: rest) = skipBlanks (.char letter :: rest) :=
      List.dropWhile_cons_of_pos blank
    rw [← value?_skipBlanks, skipped, value?_skipBlanks, value?_upper upper] at read
    cases read
  cases fuel with
  | zero => cases read
  | succ fuel =>
    have shown : skipBlanks (symbol :: .char letter :: rest) = symbol :: .char letter :: rest :=
      List.dropWhile_cons_of_neg blank
    unfold value? at read
    rw [shown] at read
    have number {found : Option (Literal × List Symbol)}
        (same : found.map (fun found => (Tree.number found.1, found.2)) = some (tree, behind)) :
        ∃ literal, tree = .number literal := by
      obtain ⟨found, -, same⟩ := Option.map_eq_some_iff.1 same
      exact ⟨found.1, (congrArg Prod.fst same).symm⟩
    have word {char : Char} (small : ¬ char.isUpper) {chars : List Char}
        {found : List Symbol → Tree × List Symbol}
        (read : (word? (char :: chars) (.char letter :: rest)).map found = some (tree, behind)) :
        False := by
      rw [word?_upper upper small] at read
      cases read
    -- the three words, then a text, a signed number, a list, a record, and a number without a sign
    split at read
    · next same => cases same; exact (word (by decide) read).elim
    · next same => cases same; exact (word (by decide) read).elim
    · next same => cases same; exact (word (by decide) read).elim
    · obtain ⟨found, -, same⟩ := Option.map_eq_some_iff.1 read
      exact .inl ⟨found.1, (congrArg Prod.fst same).symm⟩
    · exact .inr (number read)
    · next same =>
      cases same
      rw [skipBlanks_upper upper] at read
      split at read
      · next same => cases same; cases upper
      · rw [items?_upper upper] at read
        cases read
    · next same =>
      cases same
      rw [skipBlanks_upper upper] at read
      split at read
      · next same => cases same; cases upper
      · rw [members?_upper upper] at read
        cases read
    · exact .inr (number read)

end Tree

end Json

/-- A text or a number is no dump. -/
theorem Dump.ofTree?_eq_none {tree : Tree}
    (plain : (∃ pieces, tree = .string pieces) ∨ ∃ literal, tree = .number literal) :
    ofTree? tree = none := by
  rcases plain with ⟨pieces, rfl⟩ | ⟨literal, rfl⟩ <;> rfl

/-- **No dump is read of bytes that start as a damaged frame.** -/
theorem Dump.ofBytes?_eq_none {bytes : Bytes}
    (start : bytes = [] ∨ (∃ rest, bytes = 0x52 :: rest) ∨
      ∃ first rest, bytes = first :: 0x43 :: rest) : ofBytes? bytes = none := by
  have capital (first : Symbol) (rest : List Symbol) :
      (Tree.ofSymbols? (first :: .char 'C' :: rest)).bind ofTree? = none := by
    unfold Tree.ofSymbols? Tree.first?
    cases read : Tree.value? (2 * (first :: .char 'C' :: rest).length + 1)
      (first :: .char 'C' :: rest) with
    | none => rfl
    | some found =>
      have plain := Dump.ofTree?_eq_none (Tree.value?_cons_upper (by decide) read)
      show (if found.2.all isBlank then some found.1 else none).bind ofTree? = none
      split
      · exact plain
      · rfl
  unfold ofBytes?
  rcases start with rfl | ⟨rest, rfl⟩ | ⟨first, rest, rfl⟩
  · rw [show symbols [] = [] from symbols_utf8 ""]
    rfl
  · rw [symbols_cons_low (by decide)]
    unfold Tree.ofSymbols? Tree.first?
    rw [show Char.ofNat (0x52 : UInt8).toNat = 'R' from rfl, Tree.value?_upper (by decide)]
    rfl
  · by_cases low : first < 0x80
    · rw [symbols_cons_low low, symbols_cons_low (show (0x43 : UInt8) < 0x80 by decide)]
      exact capital _ _
    · obtain ⟨behind, same⟩ := symbols_cons_high (UInt8.not_lt.1 low)
        (show (0x43 : UInt8) < 0x80 by decide) rest
      rw [same]
      exact capital _ _

/-! ### Machines -/

/-- **A damaged frame gives no machine.** -/
theorem Machine.decode?_damaged {machine : Machine}
    (small : (utf8 machine.text).length < Nat.pow 2 32) {damaged : Bytes}
    (damage : Frame.Damaged (machine.encode .binary) damaged)
    (differs : damaged ≠ machine.encode .binary) :
    ∃ fault, decode? damaged = .error fault := by
  unfold decode? DumpFormat.detect
  by_cases framed : Frame.isFrame damaged
  · rw [if_pos framed]
    dsimp only
    cases read : Frame.decode? damaged with
    | error fault => exact ⟨fault, rfl⟩
    | ok payload =>
      obtain ⟨same, small'⟩ := (Frame.decode?_eq_ok_iff framed).1 read
      exact absurd (damage.eq_of_encode rfl small same small') differs
  · rw [if_neg framed]
    unfold ofPayload?
    dsimp only
    rw [Dump.ofBytes?_eq_none (damage.start rfl)]
    exact ⟨_, rfl⟩

/-- A frame with a bit flipped in each of the first four bytes of its payload. -/
def Frame.flipped (frame : Bytes) : Bytes :=
  frame.take 14 ++ ((frame.drop 14).take 4).map (· ^^^ 1) ++ frame.drop 18

theorem Frame.damaged_flipped {frame : Bytes} (long : 14 ≤ frame.length) :
    Damaged frame (flipped frame) := by
  have split : frame.take 14 ++ (frame.drop 14).take 4 ++ frame.drop 18 = frame := by
    rw [List.append_assoc, ← drop_eq_take_append frame 14 4, List.take_append_drop]
  have behind : 14 ≤ (frame.take 14).length := by
    rw [List.length_take, Nat.min_eq_left long]
  have burst := Damaged.burst (frame.take 14) ((frame.drop 14).take 4)
    (((frame.drop 14).take 4).map (· ^^^ 1)) (frame.drop 18) behind (List.length_map _).symm
    (List.length_take_le _ _)
  rwa [split] at burst

theorem Machine.header_le (machine : Machine) : 14 ≤ (machine.encode .binary).length := by
  rw [encode, Frame.length_encode]
  exact Nat.le_add_right 14 _

/-- A payload starts with a brace, which is no longer there if its last bit is flipped. -/
theorem Machine.flipped_ne (machine : Machine) :
    Frame.flipped (machine.encode .binary) ≠ machine.encode .binary := by
  intro same
  have payload : (machine.encode .binary).drop 14 = utf8 machine.text := Frame.drop_encode _
  obtain ⟨rest, text⟩ : ∃ rest, utf8 machine.text = 0x7B :: rest := ⟨_, utf8_ofList_cons '{' _⟩
  have first : ((machine.encode .binary).drop 14).head? = some 0x7B := by
    rw [payload, text]
    rfl
  rw [← same, Frame.flipped, payload, text] at first
  cases first

/-- The frame of the door with four flipped bits gives no machine. -/
theorem Machine.decode?_damaged_door :
    (utf8 shutDoor.text).length < Nat.pow 2 32 ∧
      Frame.Damaged (shutDoor.encode .binary) (Frame.flipped (shutDoor.encode .binary)) ∧
      Frame.flipped (shutDoor.encode .binary) ≠ shutDoor.encode .binary ∧
      ∃ fault, decode? (Frame.flipped (shutDoor.encode .binary)) = .error fault := by
  have small : (utf8 shutDoor.text).length < Nat.pow 2 32 := by
    show (utf8 (String.ofList _)).length < _
    rw [utf8_ofList]
    decide +kernel
  have damage := Frame.damaged_flipped shutDoor.header_le
  exact ⟨small, damage, shutDoor.flipped_ne, decode?_damaged small damage shutDoor.flipped_ne⟩

end Statechart
