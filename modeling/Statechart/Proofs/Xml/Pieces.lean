/-
**Readers take pieces.**

What a reader of a marked-up text takes off it is a piece at its front, and what stands behind the
piece is no matter: another text that starts with the piece is read alike. A reader that stops at
a character which does not belong to the piece any more has to see that character, but no more than
that.

* `Xml.Takes`: a reader takes a piece, whatever stands behind it.
* `Xml.TakesBefore`: a reader takes a piece where some character stands behind it.
* `Xml.startsWith_append`: a word is seen in a piece.
* `Xml.until?_again`: what stands before a place is a piece.
* `Xml.comment?_takes`, `Xml.instruction?_takes`, `Xml.section?_takes`, `Xml.text?_takes`: so are
  these.
* `Xml.attributeData?_takes`: so is an attribute.
-/

import Statechart.Xml.Document
import Mathlib.Data.List.TakeDrop
import Mathlib.Data.List.TakeWhile

namespace Statechart.Xml

variable {α β : Type}

/-! ### Pieces -/

/-- **A reader takes a piece off a text**, whatever stands behind it. -/
def Takes (reader : List Char → Option (α × List Char)) (piece : List Char) (value : α) : Prop :=
  ∀ rest, reader (piece ++ rest) = some (value, rest)

/-- **A reader takes a piece** where the same character stands behind it as in front of a text. -/
def TakesBefore (reader : List Char → Option (α × List Char)) (piece : List Char) (value : α)
    (rest : List Char) : Prop :=
  ∀ rest', rest'.head? = rest.head? → reader (piece ++ rest') = some (value, rest')

theorem Takes.before {reader : List Char → Option (α × List Char)} {piece : List Char} {value : α}
    (takes : Takes reader piece value) (rest : List Char) :
    TakesBefore reader piece value rest := fun rest' _ => takes rest'

theorem of_bind_some {first : Option α} {next : α → Option β} {value : β}
    (read : first >>= next = some value) :
    ∃ between, first = some between ∧ next between = some value :=
  Option.bind_eq_some_iff.1 read

theorem bind_eq_some {first : Option α} {next : α → Option β} {between : α} {value : β}
    (begins : first = some between) (goesOn : next between = some value) :
    first >>= next = some value :=
  Option.bind_eq_some_iff.2 ⟨between, begins, goesOn⟩

/-- Texts that start with one piece start alike. -/
theorem head?_append_of_filled {piece : List Char} (filled : piece ≠ []) (rest rest' : List Char) :
    (piece ++ rest').head? = (piece ++ rest).head? := by
  cases piece with
  | nil => exact absurd rfl filled
  | cons char piece => rfl

/-- Behind one piece, texts start alike if they do without it. -/
theorem head?_append_congr (piece : List Char) {rest rest' : List Char}
    (same : rest'.head? = rest.head?) : (piece ++ rest').head? = (piece ++ rest).head? := by
  cases piece with
  | nil => exact same
  | cons char piece => rfl

/-! ### Runs of characters -/

/-- A run of characters and what stands behind it. -/
theorem of_span {holds : Char → Bool} {text run rest : List Char}
    (read : text.span holds = (run, rest)) :
    text = run ++ rest ∧ (∀ char ∈ run, holds char) ∧
      ∀ rest', rest'.head? = rest.head? → (run ++ rest').span holds = (run, rest') := by
  rw [List.span_eq_takeWhile_dropWhile] at read
  obtain ⟨rfl, rfl⟩ := Prod.mk.inj read
  have all : ∀ char ∈ text.takeWhile holds, holds char := fun _ => List.mem_takeWhile_imp
  refine ⟨List.takeWhile_append_dropWhile.symm, all, fun rest' same => ?_⟩
  have stops := List.head?_dropWhile_not holds text
  rw [← same] at stops
  have none : rest'.takeWhile holds = [] ∧ rest'.dropWhile holds = rest' := by
    cases rest' with
    | nil => exact ⟨rfl, rfl⟩
    | cons char rest' =>
      have stops : holds char = false := stops
      simp [stops]
  rw [List.span_eq_takeWhile_dropWhile, List.takeWhile_append_of_pos all,
    List.dropWhile_append_of_pos all, none.1, none.2, List.append_nil]

theorem exists_spaces (text : List Char) : ∃ spaces, text = spaces ++ skipSpaces text ∧
    ∀ rest', rest'.head? = (skipSpaces text).head? → skipSpaces (spaces ++ rest') = rest' := by
  obtain ⟨same, -, again⟩ := of_span (List.span_eq_takeWhile_dropWhile isSpace text)
  refine ⟨text.takeWhile isSpace, same, fun rest' head => ?_⟩
  have read := again rest' head
  rw [List.span_eq_takeWhile_dropWhile] at read
  exact (Prod.mk.inj read).2

/-! ### Words -/

theorem behind?_append (word rest : List Char) : behind? word (word ++ rest) = some rest := by
  induction word with
  | nil => rfl
  | cons char word ih => exact (if_pos rfl).trans ih

theorem eq_of_behind? {word text rest : List Char} (read : behind? word text = some rest) :
    text = word ++ rest := by
  induction word generalizing text with
  | nil => exact Option.some.inj read
  | cons expected word ih =>
    cases text with
    | nil => cases read
    | cons char text =>
      unfold behind? at read
      split at read
      · next same => rw [← same, ih read, List.cons_append]
      · cases read

theorem startsWith_iff {word text : List Char} : startsWith word text ↔ word <+: text := by
  unfold startsWith
  rw [Option.isSome_iff_exists]
  constructor
  · rintro ⟨rest, read⟩
    exact ⟨rest, (eq_of_behind? read).symm⟩
  · rintro ⟨rest, rfl⟩
    exact ⟨rest, behind?_append word rest⟩

/-- **Whether a text starts with a word is seen in a piece at its front**, unless the piece is a
part of the word. -/
theorem startsWith_append {word piece : List Char} (decided : piece <+: word → piece = word)
    (rest rest' : List Char) :
    startsWith word (piece ++ rest') = startsWith word (piece ++ rest) := by
  rw [Bool.eq_iff_iff, startsWith_iff, startsWith_iff]
  have within (rest : List Char) : word <+: piece ++ rest ↔ word <+: piece := by
    refine ⟨fun starts => ?_, fun starts => starts.trans (List.prefix_append _ _)⟩
    rcases List.prefix_or_prefix_of_prefix starts (List.prefix_append piece rest) with
      inside | longer
    · exact inside
    · obtain rfl := decided longer
      exact List.prefix_rfl
  rw [within, within]

/-- A piece with a character that is not in a word is no part of it. -/
theorem not_prefix_of_mem {word piece : List Char} {char : Char} (inside : char ∈ piece)
    (outside : char ∉ word) : piece <+: word → piece = word :=
  fun part => absurd (part.subset inside) outside

/-- A piece that is longer than a word is no part of it. -/
theorem eq_of_prefix_of_length_le {word piece : List Char} (long : word.length ≤ piece.length) :
    piece <+: word → piece = word :=
  fun part => part.eq_of_length (Nat.le_antisymm part.length_le long)

/-! ### Looking for a place -/

theorem eq_of_until? {stop : List Char → Bool} {text before rest : List Char}
    (read : until? stop text = some (before, rest)) : text = before ++ rest := by
  induction text generalizing before with
  | nil =>
    cases read
    rfl
  | cons char text ih =>
    unfold until? at read
    split at read
    · cases read
    split at read
    · cases read
      rfl
    · obtain ⟨⟨inner, behind⟩, found, told⟩ := Option.map_eq_some_iff.1 read
      cases told
      rw [ih found, List.cons_append]

/-- What is looked for is found, or the text has come to its end. -/
theorem stops_of_until? {stop : List Char → Bool} {text before rest : List Char}
    (read : until? stop text = some (before, rest)) : rest = [] ∨ stop rest := by
  induction text generalizing before with
  | nil =>
    cases read
    exact .inl rfl
  | cons char text ih =>
    unfold until? at read
    split at read
    · cases read
    split at read
    · next stops =>
      cases read
      exact .inr stops
    · obtain ⟨⟨inner, behind⟩, found, told⟩ := Option.map_eq_some_iff.1 read
      cases told
      exact ih found

/-- **The part of a text before a place**, if the place is looked for by what stands there. -/
theorem until?_again {stop : List Char → Bool} {text before rest rest' : List Char}
    (read : until? stop text = some (before, rest)) (head : rest'.head? = rest.head?)
    (same : ∀ part, part <:+ before → stop (part ++ rest') = stop (part ++ rest)) :
    until? stop (before ++ rest') = some (before, rest') := by
  induction text generalizing before with
  | nil =>
    cases read
    cases rest' with
    | nil => rfl
    | cons char rest' => cases head
  | cons char text ih =>
    unfold until? at read
    split at read
    · cases read
    · next admitted =>
      split at read
      · next stops =>
        cases read
        cases rest' with
        | nil => cases head
        | cons char' rest' =>
          obtain rfl := Option.some.inj head
          have stops' : stop (char' :: rest') := (same [] List.nil_suffix).trans stops
          rw [List.nil_append, until?, if_neg admitted, if_pos stops']
      · next goesOn =>
        obtain ⟨⟨inner, behind⟩, found, told⟩ := Option.map_eq_some_iff.1 read
        cases told
        have goesOn' : ¬ stop (char :: (inner ++ rest')) := by
          have alike : stop (char :: (inner ++ rest')) = stop (char :: (inner ++ rest)) :=
            same _ List.suffix_rfl
          rwa [alike, ← eq_of_until? found]
        rw [List.cons_append, until?, if_neg admitted, if_neg goesOn',
          ih found fun part among => same part (among.trans (List.suffix_cons _ _))]
        rfl

/-- A place that is looked for by one character. -/
theorem until?_head_again {stop : List Char → Bool} {text before rest : List Char}
    (read : until? stop text = some (before, rest))
    (heads : ∀ first second, first.head? = second.head? → stop first = stop second) :
    TakesBefore (until? stop) before before rest := by
  intro rest' head
  exact until?_again read head fun part _ => heads _ _ (head?_append_congr part head)

/-- A place that is looked for by a word. -/
theorem until?_word_again {word text before rest : List Char} (filled : word ≠ [])
    (read : until? (startsWith word) text = some (before, word ++ rest)) (rest' : List Char) :
    until? (startsWith word) (before ++ (word ++ rest')) = some (before, word ++ rest') := by
  refine until?_again read (head?_append_of_filled filled rest rest') fun part _ => ?_
  rw [← List.append_assoc, ← List.append_assoc]
  refine startsWith_append (eq_of_prefix_of_length_le ?_) _ _
  rw [List.length_append]
  exact Nat.le_add_left _ _

/-! ### Names -/

/-- A text that starts with a character of a name. -/
def StartsName (text : List Char) : Prop := ∃ char ∈ text.head?, isNameChar char

theorem StartsName.append {text : List Char} (starts : StartsName text) (rest : List Char) :
    StartsName (text ++ rest) := by
  obtain ⟨char, first, named⟩ := starts
  cases text with
  | nil => cases first
  | cons char' text => exact ⟨char, first, named⟩

theorem StartsName.exists_cons {text : List Char} (starts : StartsName text) :
    ∃ char behind, text = char :: behind ∧ isNameChar char := by
  obtain ⟨char, first, named⟩ := starts
  cases text with
  | nil => cases first
  | cons char' text =>
    cases first
    exact ⟨char, text, rfl, named⟩

theorem isNameChar_of_isNameStart {char : Char} (starts : isNameStart char) : isNameChar char := by
  unfold isNameStart at starts
  unfold isNameChar
  split at starts
  · next low =>
    rw [if_pos low]
    have alphanumeric : char.isAlpha → char.isAlphanum := fun letter => by
      rw [Char.isAlphanum, letter, Bool.true_or]
    simp only [Bool.or_eq_true] at starts ⊢
    tauto
  · next high =>
    rw [if_neg high, starts, Bool.true_or]

theorem name?_takes {text name rest : List Char} (read : name? text = some (name, rest)) :
    text = name ++ rest ∧ name ≠ [] ∧ TakesBefore name? name name rest := by
  unfold name? at read
  split at read
  · cases read
  · next first behind =>
    split at read
    · next starts =>
      obtain ⟨same, -, again⟩ := of_span (Option.some.inj read)
      have filled : name ≠ [] := by
        rintro rfl
        have run := Option.some.inj read
        rw [List.span_eq_takeWhile_dropWhile,
          List.takeWhile_cons_of_pos (isNameChar_of_isNameStart starts)] at run
        cases run
      refine ⟨same, filled, fun rest' head => ?_⟩
      cases name with
      | nil => exact absurd rfl filled
      | cons char name =>
        cases same
        rw [List.cons_append, name?, if_pos starts]
        exact congrArg some (again rest' head)
    · cases read

theorem qualifiedName?_takes {text rest : List Char} {name : QualifiedName}
    (read : qualifiedName? text = some (name, rest)) :
    ∃ piece, text = piece ++ rest ∧ StartsName piece ∧
      TakesBefore qualifiedName? piece name rest := by
  unfold qualifiedName? at read
  rcases run : text.span isNameChar with ⟨piece, behind⟩
  rw [run] at read
  obtain ⟨qualified, named, told⟩ := of_bind_some read
  cases told
  obtain ⟨same, all, again⟩ := of_span run
  refine ⟨piece, same, ?_, fun rest' head => ?_⟩
  · cases piece with
    | nil => cases named
    | cons char piece => exact ⟨char, rfl, all char List.mem_cons_self⟩
  · unfold qualifiedName?
    rw [again rest' head]
    dsimp only
    rw [named]
    rfl

/-! ### Comments, instructions and sections -/

theorem comment?_takes {text rest : List Char} {node : Node}
    (read : comment? text = some (node, rest)) :
    ∃ piece, text = piece ++ rest ∧ Takes comment? piece node := by
  obtain ⟨⟨value, behind⟩, found, checked⟩ := of_bind_some read
  obtain ⟨last, ends, told⟩ := of_bind_some checked
  obtain rfl := eq_of_behind? ends
  have again := until?_word_again (by decide) found
  split at told
  · cases told
  · next plain =>
    split at told
    · cases told
    · next simple =>
      cases told
      refine ⟨value ++ "-->".toList, ?_, fun rest' => ?_⟩
      · rw [eq_of_until? found, List.append_assoc]
      · rw [List.append_assoc]
        refine bind_eq_some (again rest') (bind_eq_some (behind?_append _ rest') ?_)
        rw [if_neg plain, if_neg simple]

theorem section?_takes {text rest : List Char} {node : Node}
    (read : section? text = some (node, rest)) :
    ∃ piece, text = piece ++ rest ∧ Takes section? piece node := by
  obtain ⟨⟨value, behind⟩, found, checked⟩ := of_bind_some read
  obtain ⟨last, ends, told⟩ := of_bind_some checked
  obtain rfl := eq_of_behind? ends
  cases told
  refine ⟨value ++ "]]>".toList, ?_, fun rest' => ?_⟩
  · rw [eq_of_until? found, List.append_assoc]
  · rw [List.append_assoc]
    exact bind_eq_some (until?_word_again (by decide) found rest')
      (bind_eq_some (behind?_append _ rest') rfl)

theorem instruction?_takes {text rest : List Char} {node : Node}
    (read : instruction? text = some (node, rest)) :
    ∃ piece, text = piece ++ rest ∧ Takes instruction? piece node := by
  unfold instruction? at read
  split at read
  · cases read
  · next undeclared =>
    obtain ⟨⟨target, between⟩, named, checked⟩ := of_bind_some read
    obtain ⟨⟨data, behind⟩, found, ended⟩ := of_bind_some checked
    obtain ⟨last, ends, told⟩ := of_bind_some ended
    obtain rfl := eq_of_behind? ends
    cases told
    obtain ⟨rfl, filled, again⟩ := name?_takes named
    obtain ⟨spaces, spaced, skip⟩ := exists_spaces between
    rw [eq_of_until? found] at spaced skip
    refine ⟨target ++ (spaces ++ (data ++ "?>".toList)), ?_, fun rest' => ?_⟩
    · rw [spaced]
      simp only [List.append_assoc]
    · have marked : '?' ∈ target ++ (spaces ++ (data ++ "?>".toList)) := by simp
      have same := startsWith_append (not_prefix_of_mem marked
        (show '?' ∉ "xml ".toList by decide)) rest rest'
      simp only [List.append_assoc] at same ⊢
      rw [spaced] at undeclared
      unfold instruction?
      rw [same, if_neg undeclared]
      have head : (data ++ ("?>".toList ++ rest')).head? = (data ++ ("?>".toList ++ rest)).head? :=
        head?_append_congr data rfl
      refine bind_eq_some (again _ ?_) ?_
      · rw [spaced]
        exact head?_append_congr spaces head
      · dsimp only
        rw [skip _ head]
        exact bind_eq_some (until?_word_again (by decide) found rest')
          (bind_eq_some (behind?_append _ rest') rfl)

/-! ### Texts -/

/-- A text goes up to the next tag. -/
theorem text?_takes {text rest : List Char} {node : Node} (read : text? text = some (node, rest)) :
    ∃ piece, text = piece ++ rest ∧ (rest = [] ∨ rest.head? = some '<') ∧
      TakesBefore text? piece node rest := by
  obtain ⟨⟨data, behind⟩, found, checked⟩ := of_bind_some read
  dsimp only at checked
  split at checked
  · cases checked
  · next plain =>
    obtain ⟨value, given, told⟩ := of_bind_some checked
    cases told
    refine ⟨data, eq_of_until? found, ?_, fun rest' head => ?_⟩
    · exact (stops_of_until? found).imp_right of_decide_eq_true
    · have again := until?_head_again found fun first second same => by simp only [same]
      refine bind_eq_some (again rest' head) ?_
      dsimp only
      rw [if_neg plain, given]
      rfl

/-! ### Attributes -/

theorem quotedData?_takes {text rest data : List Char}
    (read : quotedData? text = some (data, rest)) :
    ∃ piece, text = piece ++ rest ∧ piece ≠ [] ∧ Takes quotedData? piece data := by
  cases text with
  | nil => cases read
  | cons quote text =>
    unfold quotedData? at read
    dsimp only at read
    split at read
    · cases read
    · next quoted =>
      obtain ⟨⟨inner, between⟩, found, checked⟩ := of_bind_some read
      obtain ⟨behind, ends, told⟩ := of_bind_some checked
      obtain rfl := eq_of_behind? ends
      cases told
      have again := until?_head_again found fun first second same => by simp only [same]
      refine ⟨quote :: (inner ++ [quote]), ?_, List.cons_ne_nil _ _, fun rest' => ?_⟩
      · rw [eq_of_until? found]
        simp only [List.cons_append, List.append_assoc]
      · simp only [List.cons_append, List.append_assoc]
        unfold quotedData?
        dsimp only
        rw [if_neg quoted]
        refine bind_eq_some (again ([quote] ++ rest') rfl) ?_
        exact bind_eq_some (behind?_append [quote] rest') rfl

theorem attributeData?_takes {text rest data : List Char} {name : QualifiedName}
    (read : attributeData? text = some (name, data, rest)) :
    ∃ piece, text = piece ++ rest ∧ StartsName piece ∧
      ∀ rest', attributeData? (piece ++ rest') = some (name, data, rest') := by
  obtain ⟨⟨name', between⟩, named, checked⟩ := of_bind_some read
  obtain ⟨given, equals, quoted⟩ := of_bind_some checked
  obtain ⟨⟨data', behind⟩, found, told⟩ := of_bind_some quoted
  cases told
  obtain ⟨chars, rfl, starts, again⟩ := qualifiedName?_takes named
  obtain ⟨spaces, spaced, skip⟩ := exists_spaces between
  obtain ⟨spaces', spaced', skip'⟩ := exists_spaces given
  obtain ⟨value, valued, filled, takes⟩ := quotedData?_takes found
  rw [eq_of_behind? equals] at spaced skip
  rw [valued] at spaced' skip'
  refine ⟨chars ++ (spaces ++ (['='] ++ (spaces' ++ value))), ?_, ?_, fun rest' => ?_⟩
  · rw [spaced, spaced']
    simp only [List.append_assoc]
  · exact starts.append _
  · simp only [List.append_assoc]
    have headed : (['='] ++ (spaces' ++ (value ++ rest'))).head? = (['='] ++ given).head? := rfl
    refine bind_eq_some (again _ ?_) ?_
    · rw [spaced]
      exact head?_append_congr spaces headed
    · dsimp only
      rw [skip _ headed]
      refine bind_eq_some (behind?_append ['='] _) ?_
      rw [skip' _ (head?_append_of_filled filled rest rest')]
      exact bind_eq_some (takes rest') rfl

end Statechart.Xml
