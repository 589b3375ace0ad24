/-
**A text may be parted.**

A text in which characters are referred to may be parted between two of its characters: if the first
part can be read, so can the second.

* `Xml.reference?_takes`: a reference is a piece.
* `Xml.marks?_of_append`: the characters behind a part of some data.
* `Xml.isSome_textOf?_of_append`: what stands behind a part of a text is a text.
-/

import Statechart.Proofs.Xml.Pieces

namespace Statechart.Xml

/-! ### References -/

theorem referredStart?_takes {text rest : List Char} {char : Char}
    (read : referredStart? text = some (char, ';' :: rest)) :
    ∃ piece, text = piece ++ ';' :: rest ∧
      ∀ rest', referredStart? (piece ++ ';' :: rest') = some (char, ';' :: rest') := by
  unfold referredStart? at read
  split at read
  · next text =>
    rcases run : text.span fun digit => (Text.hexValue? digit).isSome with ⟨digits, behind⟩
    rw [run] at read
    obtain ⟨number, counted, read⟩ := of_bind_some read
    obtain ⟨char', known, told⟩ := of_bind_some read
    cases told
    obtain ⟨rfl, -, again⟩ := of_span run
    refine ⟨'#' :: 'x' :: digits, rfl, fun rest' => ?_⟩
    rw [List.cons_append, List.cons_append, referredStart?, again (';' :: rest') rfl]
    exact bind_eq_some counted (bind_eq_some known rfl)
  · next text decimal =>
    rcases run : text.span Char.isDigit with ⟨digits, behind⟩
    rw [run] at read
    obtain ⟨number, counted, read⟩ := of_bind_some read
    obtain ⟨char', known, told⟩ := of_bind_some read
    cases told
    obtain ⟨rfl, -, again⟩ := of_span run
    refine ⟨'#' :: digits, rfl, fun rest' => ?_⟩
    rw [List.cons_append, referredStart?, again (';' :: rest') rfl]
    · exact bind_eq_some counted (bind_eq_some known rfl)
    · intro text same
      cases digits with
      | nil => cases same
      | cons digit digits =>
        cases same
        exact decimal _ rfl
  · next hexadecimal decimal =>
    obtain ⟨⟨name, behind⟩, named, read⟩ := of_bind_some read
    obtain ⟨char', known, told⟩ := of_bind_some read
    cases told
    obtain ⟨rfl, filled, again⟩ := name?_takes named
    cases name with
    | nil => exact absurd rfl filled
    | cons first name =>
      refine ⟨first :: name, rfl, fun rest' => ?_⟩
      rw [referredStart?]
      · exact bind_eq_some (again (';' :: rest') rfl) (bind_eq_some known rfl)
      all_goals
        intro text same
        obtain ⟨rfl, -⟩ := List.cons.inj same
        exact decimal _ rfl

/-- **A reference is a piece.** -/
theorem reference?_takes {text rest : List Char} {char : Char}
    (read : reference? text = some (char, rest)) :
    ∃ piece, text = piece ++ rest ∧ Takes reference? piece char := by
  obtain ⟨⟨char', between⟩, started, ends⟩ := of_bind_some read
  dsimp only at ends
  split at ends
  · cases ends
    obtain ⟨piece, same, again⟩ := referredStart?_takes started
    refine ⟨piece ++ [';'], by rw [same, List.append_assoc, List.singleton_append], fun rest' => ?_⟩
    rw [List.append_assoc]
    exact bind_eq_some (again rest') rfl
  · cases ends

/-! ### Data -/

/-- The character at the front of some data. -/
def mark? : List Char → Option (Mark × List Char)
  | [] => none
  | '&' :: rest => do
    let (char, rest) ← reference? rest
    return (.referred char, rest)
  | char :: rest => some (.written char, rest)

theorem mark?_takes {text rest : List Char} {mark : Mark} (read : mark? text = some (mark, rest)) :
    ∃ piece, text = piece ++ rest ∧ piece ≠ [] ∧ Takes mark? piece mark := by
  unfold mark? at read
  split at read
  · cases read
  · obtain ⟨⟨char, behind⟩, referred, told⟩ := of_bind_some read
    cases told
    obtain ⟨piece, rfl, takes⟩ := reference?_takes referred
    exact ⟨'&' :: piece, rfl, List.cons_ne_nil _ _, fun rest' => bind_eq_some (takes rest') rfl⟩
  · next char behind plain =>
    cases read
    refine ⟨[char], rfl, List.cons_ne_nil _ _, fun rest' => ?_⟩
    rw [List.singleton_append, mark?]
    rintro rfl
    exact plain rfl

/-- Data is a character and more data. -/
theorem marks?_cons (fuel : Nat) (char : Char) (text : List Char) :
    marks? (fuel + 1) (char :: text) = do
      let (mark, rest) ← mark? (char :: text)
      let others ← marks? fuel rest
      return mark :: others := by
  unfold mark?
  split
  · next same => cases same
  · next same =>
    cases same
    rw [marks?]
    simp only [bind_assoc, pure_bind]
  · next plain same =>
    cases same
    rw [marks?]
    · rfl
    · rintro rfl
      exact plain rfl

/-- Data that is read has a character at its front. -/
theorem of_marks?_cons {fuel : Nat} {char : Char} {text : List Char} {marks : List Mark}
    (read : marks? fuel (char :: text) = some marks) :
    ∃ less piece mark rest others, fuel = less + 1 ∧ char :: text = piece ++ rest ∧ piece ≠ [] ∧
      Takes mark? piece mark ∧ marks? less rest = some others ∧ marks = mark :: others := by
  cases fuel with
  | zero => cases read
  | succ less =>
    rw [marks?_cons] at read
    obtain ⟨⟨mark, rest⟩, first, read⟩ := of_bind_some read
    obtain ⟨others, later, told⟩ := of_bind_some read
    cases told
    obtain ⟨piece, same, filled, takes⟩ := mark?_takes first
    exact ⟨less, piece, mark, rest, others, rfl, same, filled, takes, later, rfl⟩

/-- Fuel for each character is enough. -/
theorem marks?_of_length_le {fuel fuel' : Nat} {data : List Char} {marks : List Mark}
    (read : marks? fuel data = some marks) (enough : data.length ≤ fuel') :
    marks? fuel' data = some marks := by
  induction fuel generalizing data fuel' marks with
  | zero =>
    cases data with
    | nil => cases fuel' <;> exact read
    | cons char data => cases read
  | succ fuel ih =>
    cases data with
    | nil => cases fuel' <;> exact read
    | cons char data =>
      obtain ⟨less, piece, mark, rest, others, same, split, filled, takes, later, rfl⟩ :=
        of_marks?_cons read
      cases same
      cases fuel' with
      | zero => cases enough
      | succ fuel' =>
        have shorter : rest.length ≤ fuel' := by
          have lengths := congrArg List.length split
          have := List.length_pos_iff.2 filled
          simp only [List.length_append, List.length_cons] at lengths enough
          omega
        rw [marks?_cons, split]
        exact bind_eq_some (takes rest) (bind_eq_some (ih later shorter) rfl)

/-- **What stands behind a part of some data is data.** -/
theorem marks?_of_append {fuel fuel' : Nat} {data behind : List Char} {first all : List Mark}
    (part : marks? fuel data = some first) (whole : marks? fuel' (data ++ behind) = some all) :
    ∃ fuel'' marks, marks? fuel'' behind = some marks := by
  induction fuel generalizing data fuel' first all with
  | zero =>
    cases data with
    | nil => exact ⟨fuel', all, whole⟩
    | cons char data => cases part
  | succ fuel ih =>
    cases data with
    | nil => exact ⟨fuel', all, whole⟩
    | cons char data =>
      obtain ⟨less, piece, mark, rest, others, same, split, -, takes, later, rfl⟩ :=
        of_marks?_cons part
      cases same
      cases fuel' with
      | zero => cases whole
      | succ fuel' =>
        rw [List.cons_append, marks?_cons, ← List.cons_append, split, List.append_assoc,
          takes (rest ++ behind)] at whole
        obtain ⟨_, same, whole⟩ := of_bind_some whole
        cases same
        obtain ⟨others', further, -⟩ := of_bind_some whole
        exact ih later further

theorem isSome_textOf?_of_append {data behind : List Char} (part : (textOf? data).isSome)
    (whole : (textOf? (data ++ behind)).isSome) : (textOf? behind).isSome := by
  unfold textOf? at part whole ⊢
  rw [Option.isSome_map] at part whole ⊢
  obtain ⟨first, part⟩ := Option.isSome_iff_exists.1 part
  obtain ⟨all, whole⟩ := Option.isSome_iff_exists.1 whole
  obtain ⟨fuel, marks, read⟩ := marks?_of_append part whole
  rw [marks?_of_length_le read (Nat.le_refl _)]
  rfl

end Statechart.Xml
