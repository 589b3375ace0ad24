/-
**What stands before an element is a piece.**

In front of the outermost element of a document there may be the mark of its byte order, a
declaration, and comments and instructions. All of it is read alike whatever the element is.

* `Xml.Steps`: a step through a declaration, which sees no further than the end of the declaration.
* `Xml.behindDeclaration?_takes`: a declaration is a piece.
* `Xml.PassedOver`: a piece that is passed over in front of an element.
* `Xml.skipAround?_takes`: the comments and instructions before an element are passed over.
* `Xml.opening?_takes`: all that stands before the outermost element is a piece.
-/

import Statechart.Proofs.Xml.Pieces

namespace Statechart.Xml

/-! ### Declarations -/

/-- **A step through a declaration** takes a piece off a text, if the question mark at the end of
the declaration and the character behind it are yet to come. -/
def Steps (step : List Char → Option (List Char)) : Prop :=
  ∀ ⦃text piece rest : List Char⦄, '?' ∈ piece → 2 ≤ piece.length →
    step text = some (piece ++ rest) → ∃ front, text = front ++ (piece ++ rest) ∧
      ∀ rest', step (front ++ (piece ++ rest')) = some (piece ++ rest')

namespace Steps

variable {step next : List Char → Option (List Char)}

theorem bind (steps : Steps step) (further : Steps next) :
    Steps fun text => step text >>= next := by
  intro text piece rest marked long read
  obtain ⟨between, first, later⟩ := of_bind_some read
  obtain ⟨front, rfl, again⟩ := further marked long later
  rw [← List.append_assoc] at first
  obtain ⟨front', rfl, again'⟩ := steps (List.mem_append_right front marked)
    (by rw [List.length_append]; omega) first
  refine ⟨front' ++ front, by simp only [List.append_assoc], fun rest' => ?_⟩
  have taken := again' rest'
  simp only [List.append_assoc] at taken ⊢
  exact bind_eq_some taken (again rest')

/-- Which word comes first in what is left is seen before the declaration ends. -/
theorem startsWith_again {word front piece : List Char} (marked : '?' ∈ piece)
    (plain : '?' ∉ word) (rest rest' : List Char) :
    startsWith word (front ++ (piece ++ rest')) = startsWith word (front ++ (piece ++ rest)) := by
  rw [← List.append_assoc, ← List.append_assoc]
  exact startsWith_append (not_prefix_of_mem (List.mem_append_right front marked) plain) _ _

theorem stay : Steps some := by
  intro text piece rest marked long read
  exact ⟨[], Option.some.inj read, fun rest' => rfl⟩

theorem fail : Steps fun _ => none := by
  intro text piece rest marked long read
  cases read

theorem choose (steps : Steps step) (otherwise : Steps next) {word : List Char}
    (plain : '?' ∉ word) :
    Steps fun text => if startsWith word text then step text else next text := by
  intro text piece rest marked long read
  dsimp only at read
  split at read
  · next starts =>
    obtain ⟨front, rfl, again⟩ := steps marked long read
    refine ⟨front, rfl, fun rest' => ?_⟩
    exact (if_pos ((startsWith_again marked plain rest rest').trans starts)).trans (again rest')
  · next apart =>
    obtain ⟨front, rfl, again⟩ := otherwise marked long read
    refine ⟨front, rfl, fun rest' => (if_neg fun starts => apart ?_).trans (again rest')⟩
    exact (startsWith_again marked plain rest rest').symm.trans starts

theorem part : Steps behindPart? := by
  intro text piece rest marked long read
  obtain ⟨first, second, piece, rfl⟩ :
      ∃ first second others, piece = first :: second :: others := by
    match piece, long with
    | first :: second :: others, _ => exact ⟨first, second, others, rfl⟩
  unfold behindPart? at read
  split at read
  · next spaced =>
    obtain ⟨spaces, same, skip⟩ := exists_spaces text
    rw [Option.some.inj read] at same skip
    refine ⟨spaces, same, fun rest' => ?_⟩
    have head : (spaces ++ (first :: second :: piece ++ rest')).head? =
      (spaces ++ (first :: second :: piece ++ rest)).head? := head?_append_congr spaces rfl
    rw [same, ← head] at spaced
    unfold behindPart?
    rw [if_pos spaced, skip (first :: second :: piece ++ rest') rfl]
  · next unspaced =>
    split at read
    · next ends =>
      obtain rfl := Option.some.inj read
      refine ⟨[], rfl, fun rest' => ?_⟩
      have marks : startsWith "?>".toList (first :: second :: (piece ++ rest')) =
          startsWith "?>".toList (first :: second :: (piece ++ rest)) :=
        @startsWith_append _ [first, second] (eq_of_prefix_of_length_le (by simp)) _ _
      unfold behindPart?
      exact (if_neg unspaced).trans (if_pos (marks.trans ends))
    · cases read

end Steps

/-- A text behind an attribute of its declaration. -/
def behindAttribute? (text : List Char) : Option (List Char) := do
  let (_, _, rest) ← attributeData? text
  return rest

theorem Steps.behindOne : Steps behindAttribute? := by
  intro text piece rest marked long read
  obtain ⟨⟨name, data, behind⟩, given, told⟩ := of_bind_some read
  cases told
  obtain ⟨front, same, -, again⟩ := attributeData?_takes given
  exact ⟨front, same, fun rest' => bind_eq_some (again _) rfl⟩

/-- A text behind all that its declaration says. -/
def throughDeclaration? (text : List Char) : Option (List Char) :=
  behindPart? text >>=
    (fun text => if startsWith "version".toList text then behindAttribute? text else none) >>=
    behindPart? >>=
    (fun text => if startsWith "encoding".toList text then behindAttribute? text >>= behindPart?
      else some text) >>=
    fun text => if startsWith "standalone".toList text then behindAttribute? text else some text

theorem Steps.declaration : Steps throughDeclaration? :=
  (((part.bind (behindOne.choose fail (by decide))).bind part).bind
    ((behindOne.bind part).choose stay (by decide))).bind (behindOne.choose stay (by decide))

theorem behindDeclaration?_eq (text : List Char) : behindDeclaration? text =
    throughDeclaration? text >>= fun text => behind? "?>".toList (skipSpaces text) := by
  unfold behindDeclaration? throughDeclaration? behindAttribute?
  simp only [bind_assoc]
  refine bind_congr fun text => ?_
  cases startsWith "version".toList text with
  | false => rfl
  | true =>
    simp only [Bool.not_true, Bool.false_eq_true, if_false, if_true, bind_assoc, pure_bind]
    refine bind_congr fun ⟨_, _, text⟩ => bind_congr fun text => ?_
    have alone (text : List Char) : (if startsWith "standalone".toList text then do
          let (_, _, text) ← attributeData? text
          behind? "?>".toList (skipSpaces text)
        else behind? "?>".toList (skipSpaces text)) =
      (if startsWith "standalone".toList text then do
          let (_, _, text) ← attributeData? text
          return text
        else some text) >>= fun text => behind? "?>".toList (skipSpaces text) := by
      split
      · simp only [bind_assoc, pure_bind]
      · rfl
    split
    · simp only [bind_assoc]
      exact bind_congr fun ⟨_, _, text⟩ => bind_congr alone
    · exact alone text

/-- **A declaration is a piece.** -/
theorem behindDeclaration?_takes {text rest : List Char}
    (read : behindDeclaration? text = some rest) :
    ∃ piece, text = piece ++ rest ∧ ∀ rest', behindDeclaration? (piece ++ rest') = some rest' := by
  rw [behindDeclaration?_eq] at read
  obtain ⟨between, told, ends⟩ := of_bind_some read
  obtain ⟨spaces, spaced, skip⟩ := exists_spaces between
  rw [eq_of_behind? ends] at spaced skip
  rw [spaced, ← List.append_assoc] at told
  obtain ⟨front, rfl, again⟩ := Steps.declaration (by simp) (by simp) told
  refine ⟨front ++ (spaces ++ "?>".toList), by simp only [List.append_assoc], fun rest' => ?_⟩
  rw [behindDeclaration?_eq, List.append_assoc]
  refine bind_eq_some (again rest') ?_
  rw [List.append_assoc, skip ("?>".toList ++ rest') rfl]
  exact behind?_append _ rest'

/-! ### What stands before the outermost element -/

/-- Spaces in front of a text are passed over. -/
theorem skipAround?_congr {fuel : Nat} {text text' : List Char}
    (same : skipSpaces text' = skipSpaces text) :
    skipAround? (fuel + 1) text' = skipAround? (fuel + 1) text := by
  unfold skipAround?
  rw [same]

/-- Nothing is passed over where an element starts. -/
theorem skipAround?_element (fuel : Nat) {text : List Char} (starts : StartsName text) :
    skipAround? fuel ('<' :: text) = some ('<' :: text) := by
  obtain ⟨char, behind, rfl, named⟩ := starts.exists_cons
  cases fuel with
  | zero => rfl
  | succ fuel =>
    unfold skipAround?
    have skipped : skipSpaces ('<' :: char :: behind) = '<' :: char :: behind := rfl
    rw [skipped]
    split
    · next same =>
      cases same
      exact absurd named (by decide)
    · next same =>
      cases same
      exact absurd named (by decide)
    · rfl

theorem StartsName.of_head? {text text' : List Char} (starts : StartsName text)
    (head : text'.head? = text.head?) : StartsName text' := by
  unfold StartsName
  rwa [head]

/-- A piece that is passed over in front of an element, if there is fuel for each character. -/
def PassedOver (piece rest : List Char) : Prop :=
  ∀ fuel, piece.length ≤ fuel → ∀ rest', rest'.head? = rest.head? →
    skipAround? fuel (piece ++ '<' :: rest') = some ('<' :: rest')

/-- Spaces are passed over. -/
theorem exists_passedOver_of_spaces {text rest : List Char} (starts : StartsName rest)
    (skipped : skipSpaces text = '<' :: rest) :
    ∃ piece, text = piece ++ '<' :: rest ∧ PassedOver piece rest := by
  obtain ⟨spaces, spaced, skip⟩ := exists_spaces text
  rw [skipped] at spaced skip
  refine ⟨spaces, spaced, fun fuel enough rest' head => ?_⟩
  cases fuel with
  | zero =>
    obtain rfl := List.eq_nil_of_length_eq_zero (Nat.le_zero.1 enough)
    rfl
  | succ fuel =>
    have skipped' : skipSpaces (spaces ++ '<' :: rest') = skipSpaces ('<' :: rest') := skip _ rfl
    rw [skipAround?_congr skipped', skipAround?_element _ (starts.of_head? head)]

/-- What is marked and taken is passed over, with what is passed over behind it. -/
theorem exists_passedOver_of_marked {reader : List Char → Option (Node × List Char)}
    {text mark behind between rest : List Char} {node : Node} (filled : mark ≠ [])
    (marked : skipSpaces text = mark ++ behind)
    (taken : ∃ piece, behind = piece ++ between ∧ Takes reader piece node)
    (later : ∃ piece, between = piece ++ '<' :: rest ∧ PassedOver piece rest)
    (answers : ∀ (fuel : Nat) (text rest' : List Char), skipSpaces text = mark ++ rest' →
      skipAround? (fuel + 1) text = reader rest' >>= fun item => skipAround? fuel item.2) :
    ∃ piece, text = piece ++ '<' :: rest ∧ PassedOver piece rest := by
  obtain ⟨spaces, spaced, skip⟩ := exists_spaces text
  obtain ⟨item, rfl, takes⟩ := taken
  obtain ⟨piece, rfl, again⟩ := later
  rw [marked] at spaced skip
  refine ⟨spaces ++ (mark ++ (item ++ piece)), ?_, fun fuel enough rest' head => ?_⟩
  · rw [spaced]
    simp only [List.append_assoc]
  · have := List.length_pos_iff.2 filled
    simp only [List.length_append] at enough
    obtain ⟨fuel, rfl⟩ : ∃ less, fuel = less + 1 := ⟨fuel - 1, by omega⟩
    simp only [List.append_assoc]
    rw [answers _ _ _ (skip _ (head?_append_of_filled filled _ _))]
    exact bind_eq_some (takes _) (again fuel (by omega) rest' head)

/-- **What stands before an element is a piece**, and is passed over. -/
theorem skipAround?_takes {fuel : Nat} {text rest : List Char}
    (read : skipAround? fuel text = some ('<' :: rest)) (starts : StartsName rest) :
    ∃ piece, text = piece ++ '<' :: rest ∧ PassedOver piece rest := by
  induction fuel generalizing text with
  | zero =>
    obtain rfl := Option.some.inj read
    exact ⟨[], rfl, fun fuel _ rest' head => skipAround?_element fuel (starts.of_head? head)⟩
  | succ fuel ih =>
    unfold skipAround? at read
    split at read
    · next behind marked =>
      obtain ⟨⟨node, between⟩, first, later⟩ := of_bind_some read
      refine exists_passedOver_of_marked (by decide : "<!--".toList ≠ []) marked
        (comment?_takes first) (ih later) fun fuel text rest' skipped => ?_
      rw [skipAround?, skipped]
      rfl
    · next behind marked =>
      obtain ⟨⟨node, between⟩, first, later⟩ := of_bind_some read
      refine exists_passedOver_of_marked (by decide : "<?".toList ≠ []) marked
        (instruction?_takes first) (ih later) fun fuel text rest' skipped => ?_
      rw [skipAround?, skipped]
      rfl
    · exact exists_passedOver_of_spaces starts (Option.some.inj read)

/-- The rest of a text behind the `<` of its outermost element, after a declaration. -/
def behindAround? (text : List Char) : Option (List Char) := do
  let text ← skipAround? text.length text
  behind? ['<'] text

theorem behindAround?_takes {text rest : List Char} (read : behindAround? text = some rest)
    (starts : StartsName rest) :
    ∃ piece, text = piece ++ '<' :: rest ∧ ∀ rest', rest'.head? = rest.head? →
      behindAround? (piece ++ '<' :: rest') = some rest' := by
  obtain ⟨around, passed, opened⟩ := of_bind_some read
  obtain rfl := eq_of_behind? opened
  obtain ⟨piece, same, again⟩ := skipAround?_takes passed starts
  refine ⟨piece, same, fun rest' head => ?_⟩
  refine bind_eq_some (again _ ?_ rest' head) (behind?_append ['<'] rest')
  rw [List.length_append]
  exact Nat.le_add_right _ _

/-- The rest of a text behind the `<` of its outermost element, after the mark of its byte order. -/
def behindProlog? (text : List Char) : Option (List Char) := do
  let text ← if startsWith "<?xml ".toList text then behindDeclaration? (text.drop 5) else some text
  behindAround? text

/-- The rest of a text behind the `<` of its outermost element. -/
def opening? (text : List Char) : Option (List Char) := behindProlog? (behindByteOrderMark text)

/-- An element is no declaration. -/
theorem not_prefix_of_element (piece : List Char) {char : Char} (other : char ≠ '?') :
    ¬ piece ++ ['<', char] <+: "<?xml ".toList := by
  rintro ⟨rest, same⟩
  cases piece with
  | nil => exact other (List.cons.inj (List.cons.inj same).2).1
  | cons first piece =>
    have inside : '<' ∈ "?xml ".toList := by
      rw [show "?xml ".toList = piece ++ ['<', char] ++ rest from (List.cons.inj same).2.symm]
      simp
    exact absurd inside (by decide)

theorem behindProlog?_takes {text rest : List Char} (read : behindProlog? text = some rest)
    (starts : StartsName rest) :
    ∃ piece, text = piece ++ rest ∧ piece ≠ [] ∧ ∀ rest', rest'.head? = rest.head? →
      behindProlog? (piece ++ rest') = some rest' := by
  unfold behindProlog? at read
  split at read
  · next word =>
    obtain ⟨declared, first, passed⟩ := of_bind_some read
    obtain ⟨piece, rfl, again⟩ := behindAround?_takes passed starts
    obtain ⟨said, rfl⟩ := startsWith_iff.1 word
    obtain ⟨declaration, same, taken⟩ := behindDeclaration?_takes first
    have parts (rest' : List Char) :
        ("<?xml".toList ++ (declaration ++ (piece ++ ['<']))) ++ rest' =
          "<?xml".toList ++ (declaration ++ (piece ++ '<' :: rest')) := by
      simp only [List.append_assoc, List.singleton_append]
    have whole : "<?xml ".toList ++ said =
        ("<?xml".toList ++ (declaration ++ (piece ++ ['<']))) ++ rest := by
      rw [parts, ← same]
      rfl
    refine ⟨_, whole, by simp, fun rest' head => ?_⟩
    rw [whole] at word
    have word' :=
      (startsWith_append (eq_of_prefix_of_length_le (by simp; omega)) rest rest').trans word
    unfold behindProlog?
    rw [if_pos word', parts]
    exact bind_eq_some (taken _) (again rest' head)
  · next plain =>
    obtain ⟨piece, rfl, again⟩ := behindAround?_takes read starts
    refine ⟨piece ++ ['<'], by simp, by simp, fun rest' head => ?_⟩
    obtain ⟨char, rest, rfl, named⟩ := starts.exists_cons
    obtain ⟨rest', rfl⟩ : ∃ behind, rest' = char :: behind := by
      cases rest' with
      | nil => cases head
      | cons char' rest' => exact ⟨rest', by rw [Option.some.inj head]⟩
    have other : char ≠ '?' := by
      rintro rfl
      exact absurd named (by decide)
    have parts (rest' : List Char) :
        piece ++ '<' :: char :: rest' = (piece ++ ['<', char]) ++ rest' := by
      simp
    have plain' : ¬ startsWith "<?xml ".toList (piece ++ '<' :: char :: rest') := by
      rw [parts] at plain ⊢
      rwa [startsWith_append (fun part => absurd part (not_prefix_of_element piece other)) rest]
    rw [List.append_assoc, List.singleton_append]
    unfold behindProlog?
    rw [if_neg plain']
    exact again _ head

/-- **What stands before the outermost element is a piece.** -/
theorem opening?_takes {text rest : List Char} (read : opening? text = some rest)
    (starts : StartsName rest) :
    ∃ piece, text = piece ++ rest ∧ ∀ rest', rest'.head? = rest.head? →
      opening? (piece ++ rest') = some rest' := by
  obtain ⟨piece, same, filled, again⟩ := behindProlog?_takes read starts
  cases text with
  | nil => exact absurd (List.append_eq_nil_iff.1 same.symm).1 filled
  | cons first text =>
    unfold behindByteOrderMark at same
    dsimp only at same
    split at same
    · next mark =>
      refine ⟨first :: piece, by rw [same, List.cons_append], fun rest' head => ?_⟩
      unfold opening? behindByteOrderMark
      exact (congrArg behindProlog? (if_pos mark)).trans (again rest' head)
    · next plain =>
      cases piece with
      | nil => exact absurd rfl filled
      | cons first' piece =>
        cases same
        refine ⟨first :: piece, rfl, fun rest' head => ?_⟩
        unfold opening? behindByteOrderMark
        exact (congrArg behindProlog? (if_neg plain)).trans (again rest' head)

end Statechart.Xml
