/-
**Reading values back.**

A value spells a tree if its written form is read as that tree, whatever parts it from what follows.
Every value spells a tree. It has the same shape, so that a number may come back as another one but
hides nothing of what is around it.

* `Spells`: the written form of a value is read as a tree.
* `spells_list`, `spells_record`: lists and records spell what their items and fields do.
* `members?_field`: fields that spell trees are read one by one, whatever the rest of a record is.
* `ofSymbols?_render`: a text that is written of a value is read as the tree that the value spells.
-/

import Statechart.Proofs.Json.Quoted
import Statechart.Proofs.Json.Pointed

namespace Statechart.Json

open Text Decimal

/-! ### Blanks -/

theorem skipBlanks_skipBlanks (text : List Symbol) :
    skipBlanks (skipBlanks text) = skipBlanks text := by
  unfold skipBlanks
  induction text with
  | nil => rfl
  | cons symbol text ih =>
    by_cases blank : isBlank symbol
    · rw [List.dropWhile_cons_of_pos blank, ih]
    · rw [List.dropWhile_cons_of_neg blank, List.dropWhile_cons_of_neg blank]

theorem skipBlanks_bracket (text : List Symbol) :
    skipBlanks (.char '[' :: text) = .char '[' :: text := rfl

theorem skipBlanks_brace (text : List Symbol) :
    skipBlanks (.char '{' :: text) = .char '{' :: text := rfl

theorem skipBlanks_quote (text : List Symbol) :
    skipBlanks (.char '"' :: text) = .char '"' :: text := rfl

theorem skipBlanks_comma (text : List Symbol) :
    skipBlanks (.char ',' :: text) = .char ',' :: text := rfl

theorem skipBlanks_colon (text : List Symbol) :
    skipBlanks (.char ':' :: text) = .char ':' :: text := rfl

theorem skipBlanks_minus (text : List Symbol) :
    skipBlanks (.char '-' :: text) = .char '-' :: text := rfl

namespace Tree

theorem value?_skipBlanks (fuel : Nat) (text : List Symbol) :
    value? fuel (skipBlanks text) = value? fuel text := by
  cases fuel with
  | zero => rfl
  | succ fuel =>
    unfold value?
    rw [skipBlanks_skipBlanks]

theorem items?_skipBlanks (fuel : Nat) (text : List Symbol) :
    items? fuel (skipBlanks text) = items? fuel text := by
  cases fuel with
  | zero => rfl
  | succ fuel =>
    unfold items?
    rw [value?_skipBlanks]

theorem members?_skipBlanks (fuel : Nat) (text : List Symbol) :
    members? fuel (skipBlanks text) = members? fuel text := by
  cases fuel with
  | zero => rfl
  | succ fuel =>
    unfold members?
    rw [skipBlanks_skipBlanks]

/-- No item starts with a closing bracket. -/
theorem items?_close (fuel : Nat) (rest : List Symbol) :
    items? fuel (.char ']' :: rest) = none := by
  cases fuel with
  | zero => rfl
  | succ fuel => cases fuel <;> rfl

/-- Items behind a bracket make a list. -/
theorem value?_list {fuel : Nat} {text rest : List Symbol} {items : List Tree}
    (read : items? fuel text = some (items, rest)) :
    value? (fuel + 1) (.char '[' :: text) = some (.list items, rest) := by
  rw [← items?_skipBlanks] at read
  rw [value?, skipBlanks_bracket]
  simp only
  split
  · next closed => rw [closed, items?_close] at read; cases read
  · rw [read, Option.map_some]

/-- What is behind a brace that does not close at once are members. -/
theorem value?_record {fuel : Nat} {text : List Symbol}
    (opened : ∀ rest, skipBlanks text ≠ .char '}' :: rest) :
    value? (fuel + 1) (.char '{' :: text) =
      (members? fuel text).map fun found => (.record found.1, found.2) := by
  rw [← members?_skipBlanks, value?, skipBlanks_brace]
  simp only

end Tree

/-! ### Spelling -/

/-- The written form of a value is read as a tree, whatever parts it from what follows. -/
def Spells (value : Value) (tree : Tree) : Prop :=
  ∀ (fuel : Nat) (rest : List Symbol), (value.chars escape).length ≤ fuel → Parted rest →
    Tree.value? fuel (characters (value.chars escape) ++ rest) = some (tree, rest)

/-- Fuel for some text is fuel for one more step. -/
theorem exists_succ {least fuel : Nat} (enough : least + 1 ≤ fuel) :
    ∃ less, fuel = less + 1 ∧ least ≤ less := by
  refine ⟨fuel - 1, ?_, ?_⟩ <;> omega

theorem spells_null : Spells .null .null := by
  intro fuel rest enough _
  obtain ⟨fuel, rfl, _⟩ := exists_succ enough
  rfl

theorem spells_bool (value : Bool) : Spells (.bool value) (.bool value) := by
  intro fuel rest enough _
  cases value with
  | false =>
    obtain ⟨fuel, rfl, _⟩ := exists_succ enough
    rfl
  | true =>
    obtain ⟨fuel, rfl, _⟩ := exists_succ enough
    rfl

theorem spells_string (text : String) : Spells (.string text) (.string (pieces text)) := by
  intro fuel rest enough _
  obtain ⟨fuel, rfl, _⟩ := exists_succ enough
  have split : characters ((Value.string text).chars escape) ++ rest =
      .char '"' :: (characters (text.toList.flatMap escape ++ ['"']) ++ rest) := rfl
  rw [split, Tree.value?, skipBlanks_quote]
  simp only
  rw [quoted?_quote]
  rfl

/-- A text that starts with a digit is a number. -/
theorem value?_digit {char : Char} (digit : char.isDigit) (fuel : Nat) (text : List Symbol) :
    Tree.value? (fuel + 1) (.char char :: text) =
      (literal? false (.char char :: text)).map fun found => (.number found.1, found.2) := by
  have shown : skipBlanks (.char char :: text) = .char char :: text := by
    refine List.dropWhile_cons_of_neg fun blank => ?_
    simp only [isBlank, decide_eq_true_eq] at blank
    rcases blank with rfl | rfl | rfl | rfl <;> cases digit
  unfold Tree.value?
  rw [shown]
  split <;> first | (next same => cases (List.cons.inj same).1; cases digit) | skip
  rfl

theorem literalOf_ofNat (number : Nat) :
    literalOf (.ofNat number) = ⟨false, decimal number, [], none⟩ := by
  unfold literalOf
  rw [decide_eq_false (Int.not_lt.2 (Int.natCast_nonneg number) : ¬ Int.ofNat number < 0)]
  rfl

theorem literalOf_negSucc (number : Nat) :
    literalOf (.negSucc number) = ⟨true, decimal (number + 1), [], none⟩ := by
  unfold literalOf
  rw [decide_eq_true (Int.negSucc_lt_zero number)]
  rfl

theorem spells_integer (number : Int) : Spells (.integer number) (.number (literalOf number)) := by
  intro fuel rest enough parted
  cases number with
  | ofNat number =>
    have written : (Value.integer (Int.ofNat number)).chars escape = Nat.toDigits 10 number :=
      Nat.toList_repr
    have read := literal?_decimal false number parted
    rw [written] at enough ⊢
    cases digits : Nat.toDigits 10 number with
    | nil => exact absurd digits Nat.toDigits_ne_nil
    | cons char chars =>
      rw [digits] at enough read
      obtain ⟨fuel, rfl, _⟩ := exists_succ enough
      have digit : char.isDigit := by
        refine Nat.isDigit_of_mem_toDigits (b := 10) (n := number) (by decide) (by decide) ?_
        rw [digits]
        exact List.mem_cons_self
      refine (value?_digit digit fuel _).trans ?_
      change literal? false (.char char :: _) = _ at read
      rw [literalOf_ofNat]
      exact congrArg _ read
  | negSucc number =>
    have written : (Value.integer (Int.negSucc number)).chars escape =
        '-' :: Nat.toDigits 10 (number + 1) := by
      show (toString (Int.negSucc number)).toList = _
      rw [show toString (Int.negSucc number) = "-" ++ (number + 1).repr from rfl,
        String.toList_append, Nat.toList_repr]
      rfl
    rw [written] at enough ⊢
    obtain ⟨fuel, rfl, _⟩ := exists_succ enough
    have split : characters ('-' :: Nat.toDigits 10 (number + 1)) ++ rest =
        .char '-' :: (characters (Nat.toDigits 10 (number + 1)) ++ rest) := rfl
    rw [split, Tree.value?, skipBlanks_minus]
    simp only
    rw [literal?_decimal true (number + 1) parted, literalOf_negSucc]
    rfl

theorem spells_float (number : Binary64) :
    Spells (.number (.float number)) (.number (pointedLiteral number)) := by
  intro fuel rest enough parted
  have written : (Value.number (.float number)).chars escape =
      (signed number.isNegative (magnitudeText number)).toList :=
    congrArg String.toList (numberText_eq number)
  have read := literal?_magnitudeText number parted
  rw [written] at enough ⊢
  cases negative : number.isNegative with
  | false =>
    rw [negative] at enough read
    rw [signed, if_neg Bool.false_ne_true] at enough ⊢
    obtain ⟨_, _, _, pointed, -⟩ := pointed_magnitudeText number
    obtain ⟨first, later, same, digit⟩ := pointed.digit
    rw [same] at enough read ⊢
    obtain ⟨fuel, rfl, _⟩ := exists_succ enough
    refine (value?_digit digit fuel _).trans ?_
    exact (congrArg _ read).trans rfl
  | true =>
    rw [negative] at enough read
    rw [signed, if_pos rfl, String.toList_append] at enough ⊢
    obtain ⟨fuel, rfl, _⟩ := exists_succ enough
    have split : characters ("-".toList ++ (magnitudeText number).toList) ++ rest =
        .char '-' :: (characters (magnitudeText number).toList ++ rest) := rfl
    rw [split, Tree.value?, skipBlanks_minus]
    simp only
    rw [read]
    rfl

/-! ### Lists -/

theorem charsItems_cons_cons (item next : Value) (items : List Value) :
    Value.charsItems escape (item :: next :: items) =
      item.chars escape ++ ',' :: Value.charsItems escape (next :: items) := rfl

/-- **Items that spell trees are read as these.** -/
theorem items?_spelled {tree : Value → Tree} {items : List Value} (occupied : items ≠ [])
    (spelled : ∀ item ∈ items, Spells item (tree item)) (fuel : Nat) {rest : List Symbol}
    (enough : (Value.charsItems escape items).length + 1 ≤ fuel) :
    Tree.items? fuel (characters (Value.charsItems escape items) ++ .char ']' :: rest) =
      some (items.map tree, rest) := by
  induction items generalizing fuel with
  | nil => exact absurd rfl occupied
  | cons item items ih =>
    obtain ⟨fuel, rfl, least⟩ := exists_succ enough
    cases items with
    | nil =>
      have read := spelled item List.mem_cons_self fuel (.char ']' :: rest) least (.inr (.inl rfl))
      unfold Tree.items?
      rw [Value.charsItems, read]
      rfl
    | cons next items =>
      rw [charsItems_cons_cons, List.length_append, List.length_cons] at least
      have read := spelled item List.mem_cons_self fuel
        (.char ',' :: (characters (Value.charsItems escape (next :: items)) ++ .char ']' :: rest))
        (by omega) (.inl rfl)
      have later := ih (List.cons_ne_nil _ _)
        (fun item member => spelled item (List.mem_cons_of_mem _ member)) fuel (by omega)
      have split :
          characters (Value.charsItems escape (item :: next :: items)) ++ .char ']' :: rest =
          characters (item.chars escape) ++ .char ',' ::
            (characters (Value.charsItems escape (next :: items)) ++ .char ']' :: rest) := by
        rw [charsItems_cons_cons]
        simp [characters]
      rw [split, Tree.items?, read]
      simp only [skipBlanks_comma]
      rw [later]
      rfl

/-- **A list spells what its items do.** -/
theorem spells_list {tree : Value → Tree} {items : List Value}
    (spelled : ∀ item ∈ items, Spells item (tree item)) :
    Spells (.list items) (.list (items.map tree)) := by
  intro fuel rest enough _
  obtain ⟨fuel, rfl, least⟩ := exists_succ enough
  have split : characters ((Value.list items).chars escape) ++ rest =
      .char '[' :: (characters (Value.charsItems escape items) ++ .char ']' :: rest) := by
    simp [Value.chars, characters]
  rw [split]
  by_cases empty : items = []
  · subst empty
    rfl
  · refine Tree.value?_list (items?_spelled empty spelled fuel ?_)
    simpa using least

/-! ### Records -/

/-- What is read with a member in front: further members behind a comma, or the end. -/
def withMember (member : List Piece × Tree) (fuel : Nat) (text : List Symbol) :
    Option (List (List Piece × Tree) × List Symbol) :=
  match skipBlanks text with
  | .char ',' :: rest =>
    (Tree.members? fuel rest).map fun (members, rest) => (member :: members, rest)
  | .char '}' :: rest => some ([member], rest)
  | _ => none

/-- **A field that spells a tree is read as a member**, whatever comes behind it. -/
theorem members?_field (name : String) {value : Value} {tree : Tree} (spelled : Spells value tree)
    {fuel : Nat} (enough : (value.chars escape).length ≤ fuel) (rest : List Symbol)
    (parted : Parted rest) :
    Tree.members? (fuel + 1)
        (characters (quote escape name ++ ':' :: value.chars escape) ++ rest) =
      withMember (pieces name, tree) fuel rest := by
  have split : characters (quote escape name ++ ':' :: value.chars escape) ++ rest =
      .char '"' :: (characters (name.toList.flatMap escape ++ ['"']) ++
        .char ':' :: (characters (value.chars escape) ++ rest)) := by
    simp [quote, characters]
  rw [split, Tree.members?, skipBlanks_quote]
  simp only
  rw [quoted?_quote]
  simp only [skipBlanks_colon]
  rw [spelled fuel rest enough parted]
  rfl

/-- The members as which fields are read whose values spell trees. -/
def membersOf (tree : Value → Tree) (fields : List (String × Value)) : List (List Piece × Tree) :=
  fields.map fun field => (pieces field.1, tree field.2)

/-- A field that is not the last one is followed by a comma. -/
theorem charsFields_cons_append (name : String) (value : Value) (fields : List (String × Value))
    (next : String × Value) (later : List (String × Value)) :
    Value.charsFields escape ((name, value) :: (fields ++ next :: later)) =
      (quote escape name ++ ':' :: value.chars escape) ++
        ',' :: Value.charsFields escape (fields ++ next :: later) := by
  rw [Value.charsFields]
  · simp
  · simp

/-- Each field takes some of the text. -/
theorem length_charsFields_append (fields : List (String × Value)) (next : String × Value)
    (later : List (String × Value)) :
    fields.length + (Value.charsFields escape (next :: later)).length ≤
      (Value.charsFields escape (fields ++ next :: later)).length := by
  induction fields with
  | nil => simp
  | cons field fields ih =>
    obtain ⟨name, value⟩ := field
    rw [List.cons_append, charsFields_cons_append, List.length_append, List.length_cons,
      List.length_cons]
    omega

/-- **Fields that spell trees are read as members**, whatever fields come behind them. -/
theorem members?_before {tree : Value → Tree} {fields : List (String × Value)}
    (spelled : ∀ field ∈ fields, Spells field.2 (tree field.2)) (next : String × Value)
    (later : List (String × Value)) (fuel : Nat) (rest : List Symbol)
    (enough : (Value.charsFields escape (fields ++ next :: later)).length ≤ fuel + fields.length) :
    Tree.members? (fuel + fields.length)
        (characters (Value.charsFields escape (fields ++ next :: later)) ++ rest) =
      (Tree.members? fuel (characters (Value.charsFields escape (next :: later)) ++ rest)).map
        fun found => (membersOf tree fields ++ found.1, found.2) := by
  induction fields with
  | nil =>
    show Tree.members? fuel (characters (Value.charsFields escape (next :: later)) ++ rest) = _
    cases Tree.members? fuel (characters (Value.charsFields escape (next :: later)) ++ rest) <;> rfl
  | cons field fields ih =>
    obtain ⟨name, value⟩ := field
    rw [List.cons_append, charsFields_cons_append, List.length_append, List.length_append,
      List.length_cons, List.length_cons, List.length_cons] at enough
    have room : (value.chars escape).length ≤ fuel + fields.length := by omega
    have read := members?_field name (spelled (name, value) List.mem_cons_self) room
      (.char ',' :: (characters (Value.charsFields escape (fields ++ next :: later)) ++ rest))
      (.inl rfl)
    have further :=
      ih (fun field member => spelled field (List.mem_cons_of_mem _ member)) (by omega)
    have split : characters (Value.charsFields escape ((name, value) :: fields ++ next :: later)) ++
        rest = characters (quote escape name ++ ':' :: value.chars escape) ++ .char ',' ::
          (characters (Value.charsFields escape (fields ++ next :: later)) ++ rest) := by
      rw [List.cons_append, charsFields_cons_append]
      simp [characters]
    rw [split, List.length_cons, ← Nat.add_assoc]
    refine read.trans ?_
    show (Tree.members? _ (characters (Value.charsFields escape (fields ++ next :: later)) ++
      rest)).map _ = _
    rw [further, Option.map_map]
    rfl

/-- Fields do not start with a brace. -/
theorem skipBlanks_charsFields_ne {fields : List (String × Value)} (occupied : fields ≠ [])
    (rest behind : List Symbol) :
    skipBlanks (characters (Value.charsFields escape fields) ++ rest) ≠ .char '}' :: behind := by
  intro same
  cases fields with
  | nil => exact occupied rfl
  | cons field fields =>
    obtain ⟨name, value⟩ := field
    cases fields with
    | nil => cases same
    | cons next fields => cases same

theorem characters_record (fields : List (String × Value)) (rest : List Symbol) :
    characters ((Value.record fields).chars escape) ++ rest =
      .char '{' :: (characters (Value.charsFields escape fields) ++ .char '}' :: rest) := by
  simp [Value.chars, characters]

/-- **A record spells what its fields do.** -/
theorem spells_record {tree : Value → Tree} {fields : List (String × Value)}
    (spelled : ∀ field ∈ fields, Spells field.2 (tree field.2)) :
    Spells (.record fields) (.record (membersOf tree fields)) := by
  intro fuel rest enough _
  obtain ⟨fuel, rfl, least⟩ := exists_succ enough
  rcases List.eq_nil_or_concat fields with rfl | ⟨before, ⟨name, value⟩, same⟩
  · rfl
  rw [List.concat_eq_append] at same
  subst same
  have longer := length_charsFields_append before (name, value) []
  have last : Value.charsFields escape [(name, value)] =
      quote escape name ++ ':' :: value.chars escape := rfl
  rw [List.length_append, List.length_singleton] at least
  rw [last, List.length_append, List.length_cons] at longer
  obtain ⟨fuel, rfl⟩ : ∃ less, fuel = less + 1 + before.length :=
    ⟨fuel - 1 - before.length, by omega⟩
  have room : (value.chars escape).length ≤ fuel := by omega
  have closed := members?_field name (spelled (name, value) (by simp)) room (.char '}' :: rest)
    (.inr (.inr rfl))
  have read := members?_before
    (fun field member => spelled field (List.mem_append_left _ member)) (name, value) [] (fuel + 1)
    (.char '}' :: rest) (by omega)
  rw [characters_record, Tree.value?_record (skipBlanks_charsFields_ne (by simp) _), read, last,
    closed]
  simp only [membersOf, List.map_append]
  rfl

/-! ### Whole texts -/

/-- **A text that is written of a value is read as the tree that the value spells.** -/
theorem ofSymbols?_render {value : Value} {tree : Tree} (spelled : Spells value tree) :
    Tree.ofSymbols? (characters value.render.toList) = some tree := by
  have read := spelled (2 * (characters value.render.toList).length + 1) [] (by
    rw [characters, List.length_map, Value.render, String.toList_ofList]
    omega) trivial
  rw [List.append_nil] at read
  unfold Tree.ofSymbols? Tree.first?
  rw [show characters (value.chars escape) = characters value.render.toList by
    rw [Value.render, String.toList_ofList]] at read
  rw [read]
  rfl

/-! ### Every value -/

namespace Value

mutual

/-- The tree that a value spells. -/
def tree : Value → Tree
  | .null => .null
  | .bool value => .bool value
  | .number (.integer value) => .number (literalOf value)
  | .number (.float value) => .number (pointedLiteral value)
  | .string text => .string (pieces text)
  | .list items => .list (trees items)
  | .record fields => .record (treesOfFields fields)

/-- The trees that items spell. -/
def trees : List Value → List Tree
  | [] => []
  | item :: items => tree item :: trees items

/-- The members as which fields are read. -/
def treesOfFields : List (String × Value) → List (List Piece × Tree)
  | [] => []
  | (name, value) :: fields => (pieces name, tree value) :: treesOfFields fields

end

theorem trees_eq_map (items : List Value) : trees items = items.map tree := by
  induction items with
  | nil => rfl
  | cons item items ih => rw [trees, ih, List.map_cons]

theorem treesOfFields_eq (fields : List (String × Value)) :
    treesOfFields fields = membersOf tree fields := by
  induction fields with
  | nil => rfl
  | cons field fields ih => rw [treesOfFields, ih]; rfl

end Value

mutual

/-- **Every value spells its tree.** -/
theorem spells : (value : Value) → Spells value value.tree
  | .null => spells_null
  | .bool value => spells_bool value
  | .number (.integer value) => spells_integer value
  | .number (.float value) => spells_float value
  | .string text => spells_string text
  | .list items => by
    rw [Value.tree, Value.trees_eq_map]
    exact spells_list (spells_items items)
  | .record fields => by
    rw [Value.tree, Value.treesOfFields_eq]
    exact spells_record (spells_fields fields)

theorem spells_items : (items : List Value) → ∀ item ∈ items, Spells item item.tree
  | [] => by simp
  | first :: items => List.forall_mem_cons.2 ⟨spells first, spells_items items⟩

theorem spells_fields : (fields : List (String × Value)) →
    ∀ field ∈ fields, Spells field.2 field.2.tree
  | [] => by simp
  | (_, value) :: fields => List.forall_mem_cons.2 ⟨spells value, spells_fields fields⟩

end

end Statechart.Json
