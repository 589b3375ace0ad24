/-
**Reading records of known fields back.**

A record that was written of some fields is read by names. Every name that was written answers with
the tree of its value, and what is read behind the written fields cannot take the place of one.

* `placeMembers?_membersOf`: written fields are placed at their names.
* `text?_tree`, `list?_tree` and their kin: each reader gives what was written.
* `get?_of_toFields?`: data are read name by name.
-/

import Statechart.Proofs.Json.Spelling
import Statechart.Proofs.Dict
import Statechart.Json.Typed

namespace Statechart

namespace Json

open Text

/-- Two readings of some names that differ at one of them. -/
theorem map_eq_set_map {α β : Type} {names : List α} {new old : α → β} {position : Nat} {name : α}
    {value : β} (stands : names[position]? = some name) (here : new name = value)
    (elsewhere : ∀ index other, names[index]? = some other → position ≠ index →
      new other = old other) :
    names.map new = (names.map old).set position value := by
  obtain ⟨inside, -⟩ := List.getElem?_eq_some_iff.1 stands
  refine List.ext_getElem? fun index => ?_
  rw [List.getElem?_map, List.getElem?_set, List.length_map, if_pos inside, List.getElem?_map]
  by_cases same : position = index
  · subst same
    rw [if_pos rfl, stands, Option.map_some, here]
  · rw [if_neg same]
    cases known : names[index]? with
    | none => rfl
    | some other => rw [Option.map_some, Option.map_some, elsewhere index other known same]

namespace Tree

/-! ### Places of members -/

/-- The trees at the fields of some names, the values of given fields being written. -/
def placed (names : List String) (fields : List (String × Value)) : List (Option Tree) :=
  names.map fun name => (Entries.get? name fields).map Value.tree

theorem placed_append_of_notMem {names : List String} {fields : List (String × Value)}
    {name : String} (unknown : name ∉ names) (value : Value) :
    placed names (fields ++ [(name, value)]) = placed names fields := by
  refine List.map_congr_left fun known member => ?_
  have differ : name ≠ known := fun same => unknown (same ▸ member)
  rw [Entries.get?_append, Entries.get?, if_neg differ]
  cases Entries.get? known fields <;> rfl

theorem placed_append_of_getElem? {names : List String} (distinct : names.Nodup)
    {fields : List (String × Value)} {position : Nat} {name : String}
    (stands : names[position]? = some name) (new : Entries.get? name fields = none)
    (value : Value) :
    placed names (fields ++ [(name, value)]) =
      (placed names fields).set position (some value.tree) := by
  refine map_eq_set_map stands ?_ fun index other known elsewhere => ?_
  · rw [Entries.get?_append, new, Option.none_or, Entries.get?, if_pos rfl, Option.map_some]
  · obtain ⟨inside, -⟩ := List.getElem?_eq_some_iff.1 stands
    have differ : name ≠ other := fun same =>
      elsewhere ((List.getElem?_inj inside distinct).1 (by rw [stands, known, same]))
    rw [Entries.get?_append, Entries.get?, if_neg differ]
    cases Entries.get? other fields <;> rfl

theorem getElem?_placed (names : List String) (fields : List (String × Value)) (position : Nat) :
    (placed names fields)[position]? =
      names[position]?.map fun name => (Entries.get? name fields).map Value.tree :=
  List.getElem?_map

/-- **Written fields are placed at their names.** -/
theorem placeMembers?_membersOf {names : List String} (distinct : names.Nodup)
    (before : List (String × Value)) {fields : List (String × Value)}
    (new : ((before ++ fields).map Prod.fst).Nodup) :
    placeMembers? names (membersOf Value.tree fields) (placed names before) =
      some (placed names (before ++ fields)) := by
  induction fields generalizing before with
  | nil => rw [List.append_nil]; rfl
  | cons field fields ih =>
    obtain ⟨name, value⟩ := field
    have step := ih (before ++ [(name, value)]) (by rwa [List.append_assoc])
    rw [List.append_assoc] at step
    have absent : Entries.get? name before = none := by
      refine Entries.get?_eq_none fun entry member same => ?_
      rw [List.map_append, List.nodup_append] at new
      exact new.2.2 entry.1 (List.mem_map_of_mem member) name (by simp) same
    show placeMembers? names ((pieces name, value.tree) :: membersOf Value.tree fields) _ = _
    unfold placeMembers?
    rw [string?_pieces, Option.bind_eq_bind, Option.bind_some]
    cases found : names.findIdx? (· = name) with
    | none =>
      have unknown : name ∉ names := fun member => by
        rw [List.findIdx?_eq_none_iff] at found
        have differ := found name member
        simp at differ
      rw [placed_append_of_notMem unknown] at step
      exact step
    | some position =>
      obtain ⟨inside, same, -⟩ := List.findIdx?_eq_some_iff_getElem.1 found
      have stands : names[position]? = some name := by
        rw [List.getElem?_eq_getElem inside]
        exact congrArg some (of_decide_eq_true same)
      rw [placed_append_of_getElem? distinct stands absent] at step
      dsimp only
      rw [getElem?_placed, stands, Option.map_some, absent]
      exact step

/-- The fields of a written record stand at their names. -/
theorem fields?_record {names : List String} (distinct : names.Nodup) (required : Nat)
    {fields : List (String × Value)} (new : (fields.map Prod.fst).Nodup) :
    fields? names required (Value.record fields).tree = some (placed names fields) := by
  rw [Value.tree, Value.treesOfFields_eq]
  exact placeMembers?_membersOf distinct [] new

/-- A field of a written record holds what its reader takes from the tree of its value. -/
theorem field?_placed {α : Type} {names : List String} {fields : List (String × Value)}
    {position : Nat} (name : String) (stands : names[position]? = some name)
    (read : Tree → Option α) (default : Option α) :
    field? (placed names fields) position read default =
      ((Entries.get? name fields).map fun value => read value.tree).getD default := by
  unfold field?
  rw [getElem?_placed, stands, Option.map_some]
  cases Entries.get? name fields <;> rfl

/-! ### Readers -/

@[simp] theorem text?_tree (text : String) : text? (Value.string text).tree = some text :=
  string?_pieces text

@[simp] theorem nullable?_text?_tree (text : Option String) :
    nullable? text? (Value.optionalString text).tree = some text := by
  cases text with
  | none => rfl
  | some text => exact congrArg (Option.map some) (text?_tree text)

/-- A whole number is read as itself, if it is read as a whole number. -/
theorem whole?_tree (number : Int) :
    whole? (Value.integer number).tree =
      if -(Nat.pow 2 63 : Int) ≤ number ∧ number ≤ Literal.wordMax then some number else none := by
  have written : (Value.integer number).tree = .number (literalOf number) := rfl
  rw [written, whole?, number?_literalOf_eq]
  by_cases range : -(Nat.pow 2 63 : Int) ≤ number ∧ number ≤ Literal.wordMax
  · simp only [if_pos range]
  · simp only [if_neg range]
    cases (literalOf number).float? <;> rfl

/-- A list is read item by item. -/
theorem list?_tree {α β : Type} {read : Tree → Option β} {write : α → Value} {items : List α} :
    list? read (Value.list (items.map write)).tree =
      items.mapM fun item => read (write item).tree := by
  rw [Value.tree, Value.trees_eq_map, List.map_map]
  exact List.mapM_map

/-- What is read of each item is read of the whole list. -/
theorem mapM_eq_some_map {α β : Type} {read : α → Option β} {found : α → β} {items : List α}
    (each : ∀ item ∈ items, read item = some (found item)) :
    items.mapM read = some (items.map found) := by
  induction items with
  | nil => rfl
  | cons item items ih =>
    rw [List.mapM_cons, each item List.mem_cons_self,
      ih fun item member => each item (List.mem_cons_of_mem _ member)]
    rfl

/-- What is read item by item as it was written is read as the whole list. -/
theorem mapM_eq_some {α : Type} {read : α → Option α} {items : List α}
    (each : ∀ item ∈ items, read item = some item) : items.mapM read = some items :=
  (mapM_eq_some_map each).trans (congrArg some (List.map_id' items))

/-- What is read item by item comes from the items. -/
theorem exists_of_mapM {α β : Type} {read : α → Option β} {items : List α} {found : List β}
    (all : items.mapM read = some found) :
    ∀ value ∈ found, ∃ item ∈ items, read item = some value := by
  induction items generalizing found with
  | nil =>
    cases all
    exact List.forall_mem_nil _
  | cons item items ih =>
    rw [List.mapM_cons] at all
    obtain ⟨first, here, all⟩ := Option.bind_eq_some_iff.1 all
    obtain ⟨later, rest, all⟩ := Option.bind_eq_some_iff.1 all
    cases all
    refine List.forall_mem_cons.2 ⟨⟨item, List.mem_cons_self, here⟩, fun value member => ?_⟩
    obtain ⟨other, among, read⟩ := ih rest value member
    exact ⟨other, List.mem_cons_of_mem _ among, read⟩

/-- All is read exactly if each is read. -/
theorem isSome_mapM_iff {α β : Type} (read : α → Option β) (items : List α) :
    (items.mapM read).isSome ↔ ∀ item ∈ items, (read item).isSome := by
  induction items with
  | nil => simp
  | cons item items ih =>
    rw [List.mapM_cons, List.forall_mem_cons, ← ih]
    cases read item with
    | none => simp
    | some value =>
      cases items.mapM read with
      | none => simp
      | some values => simp

/-- What is read item by item, some items being refused, is the whole list or nothing. -/
theorem mapM_ite {α : Type} {accepts : α → Prop} [DecidablePred accepts] (items : List α) :
    (items.mapM fun item => if accepts item then some item else none) =
      if ∀ item ∈ items, accepts item then some items else none := by
  induction items with
  | nil => rfl
  | cons item items ih =>
    rw [List.mapM_cons, ih]
    by_cases first : accepts item
    · by_cases later : ∀ item ∈ items, accepts item
      · rw [if_pos first, if_pos later, if_pos (List.forall_mem_cons.2 ⟨first, later⟩)]
        rfl
      · rw [if_pos first, if_neg later,
          if_neg fun all => later (List.forall_mem_cons.1 all).2]
        rfl
    · rw [if_neg first, if_neg fun all => first (List.forall_mem_cons.1 all).1]
      rfl

/-- A dictionary of texts is read as itself. -/
theorem dict?_tree (texts : Dict String String) :
    dict? text? (Value.ofDict (texts.mapValues .string)).tree = some texts := by
  have members : membersOf Value.tree (texts.mapValues Value.string).entries =
      texts.entries.map fun entry : String × String =>
        (pieces entry.1, (Value.string entry.2).tree) := by
    unfold membersOf Dict.mapValues
    rw [List.map_map]
    rfl
  rw [Value.ofDict, Value.tree, Value.treesOfFields_eq, members]
  let read (entry : String × String) : Option (String × String) := do
    return (← string? (pieces entry.1), ← text? (Value.string entry.2).tree)
  have each : ∀ entry ∈ texts.entries, read entry = some entry := by
    intro entry _
    show (do return (← string? (pieces entry.1), ← text? (Value.string entry.2).tree)) = some entry
    rw [string?_pieces, text?_tree]
    rfl
  show Option.bind (List.mapM _ (texts.entries.map fun entry : String × String =>
    (pieces entry.1, (Value.string entry.2).tree))) _ = _
  rw [List.mapM_map]
  show Option.bind (texts.entries.mapM read) _ = _
  rw [mapM_eq_some each]
  exact congrArg some (Dict.ofList_entries texts)

/-- Fields that are read as members keep their names, and hold what is read of their values. -/
theorem get?_of_toFields? {levels : Nat} {fields found : List (String × Value)}
    (read : toFields? levels (membersOf Value.tree fields) = some found) :
    found.map Prod.fst = fields.map Prod.fst ∧ ∀ name, (Entries.get? name found).map some =
      (Entries.get? name fields).map fun value => value.tree.toValue? levels := by
  induction fields generalizing found with
  | nil =>
    cases read
    exact ⟨rfl, fun _ => rfl⟩
  | cons field fields ih =>
    obtain ⟨name, value⟩ := field
    change toFields? levels ((pieces name, value.tree) :: membersOf Value.tree fields) = _ at read
    rw [toFields?, string?_pieces, Option.bind_eq_bind, Option.bind_some] at read
    obtain ⟨first, here, read⟩ := Option.bind_eq_some_iff.1 read
    obtain ⟨later, rest, read⟩ := Option.bind_eq_some_iff.1 read
    cases read
    obtain ⟨names, answers⟩ := ih rest
    refine ⟨by rw [List.map_cons, List.map_cons, names], fun other => ?_⟩
    rw [Entries.get?, Entries.get?]
    split
    · exact congrArg some here.symm
    · exact answers other

/-- What is read of a value is a text exactly if the value is one, and then the same text. -/
theorem string?_of_toValue? {levels : Nat} {value found : Value}
    (read : value.tree.toValue? levels = some found) : found.string? = value.string? := by
  cases value with
  | null =>
    cases read
    rfl
  | bool value =>
    cases read
    rfl
  | number number =>
    obtain ⟨literal, written⟩ : ∃ literal, (Value.number number).tree = .number literal := by
      cases number <;> exact ⟨_, rfl⟩
    rw [written, toValue?] at read
    obtain ⟨_, -, rfl⟩ := Option.map_eq_some_iff.1 read
    rfl
  | string text =>
    rw [Value.tree, toValue?, string?_pieces] at read
    cases read
    rfl
  | list items =>
    cases levels with
    | zero => cases read
    | succ levels =>
      obtain ⟨_, -, rfl⟩ := Option.map_eq_some_iff.1 read
      rfl
  | record fields =>
    cases levels with
    | zero => cases read
    | succ levels =>
      obtain ⟨_, -, rfl⟩ := Option.map_eq_some_iff.1 read
      rfl

end Tree

end Json

end Statechart
