/-
**Documents of written values.**

A description is read by way of documents. The document of a printed value says what the value says
as long as it holds no numbers, and data are the same by way of their document or without. The
fields of a written record stand at their names, under which the reader looks for them before it
looks for any other.

* `Document.map_toValue?_ofTree?`: the value of a tree is that of its document.
* `Document.Told`: values whose document is read of their tree.
* `Document.fields?_named`: written fields are placed at their names.
-/

import Statechart.Proofs.Json.Proper
import Statechart.Document

namespace Statechart

open Json Decimal Text

namespace Document

/-! ### Data by way of documents -/

/-- A number that data can have is a value as it is. -/
theorem numberValue_of_proper {number : Number} (proper : number.Proper) :
    numberValue number = .number number := by
  cases number with
  | integer value => rfl
  | float value => exact if_pos proper

/-- Two readings of which neither gives anything, or both the same. -/
theorem cases_of_map_eq {α β : Type} {first : Option α} {value? : α → Option β} {second : Option β}
    (same : first.map value? = second.map some) :
    first = none ∧ second = none ∨
      ∃ found value, first = some found ∧ value? found = some value ∧ second = some value := by
  cases first with
  | none =>
    cases second with
    | none => exact .inl ⟨rfl, rfl⟩
    | some value => cases same
  | some found =>
    cases second with
    | none => cases same
    | some value => exact .inr ⟨found, value, rfl, Option.some.inj same, rfl⟩

mutual

/-- **The value of a tree is that of its document**, and one is read exactly if the other is. -/
theorem map_toValue?_ofTree? : (tree : Tree) → (levels : Nat) →
    (ofTree? levels tree).map toValue? = (tree.toValue? levels).map some
  | .null, _ => rfl
  | .bool _, _ => rfl
  | .number literal, levels => by
    rw [ofTree?, Tree.toValue?]
    cases read : literal.number? with
    | none => rfl
    | some number =>
      have same := numberValue_of_proper (Literal.proper_of_number? read)
      exact congrArg (fun value => some (some value)) same
  | .string pieces, levels => by
    rw [ofTree?, Tree.toValue?, Option.map_map, Option.map_map]
    rfl
  | .list items, levels => by
    cases levels with
    | zero => rfl
    | succ levels =>
      have each := congrArg (Option.map (Option.map Value.list))
        (map_toValues?_ofTrees? items levels)
      rw [Option.map_map, Option.map_map] at each
      rw [ofTree?, Tree.toValue?, Option.map_map, Option.map_map]
      exact each
  | .record members, levels => by
    cases levels with
    | zero => rfl
    | succ levels =>
      have each := congrArg
        (Option.map (Option.map fun fields => Value.ofDict (Dict.ofList fields)))
        (map_toFields?_ofMembers? members levels)
      rw [Option.map_map, Option.map_map] at each
      rw [ofTree?, Tree.toValue?, Option.map_map, Option.map_map]
      exact each

theorem map_toValues?_ofTrees? : (items : List Tree) → (levels : Nat) →
    (ofTrees? levels items).map toValues? = (Tree.toItems? levels items).map some
  | [], _ => rfl
  | item :: items, levels => by
    rw [ofTrees?, Tree.toItems?]
    rcases cases_of_map_eq (map_toValue?_ofTree? item levels) with
      ⟨unread, unread'⟩ | ⟨document, value, here, told, here'⟩
    · rw [unread, unread']
      rfl
    rcases cases_of_map_eq (map_toValues?_ofTrees? items levels) with
      ⟨unread, unread'⟩ | ⟨documents, values, later, all, later'⟩
    · rw [here, here', unread, unread']
      rfl
    · rw [here, here', later, later']
      show some (toValues? (document :: documents)) = _
      rw [toValues?, told, all]
      rfl

theorem map_toFields?_ofMembers? : (members : List (List Piece × Tree)) → (levels : Nat) →
    (ofMembers? levels members).map toFields? = (Tree.toFields? levels members).map some
  | [], _ => rfl
  | (pieces, member) :: members, levels => by
    rw [ofMembers?, Tree.toFields?]
    cases Json.string? pieces with
    | none => rfl
    | some name =>
      rcases cases_of_map_eq (map_toValue?_ofTree? member levels) with
        ⟨unread, unread'⟩ | ⟨document, value, here, told, here'⟩
      · rw [unread, unread']
        rfl
      rcases cases_of_map_eq (map_toFields?_ofMembers? members levels) with
        ⟨unread, unread'⟩ | ⟨entries, fields, later, all, later'⟩
      · rw [here, here', unread, unread']
        rfl
      · rw [here, here', later, later']
        show some (toFields? ((.string name, document) :: entries)) = _
        rw [toFields?, told, all]
        rfl

end

/-! ### Values without numbers -/

/-- Some fields as the entries of a record. -/
def entries (fields : List (String × Document)) : List (Document × Document) :=
  fields.map fun field => (.string field.1, field.2)

theorem ofItems_eq (items : List Value) : ofItems items = items.map ofValue := by
  induction items with
  | nil => rfl
  | cons item items ih => rw [ofItems, ih, List.map_cons]

theorem ofFields_eq (fields : List (String × Value)) :
    ofFields fields = entries (fields.map fun field => (field.1, ofValue field.2)) := by
  induction fields with
  | nil => rfl
  | cons field fields ih =>
    obtain ⟨name, value⟩ := field
    rw [ofFields, ih]
    rfl

/-- A value whose document is read of its tree within so many levels. -/
def Told (levels : Nat) (value : Value) : Prop := ofTree? levels value.tree = some (ofValue value)

theorem told_bool (levels : Nat) (value : Bool) : Told levels (.bool value) := rfl

theorem told_string (levels : Nat) (text : String) : Told levels (.string text) := by
  rw [Told, Value.tree, ofTree?, string?_pieces]
  rfl

/-- What is read of the trees of values. -/
theorem ofTrees?_trees (levels : Nat) (items : List Value) :
    ofTrees? levels (Value.trees items) = items.mapM fun item => ofTree? levels item.tree := by
  induction items with
  | nil => rfl
  | cons item items ih => rw [Value.trees, ofTrees?, ih, List.mapM_cons]

/-- What is read of written members. -/
theorem ofMembers?_treesOfFields (levels : Nat) (fields : List (String × Value)) :
    ofMembers? levels (Value.treesOfFields fields) =
      (fields.mapM fun field => (ofTree? levels field.2.tree).map (field.1, ·)).map entries := by
  induction fields with
  | nil => rfl
  | cons field fields ih =>
    obtain ⟨name, value⟩ := field
    rw [Value.treesOfFields, ofMembers?, ih, string?_pieces, List.mapM_cons]
    dsimp only
    cases ofTree? levels value.tree with
    | none => rfl
    | some document =>
      cases fields.mapM fun field => (ofTree? levels field.2.tree).map (field.1, ·) <;> rfl

theorem told_list {levels : Nat} {items : List Value} (each : ∀ item ∈ items, Told levels item) :
    Told (levels + 1) (.list items) := by
  rw [Told, Value.tree, ofTree?, ofTrees?_trees, Tree.mapM_eq_some_map each, ofValue, ofItems_eq]
  rfl

theorem told_record {levels : Nat} {fields : List (String × Value)}
    (each : ∀ field ∈ fields, Told levels field.2) : Told (levels + 1) (.record fields) := by
  have all : (fields.mapM fun field => (ofTree? levels field.2.tree).map (field.1, ·)) =
      some (fields.map fun field => (field.1, ofValue field.2)) :=
    Tree.mapM_eq_some_map fun field member => congrArg (Option.map _) (each field member)
  rw [Told, Value.tree, ofTree?, ofMembers?_treesOfFields, all, ofValue, ofFields_eq]
  rfl

/-! ### Places of fields -/

/-- The documents at the first names of some fields, of entries that are given by name. -/
def placed (names : List (List String)) (fields : List (String × Document)) :
    List (Option Document) :=
  names.map fun aliases => aliases.head?.bind fun name => Entries.get? name fields

/-- Each field has a first name of its own, which is no further name of another field. -/
def Distinct (names : List (List String)) : Prop :=
  (names.map List.head?).Nodup ∧ ∀ aliases ∈ names, ∀ name ∈ aliases.head?,
    ∀ other ∈ names, name ∈ other → other.head? = some name

instance (names : List (List String)) : Decidable (Distinct names) := by
  unfold Distinct
  infer_instance

theorem getElem?_placed (names : List (List String)) (fields : List (String × Document))
    (position : Nat) : (placed names fields)[position]? =
      names[position]?.map fun aliases =>
        aliases.head?.bind fun name => Entries.get? name fields :=
  List.getElem?_map

/-- A field that was not given yet takes the place of its first name. -/
theorem placed_append_of_getElem? {names : List (List String)} (distinct : Distinct names)
    {fields : List (String × Document)} {position : Nat} {aliases : List String} {name : String}
    (stands : names[position]? = some aliases) (first : aliases.head? = some name)
    (new : Entries.get? name fields = none) (document : Document) :
    placed names (fields ++ [(name, document)]) =
      (placed names fields).set position (some document) := by
  refine map_eq_set_map stands ?_ fun index other known elsewhere => ?_
  · rw [first, Option.bind_some, Entries.get?_append, new, Option.none_or, Entries.get?,
      if_pos rfl]
  · cases head : other.head? with
    | none => rfl
    | some name' =>
      have differ : name ≠ name' := by
        rintro rfl
        have heads : (names.map List.head?)[position]? = (names.map List.head?)[index]? := by
          rw [List.getElem?_map, List.getElem?_map, stands, known, Option.map_some,
            Option.map_some, first, head]
        refine elsewhere ((List.getElem?_inj ?_ distinct.1).1 heads)
        rw [List.length_map]
        exact (List.getElem?_eq_some_iff.1 stands).1
      rw [Option.bind_some, Option.bind_some, Entries.get?_append, Entries.get?, if_neg differ]
      exact Option.or_none

/-- **Entries with the first names of fields are placed at these fields.** -/
theorem placeEntries?_entries {names : List (List String)} (distinct : Distinct names)
    (before : List (String × Document)) {fields : List (String × Document)}
    (new : ((before ++ fields).map Prod.fst).Nodup)
    (known : ∀ field ∈ fields, some field.1 ∈ names.map List.head?) :
    placeEntries? names (entries fields) (placed names before) =
      some (placed names (before ++ fields)) := by
  induction fields generalizing before with
  | nil =>
    rw [List.append_nil]
    rfl
  | cons field fields ih =>
    obtain ⟨name, document⟩ := field
    have step := ih (before ++ [(name, document)]) (by rwa [List.append_assoc])
      fun field member => known field (List.mem_cons_of_mem _ member)
    rw [List.append_assoc] at step
    have absent : Entries.get? name before = none := by
      refine Entries.get?_eq_none fun entry member same => ?_
      rw [List.map_append, List.nodup_append] at new
      exact new.2.2 entry.1 (List.mem_map_of_mem member) name (by simp) same
    obtain ⟨aliases, among, first⟩ := List.mem_map.1 (known _ List.mem_cons_self)
    show placeEntries? names ((.string name, document) :: entries fields) _ = _
    unfold placeEntries? fieldPosition?
    rw [Option.bind_eq_bind, Option.bind_some]
    cases found : names.findIdx? fun aliases => aliases.contains name with
    | none =>
      have head : name ∈ aliases := List.mem_of_mem_head? first
      have absent := List.findIdx?_eq_none_iff.1 found aliases among
      rw [List.contains_iff_mem.2 head] at absent
      cases absent
    | some position =>
      obtain ⟨inside, same, -⟩ := List.findIdx?_eq_some_iff_getElem.1 found
      have stands := List.getElem?_eq_getElem inside
      have head : names[position].head? = some name :=
        distinct.2 aliases among name first _ (List.getElem_mem inside)
          (List.contains_iff_mem.1 same)
      rw [placed_append_of_getElem? distinct stands head absent] at step
      dsimp only
      rw [getElem?_placed, stands, Option.map_some, head, Option.bind_some, absent]
      exact step

/-- **The fields of a record of first names stand at these names.** -/
theorem fields?_entries {names : List (List String)} (distinct : Distinct names)
    {fields : List (String × Document)}
    (known : ((fields.map Prod.fst).map some).Sublist (names.map List.head?)) :
    fields? names (.record (entries fields)) = some (placed names fields) := by
  have empty : (names.map fun _ => none) = placed names [] := by
    refine List.map_congr_left fun aliases _ => ?_
    cases aliases.head? <;> rfl
  have new : (fields.map Prod.fst).Nodup := (known.nodup distinct.1).of_map some
  rw [fields?, empty]
  exact placeEntries?_entries distinct [] new fun field member =>
    known.subset (List.mem_map_of_mem (List.mem_map_of_mem member))

/-- A field of such a record holds what its reader takes from its document. -/
theorem field?_placed {α : Type} {names : List (List String)} {fields : List (String × Document)}
    {position : Nat} (name : String) (stands : names[position]?.bind List.head? = some name)
    (read : Document → Option α) (default : α) :
    field? (placed names fields) position read default =
      ((Entries.get? name fields).map read).getD (some default) := by
  obtain ⟨aliases, here, first⟩ := Option.bind_eq_some_iff.1 stands
  unfold field?
  rw [getElem?_placed, here, Option.map_some, first, Option.bind_some]
  cases Entries.get? name fields <;> rfl

end Document

end Statechart
