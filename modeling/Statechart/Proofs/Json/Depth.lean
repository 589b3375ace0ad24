/-
**How deep a value may nest to be read back.**

What is printed of a value is read back by a reader that allows for so many levels of nesting, and
by no other. Only the numbers have to be asked for: a value whose numbers are read as themselves is
read as itself, and one whose numbers are read at all is read at all.

* `Value.Sound`: a value with records in order and numbers of some kind.
* `Value.parseWithin?_render`: what is read of a printed value.
* `Value.Sound.toValue?_tree`: a value that is nested no deeper is read as itself.
* `Value.Sound.isSome_iff`: a value is read at all exactly if it is nested no deeper.
-/

import Statechart.Proofs.Json.Fields

namespace Statechart.Json

open Decimal Text

/-- The literal as which a number is printed. -/
def Number.literal : Number → Literal
  | .integer value => literalOf value
  | .float value => pointedLiteral value

/-- A whole number that is read as a whole number. -/
def Number.IsWhole : Number → Prop
  | .integer value => -(Nat.pow 2 63 : Int) ≤ value ∧ value ≤ Literal.wordMax
  | .float _ => False

theorem Number.IsWhole.number?_literal {number : Number} (whole : number.IsWhole) :
    number.literal.number? = some number := by
  cases number with
  | integer value =>
    show (literalOf value).number? = _
    rw [number?_literalOf_eq]
    exact if_pos whole
  | float value => exact absurd whole id

namespace Value

/-- A value whose records have their fields in order and whose numbers are of some kind. -/
inductive Sound (kind : Number → Prop) : Value → Prop
  | null : Sound kind .null
  | bool (value : Bool) : Sound kind (.bool value)
  | number {number : Number} (fits : kind number) : Sound kind (.number number)
  | string (text : String) : Sound kind (.string text)
  | list {items : List Value} (each : ∀ item ∈ items, Sound kind item) : Sound kind (.list items)
  | record {fields : List (String × Value)} (ascending : Ascending fields)
      (each : ∀ field ∈ fields, Sound kind field.2) : Sound kind (.record fields)

theorem Sound.imp {kind kind' : Number → Prop} {value : Value} (sound : value.Sound kind)
    (weaker : ∀ number, kind number → kind' number) : value.Sound kind' := by
  induction sound with
  | null => exact .null
  | bool value => exact .bool value
  | number fits => exact .number (weaker _ fits)
  | string text => exact .string text
  | list _ ih => exact .list ih
  | record ascending _ ih => exact .record ascending ih

theorem tree_number (number : Number) : (Value.number number).tree = .number number.literal := by
  cases number <;> rfl

/-- **What is read of a printed value** is what its tree gives. -/
theorem parseWithin?_render (levels : Nat) (value : Value) :
    parseWithin? levels value.render = value.tree.toValue? levels := by
  unfold parseWithin?
  rw [ofSymbols?_render (spells value)]
  rfl

theorem eq_string {value : Value} {text : String} (same : value.string? = some text) :
    value = .string text := by
  cases value with
  | string _ => exact congrArg Value.string (Option.some.inj same)
  | _ => cases same

/-! ### Depths -/

theorem depthItems_le_iff {items : List Value} {levels : Nat} :
    depthItems items ≤ levels ↔ ∀ item ∈ items, item.depth ≤ levels := by
  induction items with
  | nil => simp [depthItems]
  | cons item items ih => rw [depthItems, Nat.max_le, ih, List.forall_mem_cons]

theorem depthFields_le_iff {fields : List (String × Value)} {levels : Nat} :
    depthFields fields ≤ levels ↔ ∀ field ∈ fields, field.2.depth ≤ levels := by
  induction fields with
  | nil => simp [depthFields]
  | cons field fields ih => rw [depthFields, Nat.max_le, ih, List.forall_mem_cons]

/-! ### Items and fields -/

theorem toItems?_trees (levels : Nat) (items : List Value) :
    Tree.toItems? levels (trees items) = items.mapM fun item => item.tree.toValue? levels := by
  induction items with
  | nil => rfl
  | cons item items ih =>
    rw [trees, Tree.toItems?, ih, List.mapM_cons]

theorem toFields?_treesOfFields (levels : Nat) (fields : List (String × Value)) :
    Tree.toFields? levels (treesOfFields fields) =
      fields.mapM fun field => (field.2.tree.toValue? levels).map (field.1, ·) := by
  induction fields with
  | nil => rfl
  | cons field fields ih =>
    obtain ⟨name, value⟩ := field
    rw [treesOfFields, Tree.toFields?, ih, string?_pieces, List.mapM_cons]
    cases value.tree.toValue? levels <;> rfl

/-! ### Whole values -/

/-- **A value that is nested no deeper is read as itself**, if its numbers are. -/
theorem Sound.toValue?_tree {value : Value}
    (sound : value.Sound fun number => number.literal.number? = some number) {levels : Nat}
    (shallow : value.depth ≤ levels) : value.tree.toValue? levels = some value := by
  induction sound generalizing levels with
  | null => rfl
  | bool value => rfl
  | number read =>
    rw [tree_number, Tree.toValue?, read]
    rfl
  | string text =>
    rw [tree, Tree.toValue?, string?_pieces]
    rfl
  | @list items _ ih =>
    obtain ⟨levels, rfl⟩ : ∃ below, levels = below + 1 :=
      Nat.exists_eq_add_one.2 (Nat.lt_of_lt_of_le (Nat.succ_pos _) shallow)
    have each := depthItems_le_iff.1 (Nat.le_of_succ_le_succ shallow)
    rw [tree, Tree.toValue?, toItems?_trees,
      Tree.mapM_eq_some fun item member => ih item member (each item member)]
    rfl
  | @record fields ascending _ ih =>
    obtain ⟨levels, rfl⟩ : ∃ below, levels = below + 1 :=
      Nat.exists_eq_add_one.2 (Nat.lt_of_lt_of_le (Nat.succ_pos _) shallow)
    have each := depthFields_le_iff.1 (Nat.le_of_succ_le_succ shallow)
    have read : (fields.mapM fun field => (field.2.tree.toValue? levels).map (field.1, ·)) =
        some fields := by
      refine Tree.mapM_eq_some fun field member => ?_
      rw [ih field member (each field member)]
      rfl
    rw [tree, Tree.toValue?, toFields?_treesOfFields, read]
    exact congrArg (fun dict : Dict String Value => some (ofDict dict))
      (Dict.ofList_entries { entries := fields, ascending })

/-- A value without numbers that have a point is printed and read back. -/
theorem Sound.parseWithin?_render {value : Value} (sound : value.Sound Number.IsWhole)
    {levels : Nat} (shallow : value.depth ≤ levels) :
    parseWithin? levels value.render = some value := by
  rw [Value.parseWithin?_render]
  exact (sound.imp fun number whole => whole.number?_literal).toValue?_tree shallow

/-- **A value is read at all exactly if it is nested no deeper**, if its numbers are. -/
theorem Sound.isSome_iff {value : Value}
    (sound : value.Sound fun number => number.literal.number?.isSome) (levels : Nat) :
    (value.tree.toValue? levels).isSome ↔ value.depth ≤ levels := by
  induction sound generalizing levels with
  | null => simp [tree, Tree.toValue?, depth]
  | bool value => simp [tree, Tree.toValue?, depth]
  | number read => simpa [tree_number, Tree.toValue?, depth] using read
  | string text => simp [tree, Tree.toValue?, depth, string?_pieces]
  | @list items _ ih =>
    cases levels with
    | zero => simp [tree, Tree.toValue?, depth]
    | succ levels =>
      rw [tree, Tree.toValue?, toItems?_trees, Option.isSome_map, Tree.isSome_mapM_iff, depth,
        Nat.add_le_add_iff_right, depthItems_le_iff]
      exact forall_congr' fun item => forall_congr' fun member => ih item member levels
  | @record fields ascending _ ih =>
    cases levels with
    | zero => simp [tree, Tree.toValue?, depth]
    | succ levels =>
      rw [tree, Tree.toValue?, toFields?_treesOfFields, Option.isSome_map, Tree.isSome_mapM_iff,
        depth, Nat.add_le_add_iff_right, depthFields_le_iff]
      simp only [Option.isSome_map]
      exact forall_congr' fun field => forall_congr' fun member => ih field member levels

end Value

end Statechart.Json
