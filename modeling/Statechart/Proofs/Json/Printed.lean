/-
**Values told by their text.**

A value whose numbers are all whole is equal to itself alone, and it is told by the tree that it
spells and so by its text, however deep it nests and however large its numbers are. Neither holds of
numbers with a point: the two zeros are equal and have different texts.

* `Value.Whole`: all numbers of a value are whole.
* `Value.Whole.equal_iff`: such a value is equal to itself alone.
* `Value.Whole.eq_of_render_eq`: such a value is told by its text.
-/

import Statechart.Proofs.Json.Spelling

namespace Statechart.Json

open Text

/-- A text is told by its pieces. -/
theorem pieces_injective {first second : String} (same : pieces first = pieces second) :
    first = second := by
  refine Option.some.inj ?_
  rw [← string?_pieces first, same, string?_pieces]

/-- A whole number is told by its literal. -/
theorem literalOf_injective {first second : Int} (same : literalOf first = literalOf second) :
    first = second := by
  have digits : decimal first.natAbs = decimal second.natAbs := congrArg Literal.whole same
  have signs : decide (first < 0) = decide (second < 0) := congrArg Literal.negative same
  have size : first.natAbs = second.natAbs := by
    rw [← natural_decimal first.natAbs, digits, natural_decimal]
  rw [decide_eq_decide] at signs
  omega

namespace Value

/-- All numbers of a value are whole. -/
inductive Whole : Value → Prop
  | null : Whole .null
  | bool (value : Bool) : Whole (.bool value)
  | integer (value : Int) : Whole (.integer value)
  | string (text : String) : Whole (.string text)
  | list {items : List Value} (each : ∀ item ∈ items, Whole item) : Whole (.list items)
  | record {fields : List (String × Value)} (each : ∀ field ∈ fields, Whole field.2) :
      Whole (.record fields)

theorem whole_optionalString (text : Option String) : (optionalString text).Whole := by
  cases text with
  | none => exact .null
  | some text => exact .string text

/-! ### Equality -/

theorem equalItems_iff {items others : List Value}
    (each : ∀ item ∈ items, ∀ other, item.equal other = true ↔ item = other) :
    equalItems items others = true ↔ items = others := by
  induction items generalizing others with
  | nil => cases others <;> simp [equalItems]
  | cons item items ih =>
    cases others with
    | nil => simp [equalItems]
    | cons other others =>
      rw [equalItems, Bool.and_eq_true, each item List.mem_cons_self,
        ih fun item member => each item (List.mem_cons_of_mem _ member), List.cons.injEq]

theorem equalFields_iff {fields others : List (String × Value)}
    (each : ∀ field ∈ fields, ∀ other, field.2.equal other = true ↔ field.2 = other) :
    equalFields fields others = true ↔ fields = others := by
  induction fields generalizing others with
  | nil => cases others <;> simp [equalFields]
  | cons field fields ih =>
    obtain ⟨name, value⟩ := field
    cases others with
    | nil => simp [equalFields]
    | cons other others =>
      obtain ⟨name', value'⟩ := other
      rw [equalFields, Bool.and_eq_true, Bool.and_eq_true, decide_eq_true_eq,
        each (name, value) List.mem_cons_self,
        ih fun field member => each field (List.mem_cons_of_mem _ member), List.cons.injEq,
        Prod.mk.injEq]

/-- **A value with whole numbers is equal to itself alone.** -/
theorem Whole.equal_iff {value other : Value} (whole : value.Whole) :
    value.equal other = true ↔ value = other := by
  induction whole generalizing other with
  | null => cases other <;> simp [equal]
  | bool value => cases other <;> simp [equal]
  | integer value =>
    cases other with
    | number number => cases number <;> simp [equal, Value.integer, Number.equal]
    | _ => simp [equal, Value.integer]
  | string text => cases other <;> simp [equal]
  | list _ ih =>
    cases other with
    | list others => rw [equal, equalItems_iff fun item member _ => ih item member, list.injEq]
    | _ => simp [equal]
  | record _ ih =>
    cases other with
    | record others =>
      rw [equal, equalFields_iff fun field member _ => ih field member, record.injEq]
    | _ => simp [equal]

/-! ### Texts -/

/-- Items that are told by their trees are told by all of them. -/
theorem trees_inj {items others : List Value}
    (each : ∀ item ∈ items, ∀ other ∈ others, item.tree = other.tree → item = other)
    (same : trees items = trees others) : items = others := by
  induction items generalizing others with
  | nil =>
    cases others with
    | nil => rfl
    | cons other others => cases same
  | cons item items ih =>
    cases others with
    | nil => cases same
    | cons other others =>
      rw [trees, trees, List.cons.injEq] at same
      have first := each item List.mem_cons_self other List.mem_cons_self same.1
      have rest := ih (fun item member other member' =>
        each item (List.mem_cons_of_mem _ member) other (List.mem_cons_of_mem _ member')) same.2
      rw [first, rest]

/-- Fields that are told by their trees are told by all of them and their names. -/
theorem treesOfFields_inj {fields others : List (String × Value)}
    (each : ∀ field ∈ fields, ∀ other ∈ others, field.2.tree = other.2.tree →
      field.2 = other.2)
    (same : treesOfFields fields = treesOfFields others) : fields = others := by
  induction fields generalizing others with
  | nil =>
    cases others with
    | nil => rfl
    | cons other others => cases same
  | cons field fields ih =>
    obtain ⟨name, value⟩ := field
    cases others with
    | nil => cases same
    | cons other others =>
      obtain ⟨name', value'⟩ := other
      rw [treesOfFields, treesOfFields, List.cons.injEq, Prod.mk.injEq] at same
      have first : value = value' :=
        each (name, value) List.mem_cons_self (name', value') List.mem_cons_self same.1.2
      have rest := ih (fun field member other member' =>
        each field (List.mem_cons_of_mem _ member) other (List.mem_cons_of_mem _ member')) same.2
      rw [pieces_injective same.1.1, first, rest]

/-- **A value with whole numbers is told by the tree that it spells.** -/
theorem Whole.eq_of_tree_eq {value other : Value} (whole : value.Whole) (whole' : other.Whole)
    (same : value.tree = other.tree) : value = other := by
  induction whole generalizing other with
  | null => cases whole' <;> first | rfl | cases same
  | bool value =>
    cases whole' with
    | bool value' => exact congrArg _ (Tree.bool.inj same)
    | _ => cases same
  | integer value =>
    cases whole' with
    | integer value' => exact congrArg _ (literalOf_injective (Tree.number.inj same))
    | _ => cases same
  | string text =>
    cases whole' with
    | string text' => exact congrArg _ (pieces_injective (Tree.string.inj same))
    | _ => cases same
  | list _ ih =>
    cases whole' with
    | list each' =>
      refine congrArg _ (trees_inj (fun item member other member' => ?_) (Tree.list.inj same))
      exact ih item member (each' other member')
    | _ => cases same
  | record _ ih =>
    cases whole' with
    | record each' =>
      have trees := Tree.record.inj same
      refine congrArg _ (treesOfFields_inj (fun field member other member' => ?_) trees)
      exact ih field member (each' other member')
    | _ => cases same

/-- **A value with whole numbers is told by its text.** -/
theorem Whole.eq_of_render_eq {value other : Value} (whole : value.Whole) (whole' : other.Whole)
    (same : value.render = other.render) : value = other := by
  refine whole.eq_of_tree_eq whole' (Option.some.inj ?_)
  rw [← ofSymbols?_render (spells value), same, ofSymbols?_render (spells other)]

end Value

end Statechart.Json
