/-
**Data as they can be.**

A whole number among data fits 64 bits with a sign or without, any other number is finite, and a
record has its fields in order. Whatever is read from a text is of this kind, and all numbers of
this kind are read again when they are printed. So only the depth of such a value may hinder its
reading.

* `Number.Proper`, `Value.Proper`: numbers and values of this kind.
* `Value.proper_of_parseWithin?`: what is read from a text.
* `Value.Proper.isSome_iff`: when a printed value is read at all.
-/

import Statechart.Proofs.Json.Depth
import Statechart.Proofs.Json.Doubles

namespace Statechart.Json

open Decimal Text

/-! ### Numbers -/

/-- A number that data can have. -/
def Number.Proper : Number → Prop
  | .integer value => -(Nat.pow 2 63 : Int) ≤ value ∧ value ≤ Literal.wordMax
  | .float value => value.isFinite

/-- A number that data can have is read when it is printed. -/
theorem Number.Proper.isSome_number? {number : Number} (proper : number.Proper) :
    number.literal.number?.isSome := by
  cases number with
  | integer value =>
    have read : (literalOf value).number? = some (.integer value) :=
      (number?_literalOf_eq value).trans (if_pos proper)
    exact read ▸ rfl
  | float value => exact isSome_number?_pointedLiteral proper

/-- **The number of a literal is one that data can have.** -/
theorem Literal.proper_of_number? {literal : Literal} {number : Number}
    (read : literal.number? = some number) : number.Proper := by
  have word : wordMax = 18446744073709551615 := rfl
  have half : Nat.pow 2 63 = 9223372036854775808 := rfl
  unfold number? at read
  dsimp only at read
  split at read
  · next plain =>
    cases read
    have fits : natural literal.whole ≤ wordMax :=
      of_decide_eq_true (Bool.and_eq_true_iff.1 plain).2
    exact ⟨by omega, by exact_mod_cast fits⟩
  · split at read
    · next plain =>
      cases read
      have fits : natural literal.whole ≤ Nat.pow 2 63 :=
        of_decide_eq_true (Bool.and_eq_true_iff.1 plain).2
      exact ⟨by omega, by omega⟩
    · obtain ⟨double, found, rfl⟩ := Option.map_eq_some_iff.1 read
      exact isFinite_of_float? found

/-! ### Values -/

namespace Value

/-- A value that data can have. -/
abbrev Proper (value : Value) : Prop := value.Sound Number.Proper

/-- **A value is read again exactly if it is nested no deeper**, whatever it is. -/
theorem Proper.isSome_iff {value : Value} (proper : value.Proper) (levels : Nat) :
    (value.tree.toValue? levels).isSome ↔ value.depth ≤ levels :=
  (proper.imp fun _ fits => fits.isSome_number?).isSome_iff levels

theorem Proper.ofDict {fields : Dict String Value} (each : ∀ value ∈ fields.values, value.Proper) :
    (Value.ofDict fields).Proper :=
  .record fields.ascending fun _ member => each _ (List.mem_map_of_mem member)

end Value

/-! ### Trees -/

mutual

/-- **The value of a tree is one that data can have.** -/
theorem Tree.proper_of_toValue? : (tree : Tree) → {levels : Nat} → {value : Value} →
    tree.toValue? levels = some value → value.Proper
  | .null, _, _, read => by
    cases read
    exact .null
  | .bool _, _, _, read => by
    cases read
    exact .bool _
  | .number literal, _, _, read => by
    obtain ⟨number, found, rfl⟩ := Option.map_eq_some_iff.1 read
    exact .number (Literal.proper_of_number? found)
  | .string pieces, _, _, read => by
    obtain ⟨text, -, rfl⟩ := Option.map_eq_some_iff.1 read
    exact .string text
  | .list items, levels, _, read => by
    cases levels with
    | zero => cases read
    | succ levels =>
      obtain ⟨values, found, rfl⟩ := Option.map_eq_some_iff.1 read
      exact .list (Tree.proper_of_toItems? items found)
  | .record members, levels, _, read => by
    cases levels with
    | zero => cases read
    | succ levels =>
      obtain ⟨fields, found, rfl⟩ := Option.map_eq_some_iff.1 read
      exact .ofDict (Dict.forall_values_foldl (Tree.proper_of_toFields? members found)
        fun value member => nomatch member)

theorem Tree.proper_of_toItems? : (items : List Tree) → {levels : Nat} → {values : List Value} →
    Tree.toItems? levels items = some values → ∀ value ∈ values, value.Proper
  | [], _, _, read => by
    cases read
    exact fun value member => nomatch member
  | item :: items, _, _, read => by
    obtain ⟨first, here, read⟩ := Option.bind_eq_some_iff.1 read
    obtain ⟨later, rest, read⟩ := Option.bind_eq_some_iff.1 read
    cases read
    exact List.forall_mem_cons.2
      ⟨Tree.proper_of_toValue? item here, Tree.proper_of_toItems? items rest⟩

theorem Tree.proper_of_toFields? : (members : List (List Piece × Tree)) → {levels : Nat} →
    {fields : List (String × Value)} → Tree.toFields? levels members = some fields →
      ∀ field ∈ fields, field.2.Proper
  | [], _, _, read => by
    cases read
    exact fun field member => nomatch member
  | (_, member) :: members, _, _, read => by
    obtain ⟨name, -, read⟩ := Option.bind_eq_some_iff.1 read
    obtain ⟨first, here, read⟩ := Option.bind_eq_some_iff.1 read
    obtain ⟨later, rest, read⟩ := Option.bind_eq_some_iff.1 read
    cases read
    exact List.forall_mem_cons.2
      ⟨Tree.proper_of_toValue? member here, Tree.proper_of_toFields? members rest⟩

end

/-- **What is read from a text is a value that data can have.** -/
theorem Value.proper_of_parseWithin? {levels : Nat} {text : String} {value : Value}
    (read : parseWithin? levels text = some value) : value.Proper := by
  obtain ⟨tree, -, read⟩ := Option.bind_eq_some_iff.1 read
  exact tree.proper_of_toValue? read

end Statechart.Json
