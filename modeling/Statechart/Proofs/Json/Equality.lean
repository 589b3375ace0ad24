/-
**Equality of values.**

Values are equal if they are built alike of equal numbers, texts and truth values. The two zeros are
equal, and what is no number equals nothing, so equal values need not be the same, and a value need
not equal itself.

* `Value.equal_trans`: what is equal to an equal value is equal.
-/

import Statechart.Json.Value

namespace Statechart

open Decimal

theorem Decimal.Binary64.equal_trans {first second third : Binary64}
    (before : first.equal second = true) (after : second.equal third = true) :
    first.equal third = true := by
  unfold equal at before after ⊢
  rw [Bool.or_eq_true, Bool.and_eq_true, Bool.and_eq_true, beq_iff_eq] at before after ⊢
  rcases before with ⟨zero, zero'⟩ | ⟨same, number⟩
  · rcases after with ⟨-, zero''⟩ | ⟨same', -⟩
    · exact .inl ⟨zero, zero''⟩
    · refine .inl ⟨zero, ?_⟩
      cases second
      cases third
      cases same'
      exact zero'
  · cases first
    cases second
    cases same
    exact after

namespace Json

theorem Number.equal_trans {first second third : Number} (before : first.equal second = true)
    (after : second.equal third = true) : first.equal third = true := by
  cases first <;> cases second <;> cases third <;> first | cases before | cases after | skip
  · exact decide_eq_true ((of_decide_eq_true before).trans (of_decide_eq_true after))
  · exact Binary64.equal_trans before after

namespace Value

mutual

/-- **What is equal to an equal value is equal.** -/
theorem equal_trans : ∀ {first second third : Value}, first.equal second = true →
    second.equal third = true → first.equal third = true
  | .null, .null, _, _, after => after
  | .bool _, .bool _, .bool _, before, after =>
    decide_eq_true ((of_decide_eq_true before).trans (of_decide_eq_true after))
  | .number _, .number _, .number _, before, after => Number.equal_trans before after
  | .string _, .string _, .string _, before, after =>
    decide_eq_true ((of_decide_eq_true before).trans (of_decide_eq_true after))
  | .list _, .list _, .list _, before, after => equalItems_trans before after
  | .record _, .record _, .record _, before, after => equalFields_trans before after

theorem equalItems_trans : ∀ {first second third : List Value}, equalItems first second = true →
    equalItems second third = true → equalItems first third = true
  | [], [], _, _, after => after
  | first :: firsts, second :: seconds, third :: thirds, before, after => by
    rw [equalItems, Bool.and_eq_true] at before after ⊢
    exact ⟨equal_trans before.1 after.1, equalItems_trans before.2 after.2⟩

theorem equalFields_trans : ∀ {first second third : List (String × Value)},
    equalFields first second = true → equalFields second third = true →
      equalFields first third = true
  | [], [], _, _, after => after
  | (name, first) :: firsts, (name', second) :: seconds, (name'', third) :: thirds, before,
    after => by
    rw [equalFields, Bool.and_eq_true, Bool.and_eq_true, decide_eq_true_eq] at before after ⊢
    obtain ⟨⟨named, value⟩, rest⟩ := before
    obtain ⟨⟨named', value'⟩, rest'⟩ := after
    exact ⟨⟨named.trans named', equal_trans value value'⟩, equalFields_trans rest rest'⟩

end

end Value

end Json

end Statechart
