/-
**Data values.**

The values that payloads and datamodels hold: nothing, truth values, numbers, texts, lists and
records. A record is its list of fields in the order in which it is written; records that are read
from text have their fields in ascending order of name.
-/

import Statechart.Dict
import Statechart.Decimal.Binary64

namespace Statechart.Json

open Decimal

/-- A number, kept apart by whether it was given as a whole number. -/
inductive Number
  | integer (value : Int)
  | float (value : Binary64)
  deriving DecidableEq, Inhabited

/-- Equality of numbers of one kind; the two zeros of the second kind are equal. -/
def Number.equal : Number → Number → Bool
  | .integer first, .integer second => first = second
  | .float first, .float second => first == second
  | _, _ => false

/-- A data value. -/
inductive Value
  | null
  | bool (value : Bool)
  | number (value : Number)
  | string (value : String)
  | list (items : List Value)
  | record (fields : List (String × Value))
  deriving Inhabited

namespace Value

mutual

/-- Equality of values, numbers being compared as numbers. -/
def equal : Value → Value → Bool
  | .null, .null => true
  | .bool first, .bool second => first = second
  | .number first, .number second => first.equal second
  | .string first, .string second => first = second
  | .list first, .list second => equalItems first second
  | .record first, .record second => equalFields first second
  | _, _ => false

/-- Equality of lists of values, place by place. -/
def equalItems : List Value → List Value → Bool
  | [], [] => true
  | first :: firsts, second :: seconds => equal first second && equalItems firsts seconds
  | _, _ => false

/-- Equality of lists of fields, place by place. -/
def equalFields : List (String × Value) → List (String × Value) → Bool
  | [], [] => true
  | (name, first) :: firsts, (name', second) :: seconds =>
    name = name' && equal first second && equalFields firsts seconds
  | _, _ => false

end

instance : BEq Value := ⟨equal⟩

/-- A whole number as a value. -/
def integer (value : Int) : Value := .number (.integer value)

/-- A text that may be missing, nothing standing for a missing one. -/
def optionalString : Option String → Value
  | none => .null
  | some content => .string content

/-- The text that a value is. -/
def string? : Value → Option String
  | .string content => some content
  | _ => none

/-- The natural number below `2 ^ 64` that a value is. -/
def natural? : Value → Option Nat
  | .number (.integer value) => if 0 ≤ value then some value.toNat else none
  | _ => none

/-- The field of a record. -/
def field? (value : Value) (name : String) : Option Value :=
  match value with
  | .record fields => Entries.get? name fields
  | _ => none

/-- A record with its fields in ascending order of name. -/
def ofDict (fields : Dict String Value) : Value := .record fields.entries

mutual

/-- How deep lists and records are nested in a value. -/
def depth : Value → Nat
  | .list items => depthItems items + 1
  | .record fields => depthFields fields + 1
  | _ => 0

/-- The depth of the deepest of several values. -/
def depthItems : List Value → Nat
  | [] => 0
  | item :: items => max (depth item) (depthItems items)

/-- The depth of the deepest of several fields. -/
def depthFields : List (String × Value) → Nat
  | [] => 0
  | (_, value) :: fields => max (depth value) (depthFields fields)

end

end Value

end Statechart.Json
