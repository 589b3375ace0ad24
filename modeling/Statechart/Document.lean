/-
**Documents.**

A document is what a description's text says before it is taken to describe anything: scalars,
lists, and records whose keys may be documents again and may repeat. Texts of more than one format
give documents.
-/

import Statechart.Json.Reading
import Statechart.Decimal.Layout

namespace Statechart

open Json Decimal

/-- What a text says, before it is taken to describe anything. -/
inductive Document
  | null
  | bool (value : Bool)
  | number (value : Number)
  | string (value : String)
  | list (items : List Document)
  | record (entries : List (Document × Document))
  deriving Inhabited

namespace Document

mutual

/-- The document of a data text that nests no deeper than so many levels. -/
def ofTree? (levels : Nat) : Tree → Option Document
  | .null => some .null
  | .bool value => some (.bool value)
  | .number literal => literal.number?.map .number
  | .string pieces => (string? pieces).map .string
  | .list items =>
    match levels with
    | 0 => none
    | levels + 1 => (ofTrees? levels items).map .list
  | .record members =>
    match levels with
    | 0 => none
    | levels + 1 => (ofMembers? levels members).map .record

/-- The documents of several trees. -/
def ofTrees? (levels : Nat) : List Tree → Option (List Document)
  | [] => some []
  | item :: items => do
    let document ← ofTree? levels item
    let documents ← ofTrees? levels items
    return document :: documents

/-- The entries of several members. -/
def ofMembers? (levels : Nat) : List (List Piece × Tree) → Option (List (Document × Document))
  | [] => some []
  | (pieces, member) :: members => do
    let name ← string? pieces
    let document ← ofTree? levels member
    let entries ← ofMembers? levels members
    return (.string name, document) :: entries

end

mutual

/-- The document of a value. -/
def ofValue : Value → Document
  | .null => .null
  | .bool value => .bool value
  | .number value => .number value
  | .string value => .string value
  | .list items => .list (ofItems items)
  | .record fields => .record (ofFields fields)

/-- The documents of several values. -/
def ofItems : List Value → List Document
  | [] => []
  | item :: items => ofValue item :: ofItems items

/-- The entries of several fields. -/
def ofFields : List (String × Value) → List (Document × Document)
  | [] => []
  | (name, value) :: fields => (.string name, ofValue value) :: ofFields fields

end

/-- A number as a value, in which what is not finite has no place. -/
def numberValue : Number → Value
  | .integer value => .number (.integer value)
  | .float value => if value.isFinite then .number (.float value) else .null

mutual

/-- The value of a document whose records have texts as keys. The last entry of a key wins. -/
def toValue? : Document → Option Value
  | .null => some .null
  | .bool value => some (.bool value)
  | .number value => some (numberValue value)
  | .string value => some (.string value)
  | .list items => (toValues? items).map .list
  | .record entries => (toFields? entries).map fun fields => .ofDict (Dict.ofList fields)

/-- The values of several documents. -/
def toValues? : List Document → Option (List Value)
  | [] => some []
  | item :: items => do
    let value ← toValue? item
    let values ← toValues? items
    return value :: values

/-- The fields of several entries. -/
def toFields? : List (Document × Document) → Option (List (String × Value))
  | [] => some []
  | (.string name, item) :: entries => do
    let value ← toValue? item
    let fields ← toFields? entries
    return (name, value) :: fields
  | _ :: _ => none

end

/-- The name that a scalar gives: a text as it is, a number or a truth value as it is written. -/
def name? : Document → Option String
  | .string value => some value
  | .bool value => some (if value then "true" else "false")
  | .number (.integer value) => some (toString value)
  | .number (.float value) => some (nameText value)
  | _ => none

/-- The text of a document. -/
def string? : Document → Option String
  | .string value => some value
  | _ => none

/-- The truth value of a document. -/
def bool? : Document → Option Bool
  | .bool value => some value
  | _ => none

/-- The items of a document. -/
def list? : Document → Option (List Document)
  | .list items => some items
  | _ => none

/-- A document that may be null, read by a reader of what is not. -/
def nullable? {α : Type} (read : Document → Option α) : Document → Option (Option α)
  | .null => some none
  | document => (read document).map some

/-! ### Records with known fields -/

/-- The position of the field that a key names: by one of its names, or by its position. A key of
another kind names nothing and spoils the record; a name or number of no field is `none`. -/
def fieldPosition? (names : List (List String)) : Document → Option (Option Nat)
  | .string name => some (names.findIdx? fun aliases => aliases.contains name)
  | .number (.integer position) =>
    if position < 0 then none
    else some (if position.toNat < names.length then some position.toNat else none)
  | _ => none

/-- Puts the documents of entries at the positions of their fields. A field is given once. -/
def placeEntries? (names : List (List String)) :
    List (Document × Document) → List (Option Document) → Option (List (Option Document))
  | [], fields => some fields
  | (key, document) :: entries, fields => do
    match ← fieldPosition? names key with
    | none => placeEntries? names entries fields
    | some position =>
      match fields[position]? with
      | some (some _) => none
      | _ => placeEntries? names entries (fields.set position (some document))

/-- The documents at the known fields of a record, each field having several names. A record is
given by its entries, or by its fields in order with the last ones left out. -/
def fields? (names : List (List String)) : Document → Option (List (Option Document))
  | .record entries => placeEntries? names entries (names.map fun _ => none)
  | .list items =>
    if items.length ≤ names.length then
      some (items.map some ++ List.replicate (names.length - items.length) none)
    else none
  | _ => none

/-- What a field holds, or a default if it is left out. -/
def field? {α : Type} (fields : List (Option Document)) (position : Nat)
    (read : Document → Option α) (default : α) : Option α :=
  match fields[position]? with
  | some (some document) => read document
  | _ => some default

end Document

end Statechart
