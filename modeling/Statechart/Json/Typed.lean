/-
**Reading records of known fields.**

A reader takes from a tree what it knows and asks no more of the rest than the grammar. A record is
given by its members in any order, or by its fields in order with some of the last ones left out. A
known field is given once; a member of another name is passed over.
-/

import Statechart.Json.Reading

namespace Statechart.Json

namespace Tree

/-- The text that a tree is. -/
def text? : Tree → Option String
  | .string pieces => Json.string? pieces
  | _ => none

/-- The truth value that a tree is. -/
def truth? : Tree → Option Bool
  | .bool value => some value
  | _ => none

/-- The whole number that a tree is. -/
def whole? : Tree → Option Int
  | .number literal =>
    match literal.number? with
    | some (.integer value) => some value
    | _ => none
  | _ => none

/-- A tree that may be null, read by a reader of what is not. -/
def nullable? {α : Type} (read : Tree → Option α) : Tree → Option (Option α)
  | .null => some none
  | tree => (read tree).map some

/-- A list, each of its items read by a reader. -/
def list? {α : Type} (read : Tree → Option α) : Tree → Option (List α)
  | .list items => items.mapM read
  | _ => none

/-- A list of two items, each with a reader of its own. -/
def pair? {α β : Type} (first : Tree → Option α) (second : Tree → Option β) :
    Tree → Option (α × β)
  | .list [left, right] => do return (← first left, ← second right)
  | _ => none

/-- The members of a record whose values are read by a reader. The last one of a name wins. -/
def dict? {α : Type} (read : Tree → Option α) : Tree → Option (Dict String α)
  | .record members => do
    let entries ← members.mapM fun (pieces, tree) => do
      return (← Json.string? pieces, ← read tree)
    return Dict.ofList entries
  | _ => none

/-- Puts the trees of members at the places of their names. -/
def placeMembers? (names : List String) :
    List (List Piece × Tree) → List (Option Tree) → Option (List (Option Tree))
  | [], fields => some fields
  | (pieces, tree) :: members, fields => do
    let name ← Json.string? pieces
    match names.findIdx? (· = name) with
    | none => placeMembers? names members fields
    | some position =>
      match fields[position]? with
      | some (some _) => none
      | _ => placeMembers? names members (fields.set position (some tree))

/-- The trees at the fields of some names. Given in order, all but the last few are required. -/
def fields? (names : List String) (required : Nat) : Tree → Option (List (Option Tree))
  | .record members => placeMembers? names members (names.map fun _ => none)
  | .list items =>
    if required ≤ items.length ∧ items.length ≤ names.length then
      some (items.map some ++ List.replicate (names.length - items.length) none)
    else none
  | _ => none

/-- What a field holds, or a default if it is left out. -/
def field? {α : Type} (fields : List (Option Tree)) (position : Nat) (read : Tree → Option α)
    (default : Option α) : Option α :=
  match fields[position]? with
  | some (some tree) => read tree
  | _ => default

end Tree

end Statechart.Json
