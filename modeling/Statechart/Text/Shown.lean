/-
**Values shown on one line.**

A record is shown by its name and its fields, and what may be missing by a word.
-/

import Statechart.Text.Quoted

namespace Statechart.Text

/-- A truth value as a word. -/
def shownTruth (value : Bool) : String := if value then "true" else "false"

/-- Texts in brackets, with commas between them. -/
def shownList (items : List String) : String := "[" ++ String.intercalate ", " items ++ "]"

/-- A record with its fields and what they are shown as. -/
def shownRecord (name : String) (fields : List (String × String)) : String :=
  let shown := fields.map fun (field, value) => field ++ ": " ++ value
  if shown.isEmpty then name
  else name ++ " \x7b " ++ String.intercalate ", " shown ++ " \x7d"

end Statechart.Text
