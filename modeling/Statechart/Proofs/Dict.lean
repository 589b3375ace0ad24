/-
**Dictionaries of lists.**

Entries without repeated keys answer as the dictionary that is made of them does, and a dictionary
is the one of its entries.

* `Dict.get?_ofList`: the dictionary of a list without repeated keys answers as the list.
* `Dict.ofList_entries`: a dictionary is the one of its entries.
* `Dict.forall_values_foldl`: what holds of the values when entries are inserted.
-/

import Statechart.Dict

namespace Statechart

namespace Entries

variable {κ β : Type} [DecidableEq κ]

/-- The first of two lists that has a key answers. -/
theorem get?_append (key : κ) (first second : List (κ × β)) :
    get? key (first ++ second) = (get? key first).or (get? key second) := by
  induction first with
  | nil => rfl
  | cons entry first ih =>
    obtain ⟨other, value⟩ := entry
    rw [List.cons_append, get?, get?]
    split
    · rfl
    · exact ih

/-- An entry of a list without repeated keys is answered. -/
theorem get?_of_mem {key : κ} {value : β} {entries : List (κ × β)}
    (distinct : (entries.map Prod.fst).Nodup) (member : (key, value) ∈ entries) :
    get? key entries = some value := by
  induction entries with
  | nil => cases member
  | cons entry entries ih =>
    obtain ⟨other, old⟩ := entry
    rw [List.map_cons, List.nodup_cons] at distinct
    rcases List.mem_cons.1 member with same | later
    · cases same
      rw [get?, if_pos rfl]
    · have differ : other ≠ key := by
        rintro rfl
        exact distinct.1 (List.mem_map.2 ⟨(other, value), later, rfl⟩)
      rw [get?, if_neg differ, ih distinct.2 later]

/-- Entries whose values are changed answer with the changed values. -/
theorem get?_map_values {γ : Type} (key : κ) (change : β → γ) (entries : List (κ × β)) :
    get? key (entries.map fun entry => (entry.1, change entry.2)) =
      (get? key entries).map change := by
  induction entries with
  | nil => rfl
  | cons entry entries ih =>
    obtain ⟨other, value⟩ := entry
    rw [List.map_cons, get?, get?]
    split
    · rfl
    · exact ih

/-- What is answered is the value of an entry. -/
theorem mem_of_get? {key : κ} {value : β} {entries : List (κ × β)}
    (found : get? key entries = some value) : (key, value) ∈ entries := by
  induction entries with
  | nil => cases found
  | cons entry entries ih =>
    obtain ⟨other, old⟩ := entry
    rw [get?] at found
    split at found
    · next same =>
      cases found
      rw [same]
      exact List.mem_cons_self
    · exact List.mem_cons_of_mem _ (ih found)

end Entries

namespace Dict

variable {κ β : Type} [LT κ] [StrictOrder κ]

/-- The keys of a dictionary are distinct. -/
theorem nodup_keys (dict : Dict κ β) : (dict.entries.map Prod.fst).Nodup := by
  rw [List.Nodup, List.pairwise_map]
  refine dict.ascending.imp fun {first second} less same => ?_
  rw [same] at less
  exact StrictOrder.irrefl _ less

variable [DecidableEq κ] [DecidableLT κ]

/-- A new value is answered where there was none. -/
theorem get?_insertNew (dict : Dict κ β) (key other : κ) (value : β) :
    (dict.insertNew key value).get? other =
      if key = other then some ((dict.get? key).getD value) else dict.get? other := by
  unfold insertNew contains
  cases known : dict.get? key with
  | none =>
    rw [Option.isSome_none, if_neg Bool.false_ne_true, get?_insert]
    rfl
  | some old =>
    rw [Option.isSome_some, if_pos rfl]
    split
    · next same =>
      rw [← same, known]
      rfl
    · rfl

/-- A key that is not among some entries answers as before they are inserted. -/
theorem get?_foldl_insert_of_notMem {key : κ} {entries : List (κ × β)}
    (absent : key ∉ entries.map Prod.fst) (dict : Dict κ β) :
    (entries.foldl (fun dict entry => dict.insert entry.1 entry.2) dict).get? key =
      dict.get? key := by
  induction entries generalizing dict with
  | nil => rfl
  | cons entry rest ih =>
    rw [List.map_cons, List.mem_cons, not_or] at absent
    rw [List.foldl_cons, ih absent.2, get?_insert, if_neg (Ne.symm absent.1)]

/-- What the dictionary of a list answers is an entry of the list. -/
theorem mem_of_get?_ofList {key : κ} {value : β} {entries : List (κ × β)}
    (found : (ofList entries).get? key = some value) : (key, value) ∈ entries := by
  have among : ∀ dict : Dict κ β,
      (entries.foldl (fun dict entry => dict.insert entry.1 entry.2) dict).get? key = some value →
        (key, value) ∈ entries ∨ dict.get? key = some value := by
    clear found
    induction entries with
    | nil => exact fun dict found => .inr found
    | cons entry rest ih =>
      intro dict found
      rw [List.foldl_cons] at found
      rcases ih _ found with later | earlier
      · exact .inl (List.mem_cons_of_mem _ later)
      · rw [get?_insert] at earlier
        split at earlier
        · next same =>
          cases earlier
          rw [← same]
          exact .inl List.mem_cons_self
        · exact .inr earlier
  rcases among empty found with member | nothing
  · exact member
  · cases nothing

/-- An entry of a list without repeated keys is answered by the dictionary of the list. -/
theorem get?_ofList_of_mem {key : κ} {value : β} {entries : List (κ × β)}
    (distinct : (entries.map Prod.fst).Nodup) (member : (key, value) ∈ entries) :
    (ofList entries).get? key = some value := by
  unfold ofList
  generalize (empty : Dict κ β) = dict
  induction entries generalizing dict with
  | nil => cases member
  | cons entry rest ih =>
    rw [List.map_cons, List.nodup_cons] at distinct
    rw [List.foldl_cons]
    rcases List.mem_cons.1 member with rfl | later
    · rw [get?_foldl_insert_of_notMem distinct.1, get?_insert, if_pos rfl]
    · exact ih distinct.2 later _

/-- **The dictionary of a list without repeated keys answers as the list.** -/
theorem get?_ofList {entries : List (κ × β)} (distinct : (entries.map Prod.fst).Nodup) (key : κ) :
    (ofList entries).get? key = Entries.get? key entries := by
  by_cases known : ∃ value, (key, value) ∈ entries
  · obtain ⟨value, member⟩ := known
    rw [get?_ofList_of_mem distinct member, Entries.get?_of_mem distinct member]
  · have absent : ∀ entry ∈ entries, entry.1 ≠ key := by
      rintro ⟨other, value⟩ member rfl
      exact known ⟨value, member⟩
    rw [Entries.get?_eq_none absent]
    refine get?_foldl_insert_of_notMem (fun member => ?_) empty
    obtain ⟨entry, member, same⟩ := List.mem_map.1 member
    exact absent entry member same

/-- **A dictionary is the one of its entries.** -/
theorem ofList_entries (dict : Dict κ β) : ofList dict.entries = dict :=
  ext_get? fun key => get?_ofList dict.nodup_keys key

/-! ### Keys and values -/

omit [StrictOrder κ] [DecidableLT κ] in
/-- What is answered is a value. -/
theorem mem_values_of_get? {dict : Dict κ β} {key : κ} {value : β}
    (found : dict.get? key = some value) : value ∈ dict.values :=
  List.mem_map_of_mem (Entries.mem_of_get? found)

omit [DecidableLT κ] in
/-- The keys of a dictionary are what it answers for. -/
theorem mem_keys_iff {dict : Dict κ β} {key : κ} :
    key ∈ dict.keys ↔ ∃ value, dict.get? key = some value := by
  constructor
  · intro member
    obtain ⟨entry, among, rfl⟩ := List.mem_map.1 member
    exact ⟨entry.2, Entries.get?_of_mem dict.nodup_keys among⟩
  · rintro ⟨value, found⟩
    exact List.mem_map_of_mem (Entries.mem_of_get? found)

/-- The values after an insertion are the new one and some of the old ones. -/
theorem mem_values_insert {dict : Dict κ β} {key : κ} {new value : β}
    (member : value ∈ (dict.insert key new).values) : value = new ∨ value ∈ dict.values := by
  obtain ⟨entry, among, rfl⟩ := List.mem_map.1 member
  rcases Entries.mem_insert among with rfl | old
  · exact .inl rfl
  · exact .inr (List.mem_map_of_mem old)

omit [StrictOrder κ] [DecidableLT κ] in
theorem mem_values_erase {dict : Dict κ β} {key : κ} {value : β}
    (member : value ∈ (dict.erase key).values) : value ∈ dict.values := by
  obtain ⟨entry, among, rfl⟩ := List.mem_map.1 member
  exact List.mem_map_of_mem (List.mem_filter.1 among).1

/-- What holds of the values of a dictionary and of the second parts of some entries holds of the
values after these are inserted. -/
theorem forall_values_foldl {holds : β → Prop} {entries : List (κ × β)}
    (each : ∀ entry ∈ entries, holds entry.2) {dict : Dict κ β}
    (before : ∀ value ∈ dict.values, holds value) :
    ∀ value ∈ (entries.foldl (fun dict entry => dict.insert entry.1 entry.2) dict).values,
      holds value := by
  induction entries generalizing dict with
  | nil => exact before
  | cons entry rest ih =>
    refine ih (fun other member => each other (List.mem_cons_of_mem _ member)) ?_
    intro value member
    rcases mem_values_insert member with rfl | old
    · exact each entry List.mem_cons_self
    · exact before value old

end Dict

end Statechart
