/-
**Dictionaries in key order.**

A dictionary is a list of entries whose keys ascend strictly, so two dictionaries with the same
entries are the same list and every listing of one is sorted without sorting.

* `get?_insert`: an inserted key answers the new value and every other key what it did before;
* `get?_erase`: an erased key answers nothing and every other key what it did before;
* `ext_get?`: a dictionary is determined by its answers.
-/

namespace Statechart

/-- A relation `<` under which any two different keys are ordered one way. -/
class StrictOrder (κ : Type) [LT κ] : Prop where
  irrefl : ∀ key : κ, ¬ key < key
  trans : ∀ {first second third : κ}, first < second → second < third → first < third
  connected : ∀ {first second : κ}, first ≠ second → ¬ first < second → second < first

instance : StrictOrder Nat where
  irrefl := Nat.lt_irrefl
  trans := Nat.lt_trans
  connected := by omega

instance : StrictOrder String where
  irrefl := String.lt_irrefl
  trans := String.lt_trans
  connected differ notLess :=
    String.not_le.1 fun below => differ (String.le_antisymm below (String.not_lt.1 notLess))

/-- Entries in strictly ascending order of their keys. -/
def Ascending {κ β : Type} [LT κ] (entries : List (κ × β)) : Prop :=
  entries.Pairwise fun first second => first.1 < second.1

namespace Entries

variable {κ β : Type}

/-- The value at a key in a list of entries, the first one if there are several. -/
def get? [DecidableEq κ] (key : κ) : List (κ × β) → Option β
  | [] => none
  | (other, value) :: rest => if other = key then some value else get? key rest

/-- Puts a value at a key, at the key's place in ascending entries. -/
def insert [LT κ] [DecidableEq κ] [DecidableLT κ] (key : κ) (value : β) :
    List (κ × β) → List (κ × β)
  | [] => [(key, value)]
  | (other, old) :: rest =>
    if other = key then (key, value) :: rest
    else if key < other then (key, value) :: (other, old) :: rest
    else (other, old) :: insert key value rest

/-- Removes every entry at a key. -/
def erase [DecidableEq κ] (key : κ) (entries : List (κ × β)) : List (κ × β) :=
  entries.filter fun entry => decide (entry.1 ≠ key)

variable [LT κ] [DecidableEq κ] [DecidableLT κ]

theorem mem_insert {key : κ} {value : β} {entry : κ × β} {entries : List (κ × β)}
    (member : entry ∈ insert key value entries) : entry = (key, value) ∨ entry ∈ entries := by
  induction entries with
  | nil => simpa [insert] using member
  | cons head rest ih =>
    obtain ⟨other, old⟩ := head
    grind [insert]

theorem ascending_insert [StrictOrder κ] (key : κ) (value : β) {entries : List (κ × β)}
    (ascending : Ascending entries) : Ascending (insert key value entries) := by
  induction entries with
  | nil => simp [insert, Ascending]
  | cons head rest ih =>
    obtain ⟨other, old⟩ := head
    obtain ⟨above, ascendingRest⟩ := List.pairwise_cons.1 ascending
    unfold insert
    split
    · next same => subst same; exact List.pairwise_cons.2 ⟨above, ascendingRest⟩
    · next differ =>
      split
      · next less =>
        refine List.pairwise_cons.2 ⟨fun entry member => ?_, ascending⟩
        rcases List.mem_cons.1 member with same | inRest
        · subst same; exact less
        · exact StrictOrder.trans less (above entry inRest)
      · next notLess =>
        refine List.pairwise_cons.2 ⟨fun entry member => ?_, ih ascendingRest⟩
        rcases mem_insert member with same | inRest
        · subst same; exact StrictOrder.connected (Ne.symm differ) notLess
        · exact above entry inRest

omit [LT κ] [DecidableLT κ] in
theorem get?_eq_none {key : κ} {entries : List (κ × β)}
    (absent : ∀ entry ∈ entries, entry.1 ≠ key) :
    get? key entries = none := by
  induction entries with
  | nil => rfl
  | cons head rest ih =>
    obtain ⟨other, old⟩ := head
    have differ : other ≠ key := absent (other, old) (by simp)
    simp only [get?, if_neg differ]
    exact ih fun entry member => absent entry (by simp [member])

theorem get?_insert (key other : κ) (value : β) (entries : List (κ × β)) :
    get? other (insert key value entries) =
      if key = other then some value else get? other entries := by
  induction entries with
  | nil => simp [insert, get?]
  | cons head rest ih =>
    obtain ⟨first, old⟩ := head
    unfold insert
    split
    · next same => subst same; grind [get?]
    · next differ => split <;> grind [get?]

omit [LT κ] [DecidableLT κ] in
theorem get?_erase (key other : κ) (entries : List (κ × β)) :
    get? other (erase key entries) = if key = other then none else get? other entries := by
  induction entries with
  | nil => simp [erase, get?]
  | cons head rest ih =>
    obtain ⟨first, old⟩ := head
    simp only [erase, List.filter_cons] at ih ⊢
    by_cases same : first = key <;> grind [get?]

omit [DecidableLT κ] in
theorem ext_get? [StrictOrder κ] {first second : List (κ × β)} (ascendingFirst : Ascending first)
    (ascendingSecond : Ascending second) (same : ∀ key, get? key first = get? key second) :
    first = second := by
  induction first generalizing second with
  | nil =>
    cases second with
    | nil => rfl
    | cons head rest => simpa [get?] using same head.1
  | cons head rest ih =>
    obtain ⟨key, value⟩ := head
    obtain ⟨above, ascendingRest⟩ := List.pairwise_cons.1 ascendingFirst
    cases second with
    | nil => simpa [get?] using same key
    | cons head' rest' =>
      obtain ⟨key', value'⟩ := head'
      obtain ⟨above', ascendingRest'⟩ := List.pairwise_cons.1 ascendingSecond
      have irrefl := StrictOrder.irrefl (κ := κ)
      have noneBelow : ∀ {low : κ} {entries : List (κ × β)},
          (∀ entry ∈ entries, low < entry.1) → get? low entries = none := fun below =>
        get?_eq_none fun entry member equal => irrefl _ (equal ▸ below entry member)
      have keys : key = key' := by
        by_cases equal : key = key'
        · exact equal
        · exfalso
          by_cases less : key < key'
          · have found := same key
            simp only [get?, if_true, if_neg (Ne.symm equal)] at found
            rw [noneBelow fun entry member => StrictOrder.trans less (above' entry member)] at found
            simp at found
          · have greater := StrictOrder.connected equal less
            have found := same key'
            simp only [get?, if_true, if_neg equal] at found
            rw [noneBelow fun entry member => StrictOrder.trans greater (above entry member)]
              at found
            simp at found
      subst keys
      have values : value = value' := by simpa [get?] using same key
      subst values
      have rests : rest = rest' := ih ascendingRest ascendingRest' fun other => by
        by_cases equal : key = other
        · subst equal; rw [noneBelow above, noneBelow above']
        · simpa [get?, equal] using same other
      rw [rests]

end Entries

/-- A finite map whose entries are kept in ascending order of their keys. -/
structure Dict (κ β : Type) [LT κ] where
  entries : List (κ × β)
  ascending : Ascending entries := by exact List.Pairwise.nil

namespace Dict

variable {κ β γ : Type} [LT κ]

/-- A dictionary is its entries. -/
theorem ext {first second : Dict κ β} (same : first.entries = second.entries) : first = second := by
  cases first; cases second; cases same; rfl

instance [DecidableEq κ] [DecidableEq β] : DecidableEq (Dict κ β) := fun first second =>
  if same : first.entries = second.entries then isTrue (ext same)
  else isFalse fun equal => same (equal ▸ rfl)

instance [BEq κ] [BEq β] : BEq (Dict κ β) := ⟨fun first second => first.entries == second.entries⟩

/-- The dictionary without entries. -/
def empty : Dict κ β := { entries := [] }

instance : EmptyCollection (Dict κ β) := ⟨empty⟩
instance : Inhabited (Dict κ β) := ⟨empty⟩

/-- The keys in ascending order. -/
def keys (dict : Dict κ β) : List κ := dict.entries.map Prod.fst

/-- The values in ascending order of their keys. -/
def values (dict : Dict κ β) : List β := dict.entries.map Prod.snd

/-- The number of entries. -/
def size (dict : Dict κ β) : Nat := dict.entries.length

/-- Whether the dictionary has no entry. -/
def isEmpty (dict : Dict κ β) : Bool := dict.entries.isEmpty

/-- The dictionary with each value changed by a function. -/
def mapValues (change : β → γ) (dict : Dict κ β) : Dict κ γ where
  entries := dict.entries.map fun entry => (entry.1, change entry.2)
  ascending := by
    have ascending := dict.ascending
    unfold Ascending at ascending ⊢
    exact List.pairwise_map.2 ascending

variable [DecidableEq κ]

/-- The value at a key. -/
def get? (dict : Dict κ β) (key : κ) : Option β := Entries.get? key dict.entries

/-- Whether a key has a value. -/
def contains (dict : Dict κ β) (key : κ) : Bool := (dict.get? key).isSome

/-- The dictionary without a key. -/
def erase (dict : Dict κ β) (key : κ) : Dict κ β where
  entries := Entries.erase key dict.entries
  ascending := dict.ascending.filter _

@[simp] theorem get?_erase (dict : Dict κ β) (key other : κ) :
    (dict.erase key).get? other = if key = other then none else dict.get? other :=
  Entries.get?_erase key other dict.entries

@[simp] theorem get?_empty (key : κ) : (empty : Dict κ β).get? key = none := rfl

variable [StrictOrder κ]

/-- Dictionaries that answer every key alike are equal. -/
theorem ext_get? {first second : Dict κ β} (same : ∀ key, first.get? key = second.get? key) :
    first = second :=
  ext (Entries.ext_get? first.ascending second.ascending same)

variable [DecidableLT κ]

/-- The dictionary with a value at a key, in place of the old one. -/
def insert (dict : Dict κ β) (key : κ) (value : β) : Dict κ β where
  entries := Entries.insert key value dict.entries
  ascending := Entries.ascending_insert key value dict.ascending

/-- The dictionary with a value at a key unless the key has one. -/
def insertNew (dict : Dict κ β) (key : κ) (value : β) : Dict κ β :=
  if dict.contains key then dict else dict.insert key value

/-- The entries of a list, the last one winning at each key. -/
def ofList (entries : List (κ × β)) : Dict κ β :=
  entries.foldl (fun dict entry => dict.insert entry.1 entry.2) empty

@[simp] theorem get?_insert (dict : Dict κ β) (key other : κ) (value : β) :
    (dict.insert key value).get? other = if key = other then some value else dict.get? other :=
  Entries.get?_insert key other value dict.entries

end Dict

end Statechart
