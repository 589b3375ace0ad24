/-
**The data of descriptions.**

The data of a description are read from its text, whatever the format: from the document of a data
text, or from the elements of a marked-up one, each of which holds a data text of its own. So they
are values that data can have.

* `Datamodel.Proper`: data of such values, which changes of a few kinds keep.
* `Document.Proper.of_toValue?`: the value of a document that was read.
* `Description.Written`: a description that was read from a text.
* `Description.Written.proper`: its data.
-/

import Statechart.Description.Reading
import Statechart.Description.Markup
import Statechart.Proofs.Json.Proper

namespace Statechart

open Json Text

/-! ### Data -/

/-- Data that a machine can have. -/
def Datamodel.Proper (datamodel : Datamodel) : Prop := ∀ value ∈ datamodel.values, value.Proper

namespace Datamodel.Proper

variable {datamodel : Datamodel}

theorem empty : Datamodel.Proper ∅ := List.forall_mem_nil _

theorem ofList {fields : List (String × Value)} (each : ∀ field ∈ fields, field.2.Proper) :
    Datamodel.Proper (Dict.ofList fields) :=
  Dict.forall_values_foldl each empty

theorem insert (proper : datamodel.Proper) (name : String) {value : Value} (fits : value.Proper) :
    Datamodel.Proper (datamodel.insert name value) := by
  intro other member
  rcases Dict.mem_values_insert member with rfl | old
  · exact fits
  · exact proper other old

theorem erase (proper : datamodel.Proper) (name : String) :
    Datamodel.Proper (datamodel.erase name) :=
  fun value member => proper value (Dict.mem_values_erase member)

/-- **A payload keeps data proper.** -/
theorem merge (proper : datamodel.Proper) {payload : Value} (fits : payload.Proper) :
    (datamodel.merge payload).Proper := by
  cases fits with
  | @record fields ascending each =>
    unfold Datamodel.merge
    dsimp only
    clear ascending
    induction fields generalizing datamodel with
    | nil => exact proper
    | cons field fields ih =>
      have here := each field List.mem_cons_self
      refine ih ?_ fun other member => each other (List.mem_cons_of_mem _ member)
      dsimp only
      split
      · exact proper
      · exact proper.insert field.1 here
  | _ => exact proper

/-- **Changes that spare the owner keep data proper.** -/
theorem keepOwner (proper : datamodel.Proper) {changed : Datamodel} (fits : changed.Proper) :
    (datamodel.keepOwner changed).Proper := by
  unfold Datamodel.keepOwner
  split
  · exact fits
  · cases found : Dict.get? datamodel ownerKey with
    | none => exact fits.erase ownerKey
    | some owner => exact fits.insert ownerKey (proper owner (Dict.mem_values_of_get? found))

end Datamodel.Proper

/-! ### Documents -/

namespace Document

/-- A document with numbers that data can have. -/
inductive Proper : Document → Prop
  | null : Proper .null
  | bool (value : Bool) : Proper (.bool value)
  | number {number : Number} (fits : number.Proper) : Proper (.number number)
  | string (text : String) : Proper (.string text)
  | list {items : List Document} (each : ∀ item ∈ items, Proper item) : Proper (.list items)
  | record {entries : List (Document × Document)} (each : ∀ entry ∈ entries, Proper entry.2) :
      Proper (.record entries)

mutual

/-- **The document of a tree has numbers that data can have.** -/
theorem proper_of_ofTree? : (tree : Tree) → {levels : Nat} → {document : Document} →
    ofTree? levels tree = some document → document.Proper
  | .null, _, _, read => by
    cases read
    exact .null
  | .bool _, _, _, read => by
    cases read
    exact .bool _
  | .number literal, _, _, read => by
    obtain ⟨number, found, rfl⟩ := Option.map_eq_some_iff.1 read
    exact .number (Literal.proper_of_number? found)
  | .string pieces, _, _, read => by
    obtain ⟨text, -, rfl⟩ := Option.map_eq_some_iff.1 read
    exact .string text
  | .list items, levels, _, read => by
    cases levels with
    | zero => cases read
    | succ levels =>
      obtain ⟨documents, found, rfl⟩ := Option.map_eq_some_iff.1 read
      exact .list (proper_of_ofTrees? items found)
  | .record members, levels, _, read => by
    cases levels with
    | zero => cases read
    | succ levels =>
      obtain ⟨entries, found, rfl⟩ := Option.map_eq_some_iff.1 read
      exact .record (proper_of_ofMembers? members found)

theorem proper_of_ofTrees? : (items : List Tree) → {levels : Nat} → {documents : List Document} →
    ofTrees? levels items = some documents → ∀ document ∈ documents, document.Proper
  | [], _, _, read => by
    cases read
    exact List.forall_mem_nil _
  | item :: items, _, _, read => by
    obtain ⟨first, here, read⟩ := Option.bind_eq_some_iff.1 read
    obtain ⟨later, rest, read⟩ := Option.bind_eq_some_iff.1 read
    cases read
    exact List.forall_mem_cons.2 ⟨proper_of_ofTree? item here, proper_of_ofTrees? items rest⟩

theorem proper_of_ofMembers? : (members : List (List Piece × Tree)) → {levels : Nat} →
    {entries : List (Document × Document)} → ofMembers? levels members = some entries →
      ∀ entry ∈ entries, entry.2.Proper
  | [], _, _, read => by
    cases read
    exact List.forall_mem_nil _
  | (_, member) :: members, _, _, read => by
    obtain ⟨name, -, read⟩ := Option.bind_eq_some_iff.1 read
    obtain ⟨first, here, read⟩ := Option.bind_eq_some_iff.1 read
    obtain ⟨later, rest, read⟩ := Option.bind_eq_some_iff.1 read
    cases read
    exact List.forall_mem_cons.2 ⟨proper_of_ofTree? member here, proper_of_ofMembers? members rest⟩

end

/-! ### Values of documents -/

theorem toValues?_eq (items : List Document) : toValues? items = items.mapM toValue? := by
  induction items with
  | nil => rfl
  | cons item items ih =>
    rw [toValues?, ih, List.mapM_cons]

theorem exists_of_toFields? {entries : List (Document × Document)} {fields : List (String × Value)}
    (read : toFields? entries = some fields) :
    ∀ field ∈ fields, ∃ entry ∈ entries, entry.2.toValue? = some field.2 := by
  induction entries generalizing fields with
  | nil =>
    cases read
    exact List.forall_mem_nil _
  | cons entry entries ih =>
    obtain ⟨key, item⟩ := entry
    cases key with
    | string name =>
      obtain ⟨first, here, read⟩ := Option.bind_eq_some_iff.1 read
      obtain ⟨later, rest, read⟩ := Option.bind_eq_some_iff.1 read
      cases read
      refine List.forall_mem_cons.2
        ⟨⟨(.string name, item), List.mem_cons_self, here⟩, fun field member => ?_⟩
      obtain ⟨other, among, found⟩ := ih rest field member
      exact ⟨other, List.mem_cons_of_mem _ among, found⟩
    | _ => cases read

/-- **The value of a document is one that data can have.** -/
theorem Proper.of_toValue? {document : Document} (proper : document.Proper) {value : Value}
    (read : document.toValue? = some value) : value.Proper := by
  induction proper generalizing value with
  | null =>
    cases read
    exact .null
  | bool truth =>
    cases read
    exact .bool truth
  | @number number fits =>
    cases read
    cases number with
    | integer whole => exact .number fits
    | float double =>
      have finite : numberValue (.float double) = .number (.float double) := if_pos fits
      rw [finite]
      exact .number fits
  | string text =>
    cases read
    exact .string text
  | list _ ih =>
    obtain ⟨values, found, rfl⟩ := Option.map_eq_some_iff.1 read
    refine .list fun value member => ?_
    rw [toValues?_eq] at found
    obtain ⟨item, among, given⟩ := Tree.exists_of_mapM found value member
    exact ih item among given
  | record _ ih =>
    obtain ⟨fields, found, rfl⟩ := Option.map_eq_some_iff.1 read
    refine .ofDict (Datamodel.Proper.ofList fun field member => ?_)
    obtain ⟨entry, among, given⟩ := exists_of_toFields? found field member
    exact ih entry among given

/-! ### Fields of documents -/

/-- What stands at a field after entries are placed stood there before or is one of the entries. -/
theorem mem_of_placeEntries? {names : List (List String)} {entries : List (Document × Document)}
    {before after : List (Option Document)}
    (placed : placeEntries? names entries before = some after) {document : Document}
    (member : some document ∈ after) :
    some document ∈ before ∨ ∃ entry ∈ entries, entry.2 = document := by
  induction entries generalizing before with
  | nil =>
    cases placed
    exact .inl member
  | cons entry entries ih =>
    obtain ⟨key, item⟩ := entry
    have later : ∀ {before : List (Option Document)},
        placeEntries? names entries before = some after → some document ∈ before ∨
          ∃ entry ∈ (key, item) :: entries, entry.2 = document := by
      intro before placed
      refine (ih placed).imp_right fun ⟨entry, among, same⟩ => ?_
      exact ⟨entry, List.mem_cons_of_mem _ among, same⟩
    obtain ⟨position?, -, placed⟩ := Option.bind_eq_some_iff.1 placed
    cases position? with
    | none => exact later placed
    | some position =>
      dsimp only at placed
      split at placed
      · cases placed
      · rcases later placed with among | other
        · rcases List.mem_or_eq_of_mem_set among with old | same
          · exact .inl old
          · exact .inr ⟨(key, item), List.mem_cons_self, (Option.some.inj same).symm⟩
        · exact .inr other

/-- The fields of a document are parts of it. -/
theorem Proper.of_fields? {document : Document} (proper : document.Proper)
    {names : List (List String)} {fields : List (Option Document)}
    (read : document.fields? names = some fields) {field : Document}
    (member : some field ∈ fields) : field.Proper := by
  cases proper with
  | @list items each =>
    unfold fields? at read
    dsimp only at read
    split at read
    · cases read
      rcases List.mem_append.1 member with among | missing
      · obtain ⟨item, inside, same⟩ := List.mem_map.1 among
        cases same
        exact each _ inside
      · cases (List.eq_of_mem_replicate missing)
    · cases read
  | @record entries each =>
    rcases mem_of_placeEntries? read member with nothing | ⟨entry, among, rfl⟩
    · obtain ⟨name, -, same⟩ := List.mem_map.1 nothing
      cases same
    · exact each entry among
  | _ => cases read

end Document

/-! ### Descriptions -/

namespace Description

theorem proper_of_datamodel? {document : Document} (proper : document.Proper)
    {datamodel : Datamodel} (read : datamodel? document = some datamodel) : datamodel.Proper := by
  cases proper with
  | record each =>
    obtain ⟨fields, found, rfl⟩ := Option.map_eq_some_iff.1 read
    refine Datamodel.Proper.ofList fun field member => ?_
    obtain ⟨entry, among, given⟩ := Document.exists_of_toFields? found field member
    exact (each entry among).of_toValue? given
  | _ => cases read

/-- **The data that a document gives are proper.** -/
theorem proper_of_ofDocument? {document : Document} (proper : document.Proper)
    {description : Description} (read : ofDocument? document = some description) :
    description.datamodel.Proper := by
  unfold ofDocument? at read
  split at read
  · cases read
    exact .empty
  · simp only [ofRecord?, Option.bind_eq_bind, Option.bind_eq_some_iff] at read
    obtain ⟨fields, placed, name, -, listed, -, states, -, datamodel, given, same⟩ := read
    cases same
    unfold Document.field? at given
    split at given
    · next field stands =>
      exact proper_of_datamodel? (proper.of_fields? placed (List.mem_of_getElem? stands)) given
    · cases given
      exact .empty

theorem proper_of_ofJson {text : String} {description : Description}
    (read : ofJson text = .ok description) : description.datamodel.Proper := by
  unfold ofJson at read
  split at read
  · cases read
  · split at read
    · cases read
    · next document given =>
      split at read
      · cases read
      · next found =>
        split at read
        · cases read
          exact proper_of_ofDocument? (Document.proper_of_ofTree? _ given) found
        · cases read

end Description

/-! ### Marked-up descriptions -/

namespace Xml

/-- What goes well as a whole goes well at its start and then behind it. -/
theorem of_bind {α β : Type} {first : Checked α} {next : α → Checked β} {result : β}
    (given : first >>= next = .ok result) :
    ∃ value, first = .ok value ∧ next value = .ok result := by
  cases first with
  | error reason => cases given
  | ok value => exact ⟨value, rfl, given⟩

theorem proper_dataValue (element : Element) : (dataValue element).Proper := by
  unfold dataValue
  dsimp only
  split
  · exact .null
  · cases read : Value.parse? (String.ofList element.trimmed) with
    | none => exact .string _
    | some value => exact Value.proper_of_parseWithin? read

theorem proper_of_readData {elements : List Element} {before after : Datamodel}
    (proper : before.Proper) (read : readData elements before = .ok after) : after.Proper := by
  induction elements generalizing before with
  | nil =>
    cases read
    exact proper
  | cons element rest ih =>
    unfold readData at read
    split at read
    · cases read
    · obtain ⟨name, -, read⟩ := of_bind read
      exact ih (proper.insert name (proper_dataValue element)) read

/-- **The data of elements are proper.** -/
theorem proper_of_readChart {elements : List Element} {before after : Description}
    (proper : before.datamodel.Proper) (read : readChart elements before = .ok after) :
    after.datamodel.Proper := by
  induction elements generalizing before with
  | nil =>
    cases read
    exact proper
  | cons element rest ih =>
    unfold readChart at read
    split at read
    · obtain ⟨records, -, read⟩ := of_bind read
      refine ih ?_ read
      exact proper
    · split at read
      · obtain ⟨datamodel, given, read⟩ := of_bind read
        exact ih (proper_of_readData proper given) read
      · cases read

theorem proper_of_description {root : Element} {found : Description}
    (read : description root = .ok found) : found.datamodel.Proper := by
  obtain ⟨chart, charted, read⟩ := of_bind read
  have proper := proper_of_readChart .empty charted
  split at read
  · cases read
    exact proper
  · split at read
    · cases read
      exact proper
    · cases read

end Xml

/-- A description that was read from a text. -/
inductive Description.Written : Description → Prop
  | json {text : String} {description : Description}
      (read : Description.ofJson text = .ok description) : Written description
  | xml {text : String} {description : Description}
      (read : Description.ofXml text = .ok description) : Written description

/-- **The data of a description that was read from a text are proper.** -/
theorem Description.Written.proper {description : Description} (written : description.Written) :
    description.datamodel.Proper := by
  cases written with
  | json read => exact proper_of_ofJson read
  | xml read =>
    unfold ofXml at read
    split at read
    · cases read
    · split at read
      · next given =>
        cases read
        exact Xml.proper_of_description given
      · cases read

end Statechart
