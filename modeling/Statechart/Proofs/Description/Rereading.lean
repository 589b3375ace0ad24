/-
**Descriptions are read back from what is written of them.**

What a description says is written under the first name of each field, and what it does not say is
left out. The reader takes the text for a record and not for a list of states, finds each field
where it was written and takes what is left out for what was not said, so nothing is mistaken for
something else. Only data go through numbers and depths that a reader may refuse or change.

* `StateDescription.ofDocument?_ofValue`: a state record is read as itself.
* `Description.ofTree?_tree`: what is read of the tree of a description.
* `Description.ofJson_render`: a description is read as itself if its data are.
-/

import Statechart.Proofs.Description.Fields
import Statechart.Proofs.Dump.Lossless
import Statechart.Description.Reading

namespace Statechart

open Json Text

/-! ### State records -/

namespace StateDescription

/-- A field that is left out if there is nothing to say. -/
def optionalField {α : Type} (name : String) (write : α → Value) : Option α → List (String × Value)
  | none => []
  | some value => [(name, write value)]

/-- The names of the sub-states, if there are any. -/
def subStateNames? (description : StateDescription) : Option (List String) :=
  if description.subStates.isEmpty then none else some description.subStates

/-- The fields of a state record in order. -/
def fields (description : StateDescription) : List (String × Value) :=
  optionalField "id" .string description.identifier ++
    [("initial", .bool description.isInitial)] ++
    optionalField "final" .bool description.isFinal ++
    [("events", State.eventsValue description.events)] ++ description.hooks.fields ++
    optionalField "substates" (fun names => .list (names.map .string)) description.subStateNames?

theorem toValue_eq (description : StateDescription) :
    description.toValue = .record description.fields := by
  have subStates : (if description.subStates.isEmpty then []
      else [("substates", Value.list (description.subStates.map .string))]) =
      optionalField "substates" (fun names : List String => .list (names.map .string))
        description.subStateNames? := by
    unfold subStateNames?
    split <;> rfl
  unfold fields
  rw [← subStates]
  rfl

theorem names_optionalField {α : Type} (name : String) (write : α → Value) (value : Option α) :
    ((optionalField name write value).map Prod.fst).Sublist [name] := by
  cases value with
  | none => exact List.nil_sublist _
  | some value => exact List.Sublist.refl _

/-- Each field is written under its first name, in order. -/
theorem names_sublist (description : StateDescription) :
    ((description.fields.map Prod.fst).map some).Sublist (fieldNames.map List.head?) := by
  have names : (description.fields.map Prod.fst).Sublist (["id"] ++ ["initial"] ++ ["final"] ++
      ["events"] ++ HookKind.all.map HookKind.name ++ ["substates"]) := by
    unfold fields
    simp only [List.map_append]
    exact (((((names_optionalField ..).append (List.Sublist.refl _)).append
      (names_optionalField ..)).append (List.Sublist.refl _)).append
      (description.hooks.names_sublist HookKind.all)).append (names_optionalField ..)
  exact names.map some

/-! ### What stands at each name -/

theorem get?_optionalField {α : Type} (name other : String) (write : α → Value)
    (value : Option α) :
    Entries.get? other (optionalField name write value) =
      if name = other then value.map write else none := by
  cases value with
  | none => simp [optionalField, Entries.get?]
  | some value => rfl

/-- What stands at a name that is none of a hook. -/
theorem get?_fields (description : StateDescription) {name : String}
    (plain : ∀ kind ∈ HookKind.all, kind.name ≠ name) :
    Entries.get? name description.fields =
      ((((if "id" = name then description.identifier.map Value.string else none).or
        (if "initial" = name then some (.bool description.isInitial) else none)).or
        (if "final" = name then description.isFinal.map .bool else none)).or
        (if "events" = name then some (State.eventsValue description.events) else none)).or
        (if "substates" = name then
          description.subStateNames?.map fun names => .list (names.map .string) else none) := by
  unfold fields
  simp only [Entries.get?_append, get?_optionalField, Entries.get?,
    description.hooks.get?_fields_eq_none plain, Option.or_none]

theorem get?_fields_hook (description : StateDescription) (kind : HookKind) :
    Entries.get? kind.name description.fields = (description.hooks.get kind).map .string := by
  unfold fields
  simp only [Entries.get?_append, get?_optionalField, Entries.get?, description.hooks.get?_fields]
  cases kind <;> simp [HookKind.name]

/-! ### Readers -/

/-- The documents of the fields of a state record. -/
def documents (description : StateDescription) : List (String × Document) :=
  description.fields.map fun field => (field.1, .ofValue field.2)

/-- The fields of the document of a state record stand at their names. -/
theorem fields?_ofValue (description : StateDescription) :
    Document.fields? fieldNames (.ofValue description.toValue) =
      some (Document.placed fieldNames description.documents) := by
  rw [toValue_eq, Document.ofValue, Document.ofFields_eq]
  refine Document.fields?_entries (by decide) ?_
  have names := description.names_sublist
  rw [List.map_map] at names
  rwa [List.map_map, List.map_map]

/-- A field is read of the document of its value. -/
theorem field?_documents {α : Type} (description : StateDescription) {position : Nat}
    (name : String) (stands : fieldNames[position]?.bind List.head? = some name)
    (read : Document → Option α) (default : α) :
    Document.field? (Document.placed fieldNames description.documents) position read default =
      ((Entries.get? name description.fields).map fun value => read (.ofValue value)).getD
        (some default) := by
  unfold documents
  rw [Document.field?_placed name stands, Entries.get?_map_values, Option.map_map]
  rfl

theorem field?_hook (description : StateDescription) (kind : HookKind) (position : Nat)
    (stands : fieldNames[position]?.bind List.head? = some kind.name) :
    Document.field? (Document.placed fieldNames description.documents) position
      (Document.nullable? Document.name?) none = some (description.hooks.get kind) := by
  rw [field?_documents description kind.name stands, get?_fields_hook]
  cases description.hooks.get kind <;> rfl

theorem events?_ofValue (events : Dict String String) :
    events? (.ofValue (State.eventsValue events)) = some events := by
  have entries : Document.ofFields (events.mapValues Value.string).entries =
      events.entries.map fun entry => (.string entry.1, .string entry.2) := by
    rw [Document.ofFields_eq]
    unfold Document.entries Dict.mapValues
    rw [List.map_map, List.map_map]
    rfl
  have each : (events.entries.map fun entry : String × String =>
      (Document.string entry.1, Document.string entry.2)).mapM event? = some events.entries := by
    rw [List.mapM_map]
    exact Tree.mapM_eq_some fun entry _ => rfl
  show (List.mapM event? (Document.ofFields (events.mapValues Value.string).entries)).map _ = _
  rw [entries, each]
  exact congrArg some (Dict.ofList_entries events)

theorem subStates?_ofValue (names : List String) :
    subStates? (.ofValue (.list (names.map .string))) = some names := by
  have items : Document.ofItems (names.map Value.string) = names.map .string := by
    rw [Document.ofItems_eq, List.map_map]
    rfl
  show (Document.ofItems (names.map Value.string)).mapM Document.string? = _
  rw [items, List.mapM_map]
  exact Tree.mapM_eq_some fun name _ => rfl

/-- **A state record is read as itself.** -/
theorem ofDocument?_ofValue (description : StateDescription) :
    ofDocument? (.ofValue description.toValue) = some description := by
  let fields := Document.placed fieldNames description.documents
  have identifier : Document.field? fields 0 (Document.nullable? Document.name?) none =
      some description.identifier := by
    rw [field?_documents description "id" rfl, description.get?_fields (by decide)]
    cases description.identifier <;> rfl
  have isInitial : Document.field? fields 1 Document.bool? false = some description.isInitial := by
    rw [field?_documents description "initial" rfl, description.get?_fields (by decide)]
    rfl
  have isFinal : Document.field? fields 2 (Document.nullable? Document.bool?) none =
      some description.isFinal := by
    rw [field?_documents description "final" rfl, description.get?_fields (by decide)]
    cases description.isFinal <;> rfl
  have events : Document.field? fields 3 (Document.nullable? events?) none =
      some (some description.events) := by
    rw [field?_documents description "events" rfl, description.get?_fields (by decide)]
    exact congrArg (Option.map some) (events?_ofValue description.events)
  have subStates : Document.field? fields 9 subStates? [] = some description.subStates := by
    rw [field?_documents description "substates" rfl, description.get?_fields (by decide)]
    unfold subStateNames?
    by_cases none : description.subStates = []
    · rw [none]
      rfl
    · rw [if_neg (mt List.isEmpty_iff.1 none)]
      exact subStates?_ofValue description.subStates
  unfold ofDocument?
  simp only [description.fields?_ofValue, fields, identifier, isInitial, isFinal, events, subStates,
    description.field?_hook .onEnter 4 rfl, description.field?_hook .onExit 5 rfl,
    description.field?_hook .onChange 6 rfl, description.field?_hook .trigger 7 rfl,
    description.field?_hook .action 8 rfl, Option.bind_eq_bind, Option.bind_some]
  rfl

/-- The document of a state record is read of its tree. -/
theorem told_toValue (levels : Nat) (description : StateDescription) :
    Document.Told (levels + 2) description.toValue := by
  have texts (names : List String) : Document.Told (levels + 1) (.list (names.map .string)) := by
    refine Document.told_list fun item member => ?_
    obtain ⟨name, -, rfl⟩ := List.mem_map.1 member
    exact Document.told_string levels name
  have events : Document.Told (levels + 1) (State.eventsValue description.events) := by
    refine Document.told_record fun field member => ?_
    obtain ⟨event, -, rfl⟩ := List.mem_map.1 member
    exact Document.told_string levels event.2
  have optional {α : Type} (name : String) {write : α → Value}
      (told : ∀ value, Document.Told (levels + 1) (write value)) (value : Option α) :
      ∀ field ∈ optionalField name write value, Document.Told (levels + 1) field.2 := by
    cases value with
    | none => exact List.forall_mem_nil _
    | some value => exact List.forall_mem_singleton.2 (told value)
  have hooks : ∀ field ∈ description.hooks.fields, Document.Told (levels + 1) field.2 := by
    intro field member
    obtain ⟨kind, -, member⟩ := List.mem_flatMap.1 member
    split at member
    · cases member
    · obtain rfl := List.mem_singleton.1 member
      exact Document.told_string _ _
  rw [toValue_eq]
  refine Document.told_record ?_
  unfold fields
  simp only [List.forall_mem_append, List.forall_mem_singleton]
  exact ⟨⟨⟨⟨⟨optional _ (Document.told_string _) _, Document.told_bool _ _⟩,
    optional _ (Document.told_bool _) _⟩, events⟩, hooks⟩, optional _ texts _⟩

end StateDescription

/-! ### Descriptions -/

namespace Description

/-- The data of a description are read by way of their document. -/
theorem cases_datamodel (datamodel : Datamodel) :
    Dump.reread? datamodel = none ∧
        Document.ofTree? (Dump.dataLevels + 1) (Value.ofDict datamodel).tree = none ∨
      ∃ document found, Dump.reread? datamodel = some found ∧
        Document.ofTree? (Dump.dataLevels + 1) (Value.ofDict datamodel).tree = some document ∧
        datamodel? document = some found := by
  have members : (Value.ofDict datamodel).tree =
      .record (Value.treesOfFields datamodel.entries) := by rw [Value.ofDict, Value.tree]
  unfold Dump.reread?
  rw [members, Document.ofTree?, Dump.datamodel?]
  rcases Document.cases_of_map_eq
      (Document.map_toFields?_ofMembers? (Value.treesOfFields datamodel.entries) Dump.dataLevels) with
    ⟨unread, unread'⟩ | ⟨entries, fields, here, told, here'⟩
  · rw [unread, unread']
    exact .inl ⟨rfl, rfl⟩
  · rw [here, here']
    exact .inr ⟨.record entries, Dict.ofList fields, rfl, rfl, congrArg (Option.map _) told⟩

/-- The documents of the states of a description. -/
theorem told_states (levels : Nat) (states : List StateDescription) :
    Document.Told (levels + 3) (.list (states.map StateDescription.toValue)) := by
  refine Document.told_list fun item member => ?_
  obtain ⟨state, -, rfl⟩ := List.mem_map.1 member
  exact state.told_toValue levels

theorem states?_ofValue (states : List StateDescription) :
    states? (.ofValue (.list (states.map StateDescription.toValue))) = some states := by
  show (Document.ofItems (states.map StateDescription.toValue)).mapM
    StateDescription.ofDocument? = _
  rw [Document.ofItems_eq, List.map_map, List.mapM_map]
  exact Tree.mapM_eq_some fun state _ => state.ofDocument?_ofValue

/-- The fields of the document of a description, its data having a document of their own. -/
def documents (description : Description) (data : Document) : List (String × Document) :=
  (description.name.map fun name => ("name", Document.string name)).toList ++
    [("states", .ofValue (.list (description.states.map StateDescription.toValue)))] ++
    if description.datamodel.isEmpty then [] else [("datamodel", data)]

theorem names_documents (description : Description) (data : Document) :
    (((description.documents data).map Prod.fst).map some).Sublist
      (fieldNames.map List.head?) := by
  have name : ((description.name.map fun name => ("name", Document.string name)).toList.map
      Prod.fst).Sublist ["name"] := by
    cases description.name with
    | none => exact List.nil_sublist _
    | some name => exact List.Sublist.refl _
  have names : ((description.documents data).map Prod.fst).Sublist
      (["name"] ++ ["states"] ++ ["datamodel"]) := by
    unfold documents
    simp only [List.map_append]
    refine (name.append (List.Sublist.refl _)).append ?_
    split
    · exact List.nil_sublist _
    · exact List.Sublist.refl _
  exact names.map some

/-- The fields of a description in order. -/
def fields (description : Description) : List (String × Value) :=
  (description.name.map fun name => ("name", Value.string name)).toList ++
    [("states", .list (description.states.map StateDescription.toValue))] ++
    if description.datamodel.isEmpty then [] else [("datamodel", .ofDict description.datamodel)]

theorem toValue_eq (description : Description) :
    description.toValue = .record description.fields := by
  unfold toValue fields
  rw [List.append_assoc]
  cases description.name <;> rfl

/-- **The document of a description has that of its data**, and is read exactly if that is. -/
theorem ofTree?_tree (description : Description) :
    Document.ofTree? nestingLimit description.toValue.tree =
      (Document.ofTree? (Dump.dataLevels + 1) (Value.ofDict description.datamodel).tree).map
        fun data => .record (Document.entries (description.documents data)) := by
  let read (field : String × Value) : Option (String × Document) :=
    (Document.ofTree? (Dump.dataLevels + 1) field.2.tree).map (field.1, ·)
  have name : (description.name.map fun name => ("name", Value.string name)).toList.mapM read =
      some (description.name.map fun name => ("name", Document.string name)).toList := by
    cases description.name with
    | none => rfl
    | some name =>
      have each : ∀ field ∈ [("name", Value.string name)],
          read field = some (field.1, Document.string name) := by
        refine List.forall_mem_singleton.2 ?_
        exact congrArg (Option.map _) (Document.told_string _ name)
      exact Tree.mapM_eq_some_map each
  have states : [("states", Value.list (description.states.map StateDescription.toValue))].mapM
      read = some [("states",
        .ofValue (.list (description.states.map StateDescription.toValue)))] := by
    have each : ∀ field ∈ [("states",
        Value.list (description.states.map StateDescription.toValue))],
        read field = some (field.1, Document.ofValue field.2) := by
      refine List.forall_mem_singleton.2 ?_
      exact congrArg (Option.map _) (told_states _ description.states)
    exact Tree.mapM_eq_some_map each
  rw [toValue_eq, Value.tree, show nestingLimit = Dump.dataLevels + 1 + 1 from rfl,
    Document.ofTree?, Document.ofMembers?_treesOfFields]
  show ((description.fields.mapM read).map Document.entries).map _ = _
  unfold fields documents
  rw [List.mapM_append, List.mapM_append, name, states]
  split
  · next empty =>
    have data : (Value.ofDict description.datamodel).tree = .record [] := by
      rw [Value.ofDict, List.isEmpty_iff.1 empty]
      rfl
    rw [data]
    rfl
  · have data : [("datamodel", Value.ofDict description.datamodel)].mapM read =
        (Document.ofTree? (Dump.dataLevels + 1) (Value.ofDict description.datamodel).tree).map
          fun data => [("datamodel", data)] := by
      rw [List.mapM_cons]
      show (Option.map _ _).bind _ = _
      cases Document.ofTree? (Dump.dataLevels + 1) (Value.ofDict description.datamodel).tree <;> rfl
    rw [data]
    cases Document.ofTree? (Dump.dataLevels + 1) (Value.ofDict description.datamodel).tree <;> rfl

/-- **The document of a description gives the description** with the data that are read. -/
theorem ofDocument?_documents (description : Description) {data : Document} {found : Datamodel}
    (read : datamodel? data = some found) (again : Dump.reread? description.datamodel = some found) :
    ofDocument? (.record (Document.entries (description.documents data))) =
      some { description with datamodel := found } := by
  have whole := Document.fields?_entries (by decide) (description.names_documents data)
  have list : states? (.record (Document.entries (description.documents data))) = none := rfl
  have name : Document.field? (Document.placed fieldNames (description.documents data)) 0
      (Document.nullable? Document.string?) none = some description.name := by
    rw [Document.field?_placed "name" rfl]
    unfold documents
    cases description.name <;> split <;> rfl
  have states : (Document.placed fieldNames (description.documents data))[1]?.join =
      some (.ofValue (.list (description.states.map StateDescription.toValue))) := by
    rw [Document.getElem?_placed]
    unfold documents
    cases description.name <;> rfl
  have datamodel : Document.field? (Document.placed fieldNames (description.documents data)) 2
      datamodel? ∅ = some found := by
    rw [Document.field?_placed "datamodel" rfl]
    unfold documents
    split
    · next empty =>
      have entries : description.datamodel = ∅ := Dict.ext (List.isEmpty_iff.1 empty)
      rw [entries] at again
      have nothing : found = ∅ := (Option.some.inj again).symm
      rw [nothing]
      cases description.name <;> rfl
    · rw [← read]
      cases description.name <;> rfl
  unfold ofDocument? ofRecord?
  rw [list]
  simp only [whole, name, states, states?_ofValue, datamodel, Option.bind_eq_bind, Option.bind_some]
  rfl

/-- **A description is read as itself with its data read again**, or else as nothing. -/
theorem ofJson_render (description : Description) :
    ofJson description.toValue.render =
      match Dump.reread? description.datamodel with
      | some datamodel => .ok { description with datamodel }
      | none => .error (.badRequest .json .malformed) := by
  have spelled := ofSymbols?_render (spells description.toValue)
  unfold Tree.ofSymbols? at spelled
  obtain ⟨⟨tree, rest⟩, first, spelled⟩ := Option.bind_eq_some_iff.1 spelled
  dsimp only at spelled
  split at spelled
  · next blank =>
    obtain rfl := Option.some.inj spelled
    unfold ofJson
    rw [first]
    dsimp only
    rw [ofTree?_tree]
    rcases cases_datamodel description.datamodel with
      ⟨unread, unread'⟩ | ⟨document, found, again, here, read⟩
    · rw [unread, unread']
      rfl
    · rw [again, here, Option.map_some]
      dsimp only
      rw [ofDocument?_documents description read again]
      dsimp only
      rw [if_pos blank]
  · cases spelled

/-- Data are read again as themselves exactly if each datum is. -/
theorem reread?_eq_some_iff {datamodel : Datamodel} :
    Dump.reread? datamodel = some datamodel ↔ ∀ value ∈ datamodel.values,
      Value.parseWithin? Dump.dataLevels value.render = some value := by
  refine ⟨fun again value member => ?_, Dump.reread?_eq_some⟩
  obtain ⟨⟨name, value⟩, among, rfl⟩ := List.mem_map.1 member
  have stands : datamodel.get? name = some value :=
    Entries.get?_of_mem datamodel.nodup_keys among
  have here := Dump.get?_of_reread? again name
  rw [stands] at here
  rw [Value.parseWithin?_render]
  exact (Option.some.inj here).symm

/-- What is built carries the data of the description and does not depend on them. -/
theorem build_with (description : Description) (datamodel : Datamodel) :
    ({ description with datamodel } : Description).build =
      description.build.map fun machine => { machine with datamodel } := by
  unfold build Machine.ofStates?
  dsimp only
  cases description.states.mapM StateDescription.flatten with
  | error fault => rfl
  | ok states =>
    show (Chart.ofStates? states >>= _) = Except.map _ (Chart.ofStates? states >>= _)
    cases Chart.ofStates? states <;> rfl

/-- **A description survives being written** exactly if each of its data is read as it was printed.
If some of them are read as others, still all else survives, so the same chart is built of it or
the same is found to be wrong; and only data that are not read at all keep it from being read. -/
theorem ofJson_render_eq_iff (description : Description) :
    (ofJson description.toValue.render = .ok description ↔
      ∀ value ∈ description.datamodel.values,
        Value.parseWithin? Dump.dataLevels value.render = some value) ∧
    ((∃ found, ofJson description.toValue.render = .ok found) ↔
      ∀ value ∈ description.datamodel.values,
        (Value.parseWithin? Dump.dataLevels value.render).isSome) ∧
    ∀ found, ofJson description.toValue.render = .ok found →
      found = { description with datamodel := found.datamodel } ∧
      found.build = description.build.map fun machine =>
        { machine with datamodel := found.datamodel } := by
  rw [ofJson_render, ← reread?_eq_some_iff]
  simp only [Value.parseWithin?_render, ← Dump.isSome_reread?_iff]
  cases Dump.reread? description.datamodel with
  | none => exact ⟨⟨nofun, nofun⟩, ⟨nofun, nofun⟩, nofun⟩
  | some datamodel =>
    refine ⟨⟨fun same => ?_, fun same => ?_⟩, ⟨fun _ => rfl, fun _ => ⟨_, rfl⟩⟩, fun found read => ?_⟩
    · exact congrArg some (congrArg Description.datamodel (Except.ok.inj same))
    · rw [Option.some.inj same]
    · obtain rfl := Except.ok.inj read
      exact ⟨rfl, description.build_with datamodel⟩

-- Names that look like something else, missing and empty ones, and a sub-state of no state.
example :
    let odd : Description :=
      { name := some "states"
        states := [{ identifier := some "", isFinal := some false, subStates := ["", "id"] },
          { events := Dict.ofList [("", "null"), ("1.0", "true")], hooks := { action := some "" } }] }
    ofJson odd.toValue.render = .ok odd := by
  intro odd
  rw [ofJson_render]
  rfl

end Description

end Statechart
