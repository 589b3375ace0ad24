/-
**Marked-up states are flattened faithfully.**

States stand in the chart or in other states, to any depth. Each of them has one record, outer
before inner, which says what its element says by itself: its own transitions, hooks and flags, and
the names of the states that stand directly in it. What stands inside any other element is not
looked at, so a state there has no record.

* `Xml.standingIn`: the state elements that stand in the chart or in one another.
* `Xml.Element.Tells`: the record of an element.
* `Xml.stateContent_completes`: what the content of a state element adds to its record.
* `Xml.markInitial?_eq`: which record is marked as initial.
* `Description.ofXml_flattens`: what is read of a marked-up text.
-/

import Statechart.Proofs.Description.Building
import Statechart.Proofs.Description.Data

namespace Statechart

namespace Xml

/-! ### State elements -/

mutual

/-- The state elements of a node that stand in no other elements than such, outer before inner. -/
def standing : Node → List Element
  | .element tag attributes content =>
    if isStateTag tag then { tag, attributes, content } :: standingIn content else []
  | _ => []

/-- The state elements that stand in some content. -/
def standingIn : List Node → List Element
  | [] => []
  | node :: rest => standing node ++ standingIn rest

end

mutual

/-- All state elements of a node, outer before inner. -/
def stateElements : Node → List Element
  | .element tag attributes content =>
    (if isStateTag tag then [{ tag, attributes, content }] else []) ++ stateElementsIn content
  | _ => []

/-- All state elements of some content. -/
def stateElementsIn : List Node → List Element
  | [] => []
  | node :: rest => stateElements node ++ stateElementsIn rest

end

mutual

/-- The state elements of a node that stand inside an element of another kind. -/
def buried : Node → List Element
  | .element tag _ content => if isStateTag tag then buriedIn content else stateElementsIn content
  | _ => []

/-- The state elements of some content that stand inside an element of another kind. -/
def buriedIn : List Node → List Element
  | [] => []
  | node :: rest => buried node ++ buriedIn rest

end

mutual

/-- The standing state elements are among all of them, in their order. -/
theorem standing_sublist : (node : Node) → (standing node).Sublist (stateElements node)
  | .element tag attributes content => by
    rw [standing, stateElements]
    split
    · exact (standingIn_sublist content).cons_cons _
    · exact List.nil_sublist _
  | .text _ | .comment _ | .instruction _ _ => List.Sublist.refl _

theorem standingIn_sublist : (content : List Node) →
    (standingIn content).Sublist (stateElementsIn content)
  | [] => List.Sublist.refl _
  | node :: rest => (standing_sublist node).append (standingIn_sublist rest)

end

mutual

/-- A state element stands or is buried. -/
theorem length_stateElements : (node : Node) →
    (stateElements node).length = (standing node).length + (buried node).length
  | .element tag attributes content => by
    rw [standing, stateElements, buried]
    have inside := length_stateElementsIn content
    split
    · simp only [List.cons_append, List.nil_append, List.length_cons]
      omega
    · simp
  | .text _ | .comment _ | .instruction _ _ => rfl

theorem length_stateElementsIn : (content : List Node) →
    (stateElementsIn content).length = (standingIn content).length + (buriedIn content).length
  | [] => rfl
  | node :: rest => by
    have first := length_stateElements node
    have later := length_stateElementsIn rest
    rw [standingIn, stateElementsIn, buriedIn]
    simp only [List.length_append]
    omega

end

/-- **All state elements stand exactly if none is buried.** -/
theorem standingIn_eq_iff (content : List Node) :
    standingIn content = stateElementsIn content ↔ buriedIn content = [] := by
  have lengths := length_stateElementsIn content
  rw [← List.length_eq_zero_iff]
  constructor
  · intro same
    rw [same] at lengths
    omega
  · intro none
    exact (standingIn_sublist content).eq_of_length (by omega)

/-- The state elements in the content of an element stand in its children. -/
theorem standingIn_eq_flatMap (content : List Node) :
    standingIn content =
      (content.filterMap Node.element?).flatMap fun child => standing child.toNode := by
  induction content with
  | nil => rfl
  | cons node rest ih =>
    rw [standingIn, ih]
    cases node with
    | element tag attributes content => rfl
    | _ => rfl

/-! ### What elements say -/

namespace Element

/-- The truth value that an attribute says, if it says one. -/
def truth? (element : Element) (name : String) : Option Bool :=
  match element.attribute? name with
  | some "true" => some true
  | some "false" => some false
  | _ => none

/-- The state elements that stand directly in an element. -/
def inner (element : Element) : List Element :=
  element.children.filter fun child => isStateTag child.tag

/-- Where the last transition for an event leads among some elements. -/
def targetOf? (elements : List Element) (event : String) : Option String :=
  elements.reverse.findSome? fun element =>
    if element.tag = "transition" ∧ element.attribute? "event" = some event then
      element.attribute? "target"
    else none

/-- The identifier that the last element for a kind of hook holds among some elements. -/
def hookOf? (elements : List Element) (kind : HookKind) : Option String :=
  elements.reverse.findSome? fun element =>
    if hookOfTag? element.tag = some kind then some (String.ofList element.trimmed) else none

/-- **The record of a state element**, but for whether it is initial. -/
structure Tells (element : Element) (record : StateDescription) : Prop where
  identifier : record.identifier = element.attribute? "id"
  isFinal : record.isFinal = if element.tag = "final" then some true else element.truth? "final"
  subStates : record.subStates.map some = element.inner.map fun child => child.attribute? "id"
  events : ∀ event, record.events.get? event = targetOf? element.children event
  hooks : ∀ kind, record.hooks.get kind = hookOf? element.children kind

/-- The record of a state element, initial as far as the element says so. -/
structure TellsAlone (element : Element) (record : StateDescription) : Prop
    extends element.Tells record where
  isInitial : record.isInitial = (element.truth? "initial").getD false

theorem of_required {element : Element} {name value : String}
    (given : element.required name = .ok value) : element.attribute? name = some value := by
  unfold required at given
  split at given
  · cases given
  · next found here =>
    split at given
    · cases given
    · cases given
      exact here

theorem truth?_of_flag {element : Element} {name : String} {value : Option Bool}
    (given : element.flag name = .ok value) : element.truth? name = value := by
  unfold flag at given
  unfold truth?
  split at given
  · next missing =>
    cases given
    rw [missing]
  · next said =>
    cases given
    rw [said]
    rfl
  · next said =>
    cases given
    rw [said]
    rfl
  · cases given

theorem of_identifier {element : Element} {identifier : String}
    (given : element.identifier = .ok identifier) :
    identifier = String.ofList element.trimmed := by
  unfold Element.identifier at given
  dsimp only at given
  split at given
  · cases given
  · exact (Except.ok.inj given).symm

/-- Later elements come before earlier ones. -/
theorem targetOf?_append (first second : List Element) (event : String) :
    targetOf? (first ++ second) event = (targetOf? second event).or (targetOf? first event) := by
  unfold targetOf?
  rw [List.reverse_append, List.findSome?_append]

theorem hookOf?_append (first second : List Element) (kind : HookKind) :
    hookOf? (first ++ second) kind = (hookOf? second kind).or (hookOf? first kind) := by
  unfold hookOf?
  rw [List.reverse_append, List.findSome?_append]

end Element

/-! ### Records -/

/-- A state element is no other kind of element. -/
theorem of_isStateTag {tag : String} (state : isStateTag tag) :
    tag ≠ "transition" ∧ hookOfTag? tag = none := by
  rcases Bool.or_eq_true_iff.1 state with same | same <;>
    · obtain rfl := of_decide_eq_true same
      exact ⟨by decide, rfl⟩

/-- An element of a hook is no other kind of element. -/
theorem of_hookOfTag? {tag : String} {kind : HookKind} (hook : hookOfTag? tag = some kind) :
    tag ≠ "transition" ∧ isStateTag tag = false := by
  unfold hookOfTag? at hook
  split at hook
  all_goals first
    | exact ⟨by decide, rfl⟩
    | cases hook

/-- **What some elements in the content of a state element add to its record.** -/
structure Completes (elements : List Element) (before after : StateDescription) : Prop where
  identifier : after.identifier = before.identifier
  isInitial : after.isInitial = before.isInitial
  isFinal : after.isFinal = before.isFinal
  subStates : after.subStates.map some = before.subStates.map some ++
    (elements.filter fun child => isStateTag child.tag).map fun child => child.attribute? "id"
  events : ∀ event,
    after.events.get? event = (Element.targetOf? elements event).or (before.events.get? event)
  hooks : ∀ kind, after.hooks.get kind = (Element.hookOf? elements kind).or (before.hooks.get kind)

namespace Completes

variable {child : Element} {children : List Element} {before between after : StateDescription}

theorem refl (record : StateDescription) : Completes [] record record where
  identifier := rfl
  isInitial := rfl
  isFinal := rfl
  subStates := (List.append_nil _).symm
  events _ := rfl
  hooks _ := rfl

theorem cons (first : Completes [child] before between) (later : Completes children between after) :
    Completes (child :: children) before after where
  identifier := later.identifier.trans first.identifier
  isInitial := later.isInitial.trans first.isInitial
  isFinal := later.isFinal.trans first.isFinal
  subStates := by
    rw [later.subStates, first.subStates, List.append_assoc, ← List.map_append,
      ← List.filter_append]
    rfl
  events event := by
    rw [later.events, first.events, ← Option.or_assoc, ← Element.targetOf?_append]
    rfl
  hooks kind := by
    rw [later.hooks, first.hooks, ← Option.or_assoc, ← Element.hookOf?_append]
    rfl

/-- A transition adds an event. -/
theorem transition {event target : String} (tag : child.tag = "transition")
    (sent : child.required "event" = .ok event) (reached : child.required "target" = .ok target)
    (record : StateDescription) : Completes [child] record (record.on event target) where
  identifier := rfl
  isInitial := rfl
  isFinal := rfl
  subStates := by
    have other : isStateTag child.tag = false := by rw [tag]; rfl
    simp [other, StateDescription.on]
  events other := by
    have known := Element.of_required sent
    have there := Element.of_required reached
    show (record.events.insert event target).get? other = _
    rw [Dict.get?_insert]
    by_cases same : event = other <;> simp [Element.targetOf?, tag, known, there, same]
  hooks kind := by
    have none : hookOfTag? child.tag = none := by rw [tag]; rfl
    simp [Element.hookOf?, none, StateDescription.on]

/-- A state element adds the name of a sub-state. -/
theorem subState {name : String} (tag : isStateTag child.tag)
    (named : child.required "id" = .ok name) (record : StateDescription) :
    Completes [child] record (record.subState name) where
  identifier := rfl
  isInitial := rfl
  isFinal := rfl
  subStates := by
    simp [tag, StateDescription.subState, Element.of_required named]
  events event := by
    simp [Element.targetOf?, (of_isStateTag tag).1, StateDescription.subState]
  hooks kind := by
    simp [Element.hookOf?, (of_isStateTag tag).2, StateDescription.subState]

/-- An element of a hook declares it. -/
theorem hook {kind : HookKind} {identifier : String} (tag : hookOfTag? child.tag = some kind)
    (held : child.identifier = .ok identifier) (record : StateDescription) :
    Completes [child] record (record.hook kind identifier) where
  identifier := rfl
  isInitial := rfl
  isFinal := rfl
  subStates := by
    simp [(of_hookOfTag? tag).2, StateDescription.hook]
  events event := by
    simp [Element.targetOf?, (of_hookOfTag? tag).1, StateDescription.hook]
  hooks other := by
    have text := Element.of_identifier held
    cases kind <;> cases other <;>
      simp [Element.hookOf?, tag, StateDescription.hook, Hooks.get, text]

end Completes

/-- What an element says before its content is looked at. -/
theorem of_openRecord {element : Element} {record : StateDescription}
    (opened : openRecord element = .ok record) :
    record = {
      identifier := element.attribute? "id"
      isInitial := (element.truth? "initial").getD false
      isFinal := if element.tag = "final" then some true else element.truth? "final" } := by
  obtain ⟨isInitial, initial, opened⟩ := of_bind opened
  dsimp only at opened
  rw [Element.truth?_of_flag initial]
  split at opened
  · next final =>
    rw [if_pos final]
    exact (Except.ok.inj opened).symm
  · next other =>
    obtain ⟨isFinal, final, opened⟩ := of_bind opened
    rw [if_neg other, Element.truth?_of_flag final]
    exact (Except.ok.inj opened).symm

/-- An element whose content completes its record tells it. -/
theorem Completes.tells {element : Element} {opened record : StateDescription}
    (start : openRecord element = .ok opened)
    (completes : Completes element.children opened record) : element.TellsAlone record := by
  obtain rfl := of_openRecord start
  exact {
    identifier := completes.identifier
    isInitial := completes.isInitial
    isFinal := completes.isFinal
    subStates := completes.subStates
    events := fun event => (completes.events event).trans Option.or_none
    hooks := fun kind => (completes.hooks kind).trans (by cases kind <;> exact Option.or_none) }

mutual

/-- **The records of a state element** are those of it and the state elements that stand in it. -/
theorem stateRecords_tells : (node : Node) → {element : Element} →
    node.element? = some element → isStateTag element.tag → {records : List StateDescription} →
    stateRecords node = .ok records →
    List.Forall₂ Element.TellsAlone (standing node) records
  | .element tag attributes content, element, same, state, records, read => by
    cases same
    obtain ⟨opened, start, read⟩ := of_bind read
    obtain ⟨⟨record, nested⟩, whole, read⟩ := of_bind read
    obtain rfl := Except.ok.inj read
    obtain ⟨completes, inside⟩ := stateContent_completes content whole
    rw [standing, if_pos state]
    exact .cons (completes.tells start) inside

/-- **What the content of a state element adds**: the rest of its record, and the records of the
state elements that stand in it. -/
theorem stateContent_completes : (content : List Node) → {before after : StateDescription} →
    {nested : List StateDescription} → stateContent content before = .ok (after, nested) →
    Completes (content.filterMap Node.element?) before after ∧
      List.Forall₂ Element.TellsAlone (standingIn content) nested
  | [], _, _, _, read => by
    cases read
    exact ⟨.refl _, .nil⟩
  | .element tag attributes content :: rest, before, after, nested, read => by
    unfold stateContent at read
    dsimp only at read
    have none (other : isStateTag tag = false) :
        standing (.element tag attributes content) = [] := by
      rw [standing, other]
      rfl
    split at read
    · next transition =>
      obtain ⟨event, sent, read⟩ := of_bind read
      obtain ⟨target, reached, read⟩ := of_bind read
      obtain ⟨later, behind⟩ := stateContent_completes rest read
      rw [standingIn, none (by rw [transition]; rfl)]
      exact ⟨.cons (.transition transition sent reached before) later, behind⟩
    split at read
    · next state =>
      obtain ⟨name, named, read⟩ := of_bind read
      obtain ⟨inside, records, read⟩ := of_bind read
      obtain ⟨⟨record, others⟩, whole, read⟩ := of_bind read
      cases read
      obtain ⟨later, behind⟩ := stateContent_completes rest whole
      have here := stateRecords_tells (.element tag attributes content) rfl state records
      exact ⟨.cons (.subState state named before) later, List.rel_append here behind⟩
    · next other =>
      split at read
      · next kind hook =>
        obtain ⟨identifier, held, read⟩ := of_bind read
        obtain ⟨later, behind⟩ := stateContent_completes rest read
        rw [standingIn, none (Bool.not_eq_true _ ▸ other)]
        exact ⟨.cons (.hook hook held before) later, behind⟩
      · cases read
  | .text _ :: rest, before, after, nested, read => stateContent_completes rest read
  | .comment _ :: rest, before, after, nested, read => stateContent_completes rest read
  | .instruction _ _ :: rest, before, after, nested, read => stateContent_completes rest read

end

/-! ### Charts -/

/-- **The records of a chart** are those of the state elements that stand in it. -/
theorem readChart_tells {elements : List Element} {before after : Description}
    (read : readChart elements before = .ok after) :
    ∃ records, after.states = before.states ++ records ∧
      List.Forall₂ Element.TellsAlone (elements.flatMap fun child => standing child.toNode)
        records := by
  induction elements generalizing before with
  | nil =>
    cases read
    exact ⟨[], (List.append_nil _).symm, .nil⟩
  | cons element elements ih =>
    unfold readChart at read
    split at read
    · next state =>
      obtain ⟨inside, here, read⟩ := of_bind read
      obtain ⟨records, states, tells⟩ := ih read
      refine ⟨inside ++ records, ?_, ?_⟩
      · rw [states, List.append_assoc]
      · exact List.rel_append (stateRecords_tells element.toNode rfl state here) tells
    · next other =>
      split at read
      · obtain ⟨datamodel, -, read⟩ := of_bind read
        obtain ⟨records, states, tells⟩ := ih read
        have none : standing element.toNode = [] := if_neg other
        refine ⟨records, states, ?_⟩
        rw [List.flatMap_cons, none]
        exact tells
      · cases read

/-- **The first record of an identifier is marked as initial.** -/
theorem markInitial?_eq (name : String) (records : List StateDescription) :
    markInitial? name records =
      (records.findIdx? fun record => record.identifier = some name).map fun index =>
        records.modify index fun record => { record with isInitial := true } := by
  induction records with
  | nil => rfl
  | cons record records ih =>
    rw [markInitial?, List.findIdx?_cons]
    by_cases here : record.identifier = some name
    · rw [if_pos here, if_pos (decide_eq_true here)]
      rfl
    · rw [if_neg here, if_neg (by simpa using here), ih, Option.map_map, Option.map_map]
      rfl

/-- Marking changes no identifiers. -/
theorem findIdx?_modify (records : List StateDescription) (index : Nat) (name : String) :
    ((records.modify index fun record => { record with isInitial := true }).findIdx?
      fun record => record.identifier = some name) =
      records.findIdx? fun record => record.identifier = some name := by
  have identifiers : (records.modify index fun record => { record with isInitial := true }).map
      StateDescription.identifier = records.map StateDescription.identifier := by
    refine List.ext_getElem? fun position => ?_
    rw [List.getElem?_map, List.getElem?_map, List.getElem?_modify]
    cases records[position]? with
    | none => rfl
    | some record => split <;> rfl
  have found (records : List StateDescription) :
      (records.map StateDescription.identifier).findIdx? (fun known => known = some name) =
        records.findIdx? fun record => record.identifier = some name := List.findIdx?_map
  rw [← found, identifiers, found]

/-- Marking changes nothing else of what elements tell. -/
theorem tells_modify {elements : List Element} {records : List StateDescription}
    (tells : List.Forall₂ Element.TellsAlone elements records) (index : Nat) :
    List.Forall₂ Element.Tells elements
      (records.modify index fun record => { record with isInitial := true }) := by
  induction tells generalizing index with
  | nil => cases index <;> exact .nil
  | cons here later ih =>
    cases index with
    | zero => exact .cons { here.toTells with } (later.imp fun _ _ tells => tells.toTells)
    | succ index => exact .cons here.toTells (ih index)

theorem Element.truth?_eq_some_true_iff {element : Element} {name : String} :
    (element.truth? name).getD false = true ↔ element.attribute? name = some "true" := by
  unfold Element.truth?
  split <;> simp_all

/-- The element and the record at a position belong together. -/
theorem rel_of_getElem? {tells : Element → StateDescription → Prop} {elements : List Element}
    {records : List StateDescription} (all : List.Forall₂ tells elements records) {index : Nat}
    {element : Element} {record : StateDescription} (here : elements[index]? = some element)
    (there : records[index]? = some record) : tells element record := by
  obtain ⟨inside, rfl⟩ := List.getElem?_eq_some_iff.1 here
  obtain ⟨inside', rfl⟩ := List.getElem?_eq_some_iff.1 there
  exact (List.forall₂_iff_get.1 all).2 index inside inside'

/-- **A description flattens a document**, given by its outermost element. -/
structure Element.Flattens (root : Element) (description : Description) : Prop where
  /-- There is one record for each state element that stands in the chart or in another one. -/
  records : List.Forall₂ Element.Tells (standingIn root.content) description.states
  /-- A record is initial if its element says so, or if it is the first that the chart names. -/
  initial : ∀ index element record, (standingIn root.content)[index]? = some element →
    description.states[index]? = some record →
      (record.isInitial = true ↔ element.attribute? "initial" = some "true" ∨
        ∃ name, root.attribute? "initial" = some name ∧
          (description.states.findIdx? fun record => record.identifier = some name) = some index)
  /-- These are state elements of the document in its order. -/
  sublist : (standingIn root.content).Sublist (stateElementsIn root.content)
  /-- They are all of them exactly if none is inside an element of another kind. -/
  whole : standingIn root.content = stateElementsIn root.content ↔ buriedIn root.content = []

/-- **What is read of a document flattens it.** -/
theorem flattens_of_description {root : Element} {description : Description}
    (read : Xml.description root = .ok description) : root.Flattens description := by
  obtain ⟨opened, chart, read⟩ := of_bind read
  obtain ⟨records, states, tells⟩ := readChart_tells chart
  rw [List.nil_append] at states
  have tells : List.Forall₂ Element.TellsAlone (standingIn root.content) records := by
    rw [standingIn_eq_flatMap]
    exact tells
  have own {index : Nat} {element : Element} {record : StateDescription}
      (here : (standingIn root.content)[index]? = some element)
      (there : records[index]? = some record) :
      record.isInitial = true ↔ element.attribute? "initial" = some "true" := by
    rw [(rel_of_getElem? tells here there).isInitial, Element.truth?_eq_some_true_iff]
  have sublist := standingIn_sublist root.content
  have whole := standingIn_eq_iff root.content
  split at read
  · next unnamed =>
    obtain rfl := Except.ok.inj read
    rw [← states] at tells own
    refine ⟨tells.imp fun _ _ tells => tells.toTells, fun index element record here there => ?_,
      sublist, whole⟩
    rw [own here there, unnamed]
    simp
  · next name named =>
    rw [states, markInitial?_eq] at read
    cases found : records.findIdx? fun record => record.identifier = some name with
    | none =>
      rw [found] at read
      cases read
    | some first =>
      rw [found] at read
      obtain rfl := Except.ok.inj read
      refine ⟨tells_modify tells first, fun index element record here there => ?_, sublist, whole⟩
      rw [named]
      dsimp only at there ⊢
      rw [List.getElem?_modify] at there
      obtain ⟨old, stood, rfl⟩ := Option.map_eq_some_iff.1 there
      have marked : (∃ name', some name = some name' ∧
          ((records.modify first fun record => { record with isInitial := true }).findIdx?
            fun record => record.identifier = some name') = some index) ↔ first = index := by
        constructor
        · rintro ⟨_, same, there⟩
          cases same
          rw [findIdx?_modify, found] at there
          exact Option.some.inj there
        · rintro rfl
          exact ⟨name, rfl, by rw [findIdx?_modify, found]⟩
      rw [marked]
      by_cases here' : first = index
      · simp [here']
      · rw [if_neg here', ← own here stood]
        simp [here']

end Xml

/-! ### Machines -/

namespace Description

open Xml

/-- **A machine goes from a state to the states inside it** by the events made up for them, unless
the state has a transition of its own for such an event. -/
theorem transition?_subStateEvent {description : Description} {machine : Machine}
    (built : description.build = .ok machine) {elements : List Element}
    (tells : List.Forall₂ Element.Tells elements description.states) {parent child : Element}
    (outer : parent ∈ elements) (inner : child ∈ parent.inner) :
    ∃ name name', parent.attribute? "id" = some name ∧ child.attribute? "id" = some name' ∧
      (machine.chart.transition? (subStateEvent name') name).map State.name =
        some ((Element.targetOf? parent.children (subStateEvent name')).getD name') := by
  have gives := build_eq_ok_iff.1 built
  obtain ⟨record, among, told⟩ : ∃ record ∈ description.states, parent.Tells record := by
    obtain ⟨index, here⟩ := List.mem_iff_getElem?.1 outer
    have inside : index < description.states.length :=
      tells.length_eq ▸ (List.getElem?_eq_some_iff.1 here).1
    have there := List.getElem?_eq_getElem inside
    exact ⟨_, List.getElem_mem inside, rel_of_getElem? tells here there⟩
  have member : record.flattened ∈ machine.chart.states :=
    gives.states.mem_iff.1 (List.mem_map_of_mem among)
  obtain ⟨name, named⟩ : ∃ name, record.identifier = some name := by
    cases identifier : record.identifier with
    | none =>
      have unnamed : record.flattened.name = "" := congrArg (Option.getD · "") identifier
      exact absurd unnamed (gives.built.ofStates.named _ member)
    | some name => exact ⟨name, rfl⟩
  obtain ⟨name', listed, named'⟩ :
      ∃ name' ∈ record.subStates, child.attribute? "id" = some name' := by
    have among : child.attribute? "id" ∈ record.subStates.map some := by
      rw [told.subStates]
      exact List.mem_map_of_mem inner
    obtain ⟨name', listed, same⟩ := List.mem_map.1 among
    exact ⟨name', listed, same.symm⟩
  have leads : record.flatEvents.get? (subStateEvent name') =
      some ((Element.targetOf? parent.children (subStateEvent name')).getD name') := by
    rw [StateDescription.get?_flatEvents, ← told.events]
    cases said : record.events.get? (subStateEvent name') with
    | none => exact .madeUp listed said
    | some target => exact .said said
  refine ⟨name, name', told.identifier.symm.trans named, named', ?_⟩
  have same : record.flattened.name = name := congrArg (Option.getD · "") named
  rw [gives.built.map_name_transition?, gives.built.state?_eq_some_iff.2 ⟨member, same⟩]
  exact leads

/-- **Marked-up states are flattened faithfully.** A text that gives a description is a document
whose standing state elements it tells, and if a machine is built of it, then from each of these
elements the events made up for the states inside lead to them, save where the element has a
transition for such an event. State elements inside a transition, a hook or a datum are passed
over. -/
theorem ofXml_flattens {text : String} {description : Description}
    (read : ofXml text = .ok description) :
    ∃ root, Xml.root? text = some root ∧ root.Flattens description ∧
      ∀ machine, description.build = .ok machine →
        ∀ parent ∈ standingIn root.content, ∀ child ∈ parent.inner,
          ∃ name name', parent.attribute? "id" = some name ∧ child.attribute? "id" = some name' ∧
            (machine.chart.transition? (subStateEvent name') name).map State.name =
              some ((Element.targetOf? parent.children (subStateEvent name')).getD name') := by
  unfold ofXml at read
  split at read
  · cases read
  · next root found =>
    split at read
    · next given =>
      cases read
      have flattens := flattens_of_description given
      exact ⟨root, found, flattens, fun machine built parent outer child inner =>
        transition?_subStateEvent built flattens.records outer inner⟩
    · cases read

/-- A castle with a hall, in which there is a room, in which there is a bed. -/
def castle : String :=
  "<chart initial=\"hall\"><state id=\"hall\"><transition event=\"go\" target=\"room\"/>" ++
  "<state id=\"room\"><final id=\"bed\"/></state><onexit>lights.off</onexit></state></chart>"

/-- The castle is flattened to three records, and one goes from its hall to the bed. -/
theorem ofXml_flattens_castle :
    ∃ description root machine, ofXml castle = .ok description ∧
      description.states.map StateDescription.identifier =
        [some "hall", some "room", some "bed"] ∧
      Xml.root? castle = some root ∧ root.Flattens description ∧
      description.build = .ok machine ∧
      (machine.chart.transition? "~do_goto_room" "hall").map State.name = some "room" ∧
      (machine.chart.transition? "~do_goto_bed" "room").map State.name = some "bed" := by
  have given : ∃ description ∈ (ofXml castle).toOption, description.states.map
      StateDescription.identifier = [some "hall", some "room", some "bed"] ∧
        Chart.Coherent description.flattened := by decide +kernel
  have nested : ∀ root ∈ Xml.root? castle, ∀ names ∈ [("hall", "room"), ("room", "bed")],
      ∃ parent ∈ standingIn root.content, ∃ child ∈ parent.inner,
        parent.attribute? "id" = some names.1 ∧ child.attribute? "id" = some names.2 ∧
          Element.targetOf? parent.children (subStateEvent names.2) = none := by decide +kernel
  obtain ⟨description, told, names, coherent⟩ := given
  have read : ofXml castle = .ok description := by
    cases answer : ofXml castle with
    | error fault =>
      rw [answer] at told
      cases told
    | ok other =>
      rw [answer] at told
      cases told
      rfl
  obtain ⟨machine, built⟩ : ∃ machine, description.build = .ok machine := by
    cases answer : description.build with
    | ok machine => exact ⟨machine, rfl⟩
    | error fault => exact absurd (build_eq_error_iff.1 answer) coherent.not_rejects
  obtain ⟨root, found, flattens, leads⟩ := ofXml_flattens read
  have goes : ∀ names ∈ [("hall", "room"), ("room", "bed")],
      (machine.chart.transition? (subStateEvent names.2) names.1).map State.name =
        some names.2 := by
    intro names among
    obtain ⟨parent, outer, child, inner, named, named', free⟩ := nested root found names among
    obtain ⟨name, name', same, same', leads⟩ := leads machine built parent outer child inner
    obtain rfl := Option.some.inj (named.symm.trans same)
    obtain rfl := Option.some.inj (named'.symm.trans same')
    rw [leads, free]
    rfl
  exact ⟨description, root, machine, read, names, found, flattens, built,
    goes ("hall", "room") (by decide), goes ("room", "bed") (by decide)⟩

-- A state inside a transition has no record, although the document has a second state element.
example :
    let text := "<chart><state id=\"a\" initial=\"true\"><transition event=\"e\" target=\"a\">" ++
      "<state id=\"b\"/></transition></state></chart>"
    (match ofXml text with
      | .ok description => description.states.map StateDescription.identifier
      | .error _ => []) = [some "a"] ∧
    (Xml.root? text).map (fun root => (stateElementsIn root.content).length) = some 2 := by
  decide +kernel

end Description

end Statechart
