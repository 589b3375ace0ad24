/-
**Comments cut what is read as text.**

A comment in the content of an element is a node between others, and parts the text in which it
stands. Of charts, states and data models the elements inside are read, so there a comment means
nothing. Of a hook and of a datum the text is read, but only as far as the first node goes: what
stands behind a comment is passed over.

* `Xml.Role.along`: the role of the innermost of some elements.
* `Xml.ReadAlike`: elements that are read alike in a role.
* `Xml.ReadAlike.inside`: what stands around elements that are read alike is read alike.
* `Xml.description_commented`: what is read of a tree with a comment more.
* `Description.ofXml_commented`: what is read of a text with a comment more.
-/

import Statechart.Proofs.Description.Flaws
import Statechart.Proofs.Xml.Places

namespace Statechart

open Json

namespace Xml

/-! ### Roles inside layers -/

theorem children_around (layer : Layer) (element : Element) :
    (layer.around element).children =
      layer.before.filterMap Node.element? ++ element :: layer.after.filterMap Node.element? := by
  unfold Element.children Layer.around
  rw [List.filterMap_append]
  rfl

namespace Role

/-- The role of the innermost of some elements, each in the one before it, if the element around
them has a role. -/
def along (role : Role) : List Element → Option Role
  | [] => some role
  | element :: inner => do
    let role ← role.within element
    role.along inner

/-- The role of an element inside some layers, if the outermost of them has a role. -/
def inside? (role : Role) : List Layer → Element → Option Role
  | [], _ => some role
  | _ :: layers, element => do
    let role ← role.within (element.inside layers)
    role.inside? layers element

/-- Whether the text of an element is read, and not the elements inside. -/
def isText : Role → Bool
  | .hook | .data => true
  | .chart | .datamodel | .state _ | .transition => false

theorem within_congr {outer : Role} {first second : Element} (tag : first.tag = second.tag)
    (attributes : first.attributes = second.attributes) :
    outer.within first = outer.within second := by
  have same (name : String) : first.attribute? name = second.attribute? name := by
    unfold Element.attribute?
    rw [attributes]
  unfold within
  rw [tag, same]

end Role

/-! ### What depends on the elements only -/

/-- The content of a state is read element by element. -/
theorem stateContent_children (content : List Node) (record : StateDescription) :
    stateContent content record =
      stateContent ((content.filterMap Node.element?).map Element.toNode) record := by
  induction content generalizing record with
  | nil => rfl
  | cons node content ih =>
    cases node with
    | element tag attributes inner =>
      show _ = stateContent (.element tag attributes inner :: _) record
      unfold stateContent
      simp only [ih]
    | text _ | comment _ | instruction _ _ => exact ih record

/-- Content of a state that is followed by what is read alike. -/
theorem stateContent_append_congr {behind behind' : List Node}
    (alike : ∀ record, stateContent behind record = stateContent behind' record)
    (content : List Node) (record : StateDescription) :
    stateContent (content ++ behind) record = stateContent (content ++ behind') record := by
  induction content generalizing record with
  | nil => exact alike record
  | cons node content ih =>
    cases node with
    | element tag attributes inner =>
      simp only [List.cons_append]
      unfold stateContent
      simp only [ih]
    | text _ | comment _ | instruction _ _ => exact ih record

theorem readData_append_congr {behind behind' : List Element}
    (alike : ∀ datamodel, readData behind datamodel = readData behind' datamodel)
    (elements : List Element) (datamodel : Datamodel) :
    readData (elements ++ behind) datamodel = readData (elements ++ behind') datamodel := by
  induction elements generalizing datamodel with
  | nil => exact alike datamodel
  | cons element elements ih =>
    simp only [List.cons_append]
    unfold readData
    simp only [ih]

theorem readChart_append_congr {behind behind' : List Element}
    (alike : ∀ description, readChart behind description = readChart behind' description)
    (elements : List Element) (description : Description) :
    readChart (elements ++ behind) description = readChart (elements ++ behind') description := by
  induction elements generalizing description with
  | nil => exact alike description
  | cons element elements ih =>
    simp only [List.cons_append]
    unfold readChart
    simp only [ih]

/-! ### Elements that are read alike -/

/-- What is read of the contents of two elements that have a role, or none, is the same. -/
def SameContent : Option Role → Element → Element → Prop
  | some .chart, first, second =>
    ∀ description, readChart first.children description = readChart second.children description
  | some .datamodel, first, second =>
    ∀ datamodel, readData first.children datamodel = readData second.children datamodel
  | some (.state _), first, second =>
    ∀ record, stateContent first.content record = stateContent second.content record
  | some .hook, first, second | some .data, first, second => first.trimmed = second.trimmed
  | some .transition, _, _ | none, _, _ => True

/-- **Elements that are read alike** in a role, or where they have none. -/
structure ReadAlike (role? : Option Role) (first second : Element) : Prop where
  tag : first.tag = second.tag
  attributes : first.attributes = second.attributes
  content : SameContent role? first second

namespace ReadAlike

variable {role : Role} {role? : Option Role} {first second : Element}

theorem attribute? (alike : ReadAlike role? first second) (name : String) :
    first.attribute? name = second.attribute? name := by
  unfold Element.attribute?
  rw [alike.attributes]

theorem required (alike : ReadAlike role? first second) (name : String) :
    first.required name = second.required name := by
  unfold Element.required
  rw [alike.attribute?, alike.tag]

/-- State elements whose contents are read alike have the same records. -/
theorem stateRecords {identifier : Option String}
    (alike : ReadAlike (some (.state identifier)) first second) :
    stateRecords first.toNode = stateRecords second.toNode := by
  obtain ⟨tag, attributes, content⟩ := first
  obtain ⟨tag', attributes', content'⟩ := second
  obtain ⟨rfl, rfl, same⟩ := alike
  have opened : openRecord { tag, attributes, content } =
      openRecord { tag, attributes, content := content' } := rfl
  simp only [Element.toNode, Xml.stateRecords, opened]
  exact bind_congr fun record => by rw [show stateContent content record = _ from same record]

theorem readChart_cons (alike : ReadAlike (Role.chart.within first) first second)
    (behind : List Element) (description : Description) :
    readChart (first :: behind) description = readChart (second :: behind) description := by
  rw [Role.within_chart, alike.tag] at alike
  unfold readChart
  rw [alike.tag]
  by_cases state : isStateTag second.tag
  · rw [if_pos state] at alike
    simp only [if_pos state, alike.stateRecords]
  · rw [if_neg state] at alike
    by_cases known : second.tag = "datamodel"
    · rw [if_pos known] at alike
      have same : ∀ datamodel, readData first.children datamodel =
          readData second.children datamodel := alike.content
      simp only [if_neg state, if_pos known, same]
    · simp only [if_neg state, if_neg known]

theorem readData_cons (alike : ReadAlike (Role.datamodel.within first) first second)
    (behind : List Element) (datamodel : Datamodel) :
    readData (first :: behind) datamodel = readData (second :: behind) datamodel := by
  rw [Role.within_datamodel, alike.tag] at alike
  unfold readData
  rw [alike.required, alike.tag]
  by_cases known : second.tag = "data"
  · rw [if_pos known] at alike
    have same : first.trimmed = second.trimmed := alike.content
    unfold dataValue
    rw [same]
  · rw [if_pos known, if_pos known]

theorem stateContent_cons {identifier : Option String}
    (alike : ReadAlike ((Role.state identifier).within first) first second) (behind : List Node)
    (record : StateDescription) :
    stateContent (first.toNode :: behind) record =
      stateContent (second.toNode :: behind) record := by
  rw [Role.within_state, alike.tag] at alike
  have required := alike.required
  obtain ⟨tag, attributes, content⟩ := second
  obtain ⟨tag', attributes', content'⟩ := first
  obtain ⟨rfl, rfl⟩ := And.intro alike.tag alike.attributes
  unfold Element.toNode stateContent
  dsimp only at alike required ⊢
  simp only [required]
  by_cases transition : tag' = "transition"
  · simp only [if_pos transition]
  rw [if_neg transition] at alike
  by_cases state : isStateTag tag'
  · rw [if_pos state] at alike
    have records := alike.stateRecords
    unfold Element.toNode at records
    simp only [if_neg transition, if_pos state, records]
  rw [if_neg state] at alike
  cases hook : hookOfTag? tag' with
  | none => simp only [if_neg transition, if_neg state]
  | some kind =>
    rw [hook] at alike
    have text : Element.trimmed { tag := tag', attributes := attributes', content := content' } =
      Element.trimmed { tag := tag', attributes := attributes', content } := alike.content
    simp only [if_neg transition, if_neg state, Element.identifier, text]

/-- **Elements in which those are alike that stand at one place are alike.** -/
theorem around (layer : Layer) (alike : ReadAlike (role.within first) first second) :
    ReadAlike (some role) (layer.around first) (layer.around second) := by
  refine ⟨rfl, rfl, ?_⟩
  cases role with
  | chart =>
    intro description
    rw [children_around, children_around]
    exact readChart_append_congr (alike.readChart_cons _) _ description
  | datamodel =>
    intro datamodel
    rw [children_around, children_around]
    exact readData_append_congr (alike.readData_cons _) _ datamodel
  | state identifier =>
    intro record
    exact stateContent_append_congr (alike.stateContent_cons _) layer.before record
  | transition => trivial
  | hook | data =>
    show Element.trimmed _ = Element.trimmed _
    unfold Element.trimmed Element.text? Layer.around
    cases layer.before with
    | nil => rfl
    | cons node before => cases node <;> rfl

/-- Elements that have no role are alike if their tags are. -/
theorem of_tags (tag : first.tag = second.tag) (attributes : first.attributes = second.attributes) :
    ReadAlike none first second := ⟨tag, attributes, trivial⟩

end ReadAlike

theorem tags_inside {first second : Element} (tag : first.tag = second.tag)
    (attributes : first.attributes = second.attributes) (layers : List Layer) :
    (first.inside layers).tag = (second.inside layers).tag ∧
      (first.inside layers).attributes = (second.inside layers).attributes := by
  cases layers with
  | nil => exact ⟨tag, attributes⟩
  | cons layer layers => exact ⟨rfl, rfl⟩

/-- **What stands around elements that are read alike is read alike.** -/
theorem ReadAlike.inside {role : Role} {first second : Element} {layers : List Layer}
    (alike : ReadAlike (role.inside? layers first) first second) :
    ReadAlike (some role) (first.inside layers) (second.inside layers) := by
  induction layers generalizing role with
  | nil => exact alike
  | cons layer layers ih =>
    have tags := tags_inside alike.tag alike.attributes layers
    unfold Role.inside? at alike
    refine @ReadAlike.around role (first.inside layers) _ layer ?_
    cases within : role.within (first.inside layers) with
    | none => exact .of_tags tags.1 tags.2
    | some inner =>
      rw [within] at alike
      exact ih alike

/-- The role of an element does not depend on its content. -/
theorem Role.inside?_congr {role : Role} {first second : Element} (tag : first.tag = second.tag)
    (attributes : first.attributes = second.attributes) (layers : List Layer) :
    role.inside? layers first = role.inside? layers second := by
  induction layers generalizing role with
  | nil => rfl
  | cons layer layers ih =>
    have tags := tags_inside tag attributes layers
    unfold inside?
    rw [within_congr tags.1 tags.2]
    exact Option.bind_congr fun inner _ => ih

/-- Charts that are read alike give the same description. -/
theorem ReadAlike.description {first second : Element}
    (alike : ReadAlike (some .chart) first second) :
    description first = description second := by
  have same : ∀ description, readChart first.children description =
    readChart second.children description := alike.content
  unfold Xml.description
  rw [alike.attribute?, alike.attribute?, same]

/-! ### Comments -/

/-- The text of an element that holds a comment is read as if nothing stood behind. -/
theorem trimmed_commented (element : Element) (before behind : List Node) (comment : String) :
    (element.commented before behind comment).trimmed =
      Element.trimmed { element with content := before } := by
  unfold Element.trimmed Element.text? Element.commented
  cases before with
  | nil => rfl
  | cons node before => cases node <;> rfl

/-- An element as it is read in a role if a comment stands in it behind some content. -/
def Element.cut (element : Element) (role? : Option Role) (before : List Node) : Element :=
  if role?.any Role.isText then { element with content := before } else element

/-- **An element with a comment is read as if it were cut there**, in each role. -/
theorem readAlike_cut (role? : Option Role) {element : Element} {before behind : List Node}
    (comment : String) (same : (before ++ behind).filterMap Node.element? = element.children) :
    ReadAlike role? (element.commented before behind comment) (element.cut role? before) := by
  have children : (element.commented before behind comment).children = element.children := by
    rw [← same, List.filterMap_append]
    exact List.filterMap_append
  cases role? with
  | none => exact ⟨rfl, rfl, trivial⟩
  | some role =>
    cases role with
    | chart => exact ⟨rfl, rfl, fun description => congrArg (readChart · description) children⟩
    | datamodel => exact ⟨rfl, rfl, fun datamodel => congrArg (readData · datamodel) children⟩
    | state identifier =>
      refine ⟨rfl, rfl, fun record => ?_⟩
      rw [stateContent_children, show List.filterMap _ _ = _ from children]
      exact (stateContent_children element.content record).symm
    | transition => exact ⟨rfl, rfl, trivial⟩
    | hook | data => exact ⟨rfl, rfl, trimmed_commented element before behind comment⟩

/-- Elements of which the same text is read are read alike, if the text is all that is read. -/
theorem readAlike_of_trimmed {role? : Option Role} {element : Element} {content : List Node}
    (text : role?.any Role.isText)
    (same : Element.trimmed { element with content } = element.trimmed) :
    ReadAlike role? { element with content } element := by
  refine ⟨rfl, rfl, ?_⟩
  cases role? with
  | none => cases text
  | some role =>
    cases role with
    | hook | data => exact same
    | chart | datamodel | state | transition => cases text

/-- Trees in which elements that are read alike stand at one place give the same description. -/
theorem description_inside {first second : Element} {layers : List Layer}
    (alike : ReadAlike (Role.chart.inside? layers first) first second) :
    description (first.inside layers) = description (second.inside layers) :=
  alike.inside.description

/-- **A tree with a comment more** gives the same description, but that a hook or a datum is cut. -/
theorem description_commented {element : Element} {before behind : List Node} (comment : String)
    (layers : List Layer) (same : (before ++ behind).filterMap Node.element? = element.children) :
    description ((element.commented before behind comment).inside layers) =
      description ((element.cut (Role.chart.inside? layers element) before).inside layers) := by
  have role : Role.chart.inside? layers (element.commented before behind comment) =
      Role.chart.inside? layers element := by
    refine Role.inside?_congr ?_ ?_ layers <;> rfl
  refine description_inside ?_
  rw [role]
  exact readAlike_cut _ comment same

/-- The role of an element is that of the innermost of the open elements. -/
theorem Role.inside?_eq_along {role : Role} {layers : List Layer} {element : Element}
    (before : List Node) :
    role.inside? layers element =
      role.along (layers.map Layer.opened ++ [{ element with content := before }]).tail := by
  induction layers generalizing role with
  | nil => rfl
  | cons layer layers ih =>
    unfold inside?
    cases layers with
    | nil =>
      have same : role.within { element with content := before } = role.within element :=
        within_congr rfl rfl
      show _ = (role.within { element with content := before }).bind fun role => role.along []
      rw [same]
      rfl
    | cons next layers =>
      have same : role.within next.opened = role.within (element.inside (next :: layers)) :=
        within_congr rfl rfl
      show _ = (role.within next.opened).bind fun role => role.along _
      rw [same]
      exact Option.bind_congr fun inner _ => ih

end Xml

/-! ### Texts -/

namespace Description

open Xml

/-- The description that the outermost element of a document gives. -/
def ofElement (root : Element) : Except Error Description :=
  (Xml.description root).mapError fun reason => .chart (.malformed reason)

theorem ofXml_of_root {text : String} {root : Element} (found : Xml.root? text = some root) :
    ofXml text = ofElement root := by
  unfold ofXml ofElement
  rw [found]
  dsimp only
  cases Xml.description root <;> rfl

/-- Two parts of a text with a comment between them. -/
def withComment (before comment after : String) : String :=
  before ++ ("<!--" ++ comment ++ "-->") ++ after

theorem withComment_eq (before comment after : String) :
    withComment before comment after =
      String.ofList (before.toList ++ (writtenComment comment.toList ++ after.toList)) := by
  refine String.toList_inj.1 ?_
  simp only [withComment, writtenComment, String.toList_append, String.toList_ofList,
    List.append_assoc]

/-- **A comment means nothing, but in a hook or a datum it cuts the text.** Put a comment at any
place in the content of an element of a document. If the element is neither a hook nor a datum, then
the same is read as without it. If it is one, then it is read as if it held only what stands before
the place, and so the same is read if the text before the place is the whole text, but for blanks
around it. -/
theorem ofXml_commented {before after comment : String} {root outermost : Element}
    {inner : List Element} (document : Xml.root? (before ++ after) = some root)
    (place : Xml.Place before.toList after.toList (outermost :: inner))
    (proper : IsComment comment.toList) :
    (¬ (Role.chart.along inner).any Role.isText →
      ofXml (withComment before comment after) = ofXml (before ++ after)) ∧
    ((Role.chart.along inner).any Role.isText → ∃ layers element stands,
      root.Holds (outermost :: inner) layers element stands ∧
      ofXml (withComment before comment after) =
        ofElement (Element.inside { element with content := stands } layers) ∧
      (Element.trimmed { element with content := stands } = element.trimmed →
        ofXml (withComment before comment after) = ofXml (before ++ after))) := by
  have whole : before ++ after = String.ofList (before.toList ++ after.toList) := by
    rw [← String.toList_append, String.ofList_toList]
  rw [whole] at document
  obtain ⟨layers, element, stands, behind, holds, children, found⟩ :=
    root?_commented place proper document
  have role : Role.chart.inside? layers element = Role.chart.along inner := by
    rw [Role.inside?_eq_along stands, ← holds.opened]
    rfl
  have cut : Role.chart.inside? layers { element with content := stands } =
      Role.chart.along inner := by
    rw [← role]
    refine Role.inside?_congr ?_ ?_ layers <;> rfl
  have plain : ofXml (before ++ after) = ofElement (element.inside layers) := by
    rw [whole, ofXml_of_root document, holds.whole]
  have told : ofXml (withComment before comment after) =
      ofElement ((element.cut (Role.chart.along inner) stands).inside layers) := by
    rw [withComment_eq, ofXml_of_root found, ← role]
    unfold ofElement
    rw [description_commented _ layers children]
  constructor
  · intro unread
    rw [told, plain, Element.cut, if_neg unread]
  · intro text
    rw [Element.cut, if_pos text] at told
    refine ⟨layers, element, stands, holds, told, fun same => ?_⟩
    rw [told, plain]
    unfold ofElement
    rw [description_inside]
    refine readAlike_of_trimmed ?_ same
    rw [cut]
    exact text

/-- The description of a basket, up to the middle of the name of its hook. -/
def basketStart : String :=
  "<statechart><state id=\"a\" initial=\"true\"><onentry>basket."

/-- The rest of the description of a basket. -/
def basketEnd : String := "enter</onentry></state></statechart>"

/-- A comment in the name of the hook of a basket cuts the name. -/
theorem ofXml_commented_basket :
    ∃ root layers element stands, Xml.root? (basketStart ++ basketEnd) = some root ∧
      root.Holds [⟨"statechart", [], []⟩,
        ⟨"state", [⟨none, "id", "a"⟩, ⟨none, "initial", "true"⟩], []⟩,
        ⟨"onentry", [], [.text "basket."]⟩] layers element stands ∧
      ofXml (withComment basketStart " on the way in " basketEnd) =
        ofElement (Element.inside { element with content := stands } layers) := by
  obtain ⟨root, document⟩ := Option.isSome_iff_exists.1
    (show (Xml.root? (basketStart ++ basketEnd)).isSome by decide +kernel)
  let state : Element := ⟨"state", [⟨none, "id", "a"⟩, ⟨none, "initial", "true"⟩], []⟩
  let hook : Element := ⟨"onentry", [], [.text "basket."]⟩
  have inHook : ContentPlace [] "basket.".toList basketEnd.toList [.text "basket."] [] :=
    @ContentPlace.here [] _ _ "basket.".toList (by decide) (by decide +kernel)
  have inState : ContentPlace [] "<onentry>basket.".toList basketEnd.toList [] [hook] :=
    @ContentPlace.inside [] ⟨⟨"", "onentry"⟩, [], [], true⟩ "onentry>".toList _ _ _ _
      (by decide +kernel) rfl inHook
  have inChart : ContentPlace [] "<state id=\"a\" initial=\"true\"><onentry>basket.".toList
      basketEnd.toList [] [state, hook] :=
    @ContentPlace.inside [] ⟨⟨"", "state"⟩, [], state.attributes, true⟩
      "state id=\"a\" initial=\"true\">".toList _ _ _ _ (by decide +kernel) rfl inState
  have place : Xml.Place basketStart.toList basketEnd.toList
      [⟨"statechart", [], []⟩, state, hook] :=
    @Place.inside ['<'] "statechart>".toList _ _ ⟨⟨"", "statechart"⟩, [], [], true⟩ [] _
      (by decide +kernel) (by decide +kernel) rfl inChart
  have proper : IsComment " on the way in ".toList :=
    ⟨List.all_eq_true.1 (by decide +kernel), by decide +kernel, by decide +kernel⟩
  obtain ⟨layers, element, stands, holds, cut, -⟩ :=
    (ofXml_commented document place proper).2 (by decide)
  exact ⟨root, layers, element, stands, document, holds, cut⟩

-- So the hook has another name with the comment.
example :
    let hooks (name : String) := (ofXml ("<statechart><state id=\"a\" initial=\"true\"><onentry>" ++
      name ++ "</onentry></state></statechart>")).toOption.map fun description =>
        description.states.map (·.hooks.onEnter)
    hooks "basket.enter" = some [some "basket.enter"] ∧
    hooks "basket.<!-- on the way in -->enter" = some [some "basket."] := by
  decide +kernel

end Description

end Statechart
