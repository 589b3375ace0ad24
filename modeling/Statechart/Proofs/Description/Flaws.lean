/-
**Flawed charts are refused.**

A marked-up chart has a flaw where an element stands that has no place there, where an attribute is
missing that an element needs, where a hook holds no identifier, where a truth value is neither of
the two, and where the initial state is not declared. Most flaws are looked for, at any depth, and a
chart that has one of these is refused as malformed. But nothing is looked for inside a transition,
a hook or a datum, and whether a final element says that it is final is not looked at.

* `Xml.Role.within`: which elements have a place in which.
* `Xml.Element.Flawed`: the flaws of a document, each with what is told of it if it is looked for.
* `Xml.flawed_of_description`: what is told of a document that is refused.
* `Xml.of_flawed`: a document that is read has none of the flaws that are told while reading.
* `Machine.ofXml_malformed_iff`: which marked-up texts are refused as malformed.
-/

import Statechart.Proofs.Description.Flattening

namespace Statechart

open Json

namespace Xml

/-! ### Roles -/

/-- What an element of a marked-up chart is for. -/
inductive Role
  | chart
  | datamodel
  /-- A state, with the identifier that its element gives. -/
  | state (identifier : Option String)
  | transition
  | hook
  | data
  deriving DecidableEq

namespace Role

/-- The role of an element that stands in one of a role, if it has a place there. -/
def within (outer : Role) (element : Element) : Option Role :=
  match outer, element.tag with
  | .chart, "state" | .chart, "final" => some (.state (element.attribute? "id"))
  | .chart, "datamodel" => some .datamodel
  | .state _, "state" | .state _, "final" => some (.state (element.attribute? "id"))
  | .state _, "transition" => some .transition
  | .state _, "onentry" | .state _, "onexit" | .state _, "onchange" | .state _, "trigger"
  | .state _, "action" => some .hook
  | .datamodel, "data" => some .data
  | _, _ => none

/-- The attributes that an element of a role needs. -/
def required : Role → List String
  | .state _ | .data => ["id"]
  | .transition => ["event", "target"]
  | .chart | .datamodel | .hook => []

/-- The attributes of an element of a role that are truth values. -/
def flags : Role → List String
  | .state _ => ["initial", "final"]
  | _ => []

/-- What is said of the place in which an element has no place, if any is looked for there. -/
def surrounding? : Role → Option Surrounding
  | .chart => some .chart
  | .state identifier => some (.state identifier)
  | .datamodel => some .datamodel
  | .transition | .hook | .data => none

theorem within_chart (element : Element) : chart.within element =
    if isStateTag element.tag then some (.state (element.attribute? "id"))
    else if element.tag = "datamodel" then some .datamodel else none := by
  unfold within isStateTag
  split <;> simp_all

theorem within_state (identifier : Option String) (element : Element) :
    (state identifier).within element =
      if element.tag = "transition" then some .transition
      else if isStateTag element.tag then some (.state (element.attribute? "id"))
      else (hookOfTag? element.tag).map fun _ => .hook := by
  unfold within isStateTag hookOfTag?
  split <;> simp_all

theorem within_datamodel (element : Element) : datamodel.within element =
    if element.tag = "data" then some .data else none := by
  unfold within
  split <;> simp_all

end Role

/-! ### Flaws -/

/-- The text of an attribute, which is empty if the attribute is missing. -/
def Element.said (element : Element) (name : String) : String :=
  (element.attribute? name).getD ""

/-- **A flaw of an element** that stands in one of a role, or of an element inside it. It comes with
what is told of it, or with nothing if it is not looked for. -/
inductive Element.Flaw : Role → Element → Option Malformation → Prop
  /-- The element has no place where it stands. -/
  | misplaced {outer : Role} {element : Element} (foreign : outer.within element = none) :
      Flaw outer element (outer.surrounding?.map (.unexpectedElement element.tag))
  /-- An attribute is missing or empty. That of an outermost state is told as the chart is built. -/
  | lacking {outer role : Role} {element : Element} {name : String}
      (known : outer.within element = some role) (needed : name ∈ role.required)
      (missing : element.said name = "") :
      Flaw outer element
        (some (if outer = .chart then .missingIdentifier else .missingAttribute element.tag name))
  /-- A hook holds no identifier. -/
  | empty {outer : Role} {element : Element} (known : outer.within element = some .hook)
      (nothing : element.trimmed = []) : Flaw outer element (some (.emptyElement element.tag))
  /-- An attribute is no truth value. Whether a final element is final is not looked at. -/
  | unclear {outer role : Role} {element : Element} {name value : String}
      (known : outer.within element = some role) (flag : name ∈ role.flags)
      (given : element.attribute? name = some value) (other : value ≠ "true" ∧ value ≠ "false") :
      Flaw outer element
        (if element.tag = "final" ∧ name = "final" then none else some (.notBoolean value name))
  /-- An element inside has a flaw. -/
  | inside {outer role : Role} {element child : Element} {told : Option Malformation}
      (known : outer.within element = some role) (member : child ∈ element.children)
      (flaw : Flaw role child told) : Flaw outer element told

/-- **A flaw of a document**, given by its outermost element. -/
inductive Element.Flawed (root : Element) : Option Malformation → Prop
  | inside {child : Element} {told : Option Malformation} (member : child ∈ root.children)
      (flaw : child.Flaw .chart told) : Flawed root told
  /-- The initial state is not declared. -/
  | undeclared {name : String} (named : root.attribute? "initial" = some name)
      (nowhere : ∀ element ∈ standingIn root.content, element.attribute? "id" ≠ some name) :
      Flawed root (some (.undeclaredInitial name))

/-! ### What is told of an element -/

theorem of_bind_error {α β : Type} {first : Checked α} {next : α → Checked β}
    {reason : Malformation} (failed : first >>= next = .error reason) :
    first = .error reason ∨ ∃ value, first = .ok value ∧ next value = .error reason := by
  cases first with
  | error told => exact .inl (congrArg Except.error (Except.error.inj failed))
  | ok value => exact .inr ⟨value, rfl, failed⟩

namespace Element

variable {element : Element} {outer : Role} {reason : Malformation}

theorem said_ne_of_required {name value : String} (given : element.required name = .ok value) :
    element.said name ≠ "" := by
  unfold required at given
  split at given
  · cases given
  · next found here =>
    split at given
    · cases given
    · next filled =>
      rw [said, here]
      exact fun empty => filled (String.isEmpty_iff.2 empty)

theorem of_required_error {name : String} (failed : element.required name = .error reason) :
    element.said name = "" ∧ reason = .missingAttribute element.tag name := by
  unfold required at failed
  unfold said
  split at failed
  · next missing =>
    rw [missing]
    exact ⟨rfl, (Except.error.inj failed).symm⟩
  · next found here =>
    split at failed
    · next empty =>
      rw [here]
      exact ⟨String.isEmpty_iff.1 empty, (Except.error.inj failed).symm⟩
    · cases failed

theorem of_identifier_error (failed : element.identifier = .error reason) :
    element.trimmed = [] ∧ reason = .emptyElement element.tag := by
  unfold identifier at failed
  dsimp only at failed
  split at failed
  · next empty => exact ⟨List.isEmpty_iff.1 empty, (Except.error.inj failed).symm⟩
  · cases failed

theorem trimmed_ne_of_identifier {identifier : String}
    (held : element.identifier = .ok identifier) : element.trimmed ≠ [] := by
  unfold Element.identifier at held
  dsimp only at held
  split at held
  · cases held
  · next filled => exact fun empty => filled (List.isEmpty_iff.2 empty)

theorem of_flag_error {name : String} (failed : element.flag name = .error reason) :
    ∃ value, element.attribute? name = some value ∧ (value ≠ "true" ∧ value ≠ "false") ∧
      reason = .notBoolean value name := by
  unfold flag at failed
  split at failed
  · cases failed
  · cases failed
  · cases failed
  · next value notTrue notFalse here =>
    exact ⟨value, here, ⟨notTrue, notFalse⟩, (Except.error.inj failed).symm⟩

theorem of_flag_ok {name value : String} {truth : Option Bool}
    (given : element.flag name = .ok truth) (here : element.attribute? name = some value) :
    value = "true" ∨ value = "false" := by
  unfold flag at given
  rw [here] at given
  split at given
  · next missing => cases missing
  · next same => exact .inl (Option.some.inj same)
  · next same => exact .inr (Option.some.inj same)
  · cases given

/-- What an element that has a place may lack. -/
theorem Flaw.of_known {role : Role} (flaw : element.Flaw outer (some reason))
    (known : outer.within element = some role) :
    (∃ name ∈ role.required, element.said name = "") ∨
      (role = .hook ∧ element.trimmed = []) ∨
      (∃ name ∈ role.flags, ∃ value, element.attribute? name = some value ∧
        (value ≠ "true" ∧ value ≠ "false") ∧ ¬ (element.tag = "final" ∧ name = "final")) ∨
      ∃ child ∈ element.children, child.Flaw role (some reason) := by
  generalize told : some reason = other at flaw
  cases flaw with
  | misplaced foreign => cases foreign.symm.trans known
  | lacking known' needed missing =>
    cases known'.symm.trans known
    exact .inl ⟨_, needed, missing⟩
  | empty known' nothing =>
    cases known'.symm.trans known
    exact .inr (.inl ⟨rfl, nothing⟩)
  | @unclear _ _ _ name value known' flag given other =>
    cases known'.symm.trans known
    refine .inr (.inr (.inl ⟨name, flag, value, given, other, fun unseen => ?_⟩))
    rw [if_pos unseen] at told
    cases told
  | inside known' member flaw =>
    cases known'.symm.trans known
    exact .inr (.inr (.inr ⟨_, member, told ▸ flaw⟩))

/-- Nothing is told of what stands inside a transition, a hook or a datum. -/
theorem not_flaw_of_unsurrounded (unseen : outer.surrounding? = none) :
    ¬ element.Flaw outer (some reason) := by
  have foreign : outer.within element = none := by
    cases outer <;> first | rfl | cases unseen
  intro flaw
  generalize told : some reason = other at flaw
  cases flaw with
  | misplaced _ =>
    rw [unseen] at told
    cases told
  | lacking known | empty known | unclear known | inside known =>
    cases foreign.symm.trans known

/-- What is told of a state element before its content is looked at. -/
theorem flaw_of_openRecord {identifier : Option String}
    (known : outer.within element = some (.state identifier))
    (failed : openRecord element = .error reason) : element.Flaw outer (some reason) := by
  rcases of_bind_error failed with failed | ⟨isInitial, -, failed⟩
  · obtain ⟨value, given, other, rfl⟩ := of_flag_error failed
    have flaw := Flaw.unclear known (List.mem_cons_self : "initial" ∈ _) given other
    rwa [if_neg fun both => absurd both.2 (by decide)] at flaw
  · dsimp only at failed
    split at failed
    · cases failed
    · next notFinal =>
      rcases of_bind_error failed with failed | ⟨isFinal, -, failed⟩
      · obtain ⟨value, given, other, rfl⟩ := of_flag_error failed
        have flaw := Flaw.unclear known
          (List.mem_cons_of_mem _ List.mem_cons_self : "final" ∈ _) given other
        rwa [if_neg fun both => notFinal both.1] at flaw
      · cases failed

/-- The truth values of a state element whose record is opened are clear, but for the one that is
not looked at. -/
theorem of_unclear_of_openRecord {record : StateDescription}
    (opened : openRecord element = .ok record) {name value : String}
    (flag : name ∈ ["initial", "final"]) (given : element.attribute? name = some value)
    (other : value ≠ "true" ∧ value ≠ "false") : element.tag = "final" ∧ name = "final" := by
  obtain ⟨isInitial, initial, opened⟩ := of_bind opened
  rcases List.mem_cons.1 flag with rfl | last
  · rcases of_flag_ok initial given with same | same
    · exact absurd same other.1
    · exact absurd same other.2
  · obtain rfl := List.mem_singleton.1 last
    refine ⟨?_, rfl⟩
    by_contra notFinal
    dsimp only at opened
    rw [if_neg notFinal] at opened
    obtain ⟨isFinal, final, -⟩ := of_bind opened
    rcases of_flag_ok final given with same | same
    · exact absurd same other.1
    · exact absurd same other.2

end Element

/-! ### State elements -/

mutual

/-- **What is told of a state element is a flaw** of it or of an element inside. -/
theorem flaw_of_stateRecords : (node : Node) → {element : Element} →
    node.element? = some element → {outer : Role} →
    outer.within element = some (.state (element.attribute? "id")) → {reason : Malformation} →
    stateRecords node = .error reason → element.Flaw outer (some reason)
  | .element tag attributes content, element, same, outer, known, reason, failed => by
    cases same
    rcases of_bind_error failed with failed | ⟨opened, start, failed⟩
    · exact Element.flaw_of_openRecord known failed
    · rcases of_bind_error failed with failed | ⟨whole, -, failed⟩
      · obtain ⟨child, member, flaw⟩ := flaw_of_stateContent content failed
        obtain rfl := of_openRecord start
        exact .inside known member flaw
      · cases failed

/-- **What is told of the content of a state element is a flaw** of an element in it. -/
theorem flaw_of_stateContent : (content : List Node) → {record : StateDescription} →
    {reason : Malformation} → stateContent content record = .error reason →
    ∃ child ∈ content.filterMap Node.element?,
      child.Flaw (.state record.identifier) (some reason)
  | [], _, _, failed => by cases failed
  | .element tag attributes content :: rest, record, reason, failed => by
    let element : Element := { tag, attributes, content }
    have role := Role.within_state record.identifier element
    -- A flaw of this element, or one of those behind it.
    have here (flaw : element.Flaw (.state record.identifier) (some reason)) :
        ∃ child ∈ (Node.element tag attributes content :: rest).filterMap Node.element?,
          child.Flaw (.state record.identifier) (some reason) :=
      ⟨element, List.mem_cons_self, flaw⟩
    have later (other : StateDescription) (same : other.identifier = record.identifier)
        (failed : stateContent rest other = .error reason) :
        ∃ child ∈ (Node.element tag attributes content :: rest).filterMap Node.element?,
          child.Flaw (.state record.identifier) (some reason) := by
      obtain ⟨child, member, flaw⟩ := flaw_of_stateContent rest failed
      exact ⟨child, List.mem_cons_of_mem _ member, same ▸ flaw⟩
    have lacks {role : Role} {name : String}
        (known : (Role.state record.identifier).within element = some role)
        (needed : name ∈ role.required) (failed : element.required name = .error reason) :
        element.Flaw (.state record.identifier) (some reason) := by
      obtain ⟨missing, rfl⟩ := Element.of_required_error failed
      exact .lacking known needed missing
    unfold stateContent at failed
    dsimp only at failed
    split at failed
    · next transition =>
      rw [if_pos transition] at role
      rcases of_bind_error failed with failed | ⟨event, -, failed⟩
      · exact here (lacks role List.mem_cons_self failed)
      rcases of_bind_error failed with failed | ⟨target, -, failed⟩
      · exact here (lacks role (List.mem_cons_of_mem _ List.mem_cons_self) failed)
      · exact later (record.on event target) rfl failed
    · next notTransition =>
      rw [if_neg notTransition] at role
      split at failed
      · next state =>
        rw [if_pos state] at role
        rcases of_bind_error failed with failed | ⟨name, -, failed⟩
        · exact here (lacks role List.mem_cons_self failed)
        rcases of_bind_error failed with failed | ⟨inside, -, failed⟩
        · exact here (flaw_of_stateRecords (.element tag attributes content) rfl role failed)
        rcases of_bind_error failed with failed | ⟨whole, -, failed⟩
        · exact later (record.subState name) rfl failed
        · cases failed
      · next notState =>
        rw [if_neg notState] at role
        split at failed
        · next kind hook =>
          rw [show hookOfTag? element.tag = some kind from hook] at role
          rcases of_bind_error failed with failed | ⟨identifier, -, failed⟩
          · obtain ⟨nothing, rfl⟩ := Element.of_identifier_error failed
            exact here (.empty role nothing)
          · exact later (record.hook kind identifier) rfl failed
        · next foreign =>
          rw [show hookOfTag? element.tag = none from foreign] at role
          cases failed
          exact here (.misplaced role)
  | .text _ :: rest, _, _, failed | .comment _ :: rest, _, _, failed
  | .instruction _ _ :: rest, _, _, failed => flaw_of_stateContent rest failed

end

mutual

/-- **A state element that is read has none of the flaws that are told**, but for a missing
identifier of its own. -/
theorem of_flaw_of_stateRecords : (node : Node) → {element : Element} →
    node.element? = some element → {outer : Role} →
    outer.within element = some (.state (element.attribute? "id")) →
    {records : List StateDescription} → stateRecords node = .ok records →
    {reason : Malformation} → element.Flaw outer (some reason) → element.said "id" = ""
  | .element tag attributes content, element, same, outer, known, records, read, reason, flaw => by
    cases same
    obtain ⟨opened, start, read⟩ := of_bind read
    obtain ⟨⟨record, nested⟩, whole, read⟩ := of_bind read
    rcases flaw.of_known known with ⟨name, needed, missing⟩ | ⟨hook, -⟩ |
      ⟨name, flag, value, given, other, seen⟩ | ⟨child, member, flaw⟩
    · rwa [List.mem_singleton.1 needed] at missing
    · cases hook
    · exact absurd (Element.of_unclear_of_openRecord start flag given other) seen
    · have clean := not_flaw_of_stateContent content opened whole child member reason
      obtain rfl := of_openRecord start
      exact absurd flaw clean

/-- **The content of a state element that is read has none of the flaws that are told.** -/
theorem not_flaw_of_stateContent : (content : List Node) → (record : StateDescription) →
    {result : StateDescription × List StateDescription} →
    stateContent content record = .ok result →
    ∀ child ∈ content.filterMap Node.element?, ∀ reason,
      ¬ child.Flaw (.state record.identifier) (some reason)
  | [], _, _, _ => fun child member => nomatch member
  | .element tag attributes content :: rest, record, result, read => by
    let element : Element := { tag, attributes, content }
    have role := Role.within_state record.identifier element
    unfold stateContent at read
    dsimp only at read
    refine List.forall_mem_cons.2 ?_
    split at read
    · next transition =>
      rw [if_pos transition] at role
      obtain ⟨event, sent, read⟩ := of_bind read
      obtain ⟨target, reached, read⟩ := of_bind read
      refine ⟨fun reason flaw => ?_,
        not_flaw_of_stateContent rest (record.on event target) read⟩
      rcases flaw.of_known role with ⟨name, needed, missing⟩ | ⟨hook, -⟩ | ⟨name, flag, -⟩ |
        ⟨child, -, flaw⟩
      · rcases List.mem_cons.1 needed with rfl | last
        · exact Element.said_ne_of_required sent missing
        · obtain rfl := List.mem_singleton.1 last
          exact Element.said_ne_of_required reached missing
      · cases hook
      · cases flag
      · exact Element.not_flaw_of_unsurrounded rfl flaw
    · next notTransition =>
      rw [if_neg notTransition] at role
      split at read
      · next state =>
        rw [if_pos state] at role
        obtain ⟨name, named, read⟩ := of_bind read
        obtain ⟨inside, records, read⟩ := of_bind read
        obtain ⟨⟨after, others⟩, whole, read⟩ := of_bind read
        refine ⟨fun reason flaw => ?_,
          not_flaw_of_stateContent rest (record.subState name) whole⟩
        exact Element.said_ne_of_required named
          (of_flaw_of_stateRecords (.element tag attributes content) rfl role records flaw)
      · next notState =>
        rw [if_neg notState] at role
        split at read
        · next kind hook =>
          rw [show hookOfTag? element.tag = some kind from hook] at role
          obtain ⟨identifier, held, read⟩ := of_bind read
          refine ⟨fun reason flaw => ?_,
            not_flaw_of_stateContent rest (record.hook kind identifier) read⟩
          rcases flaw.of_known role with ⟨name, needed, -⟩ | ⟨-, nothing⟩ | ⟨name, flag, -⟩ |
            ⟨child, -, flaw⟩
          · cases needed
          · exact Element.trimmed_ne_of_identifier held nothing
          · cases flag
          · exact Element.not_flaw_of_unsurrounded rfl flaw
        · cases read
  | .text _ :: rest, record, _, read | .comment _ :: rest, record, _, read
  | .instruction _ _ :: rest, record, _, read => not_flaw_of_stateContent rest record read

end

/-! ### Data and charts -/

/-- What is told of data elements is a flaw of one of them. -/
theorem flaw_of_readData {elements : List Element} {datamodel : Datamodel} {reason : Malformation}
    (failed : readData elements datamodel = .error reason) :
    ∃ child ∈ elements, child.Flaw .datamodel (some reason) := by
  induction elements generalizing datamodel with
  | nil => cases failed
  | cons element elements ih =>
    have role := Role.within_datamodel element
    unfold readData at failed
    split at failed
    · next foreign =>
      rw [if_neg foreign] at role
      cases failed
      exact ⟨element, List.mem_cons_self, .misplaced role⟩
    · next known =>
      rw [if_pos (not_not.1 known)] at role
      rcases of_bind_error failed with failed | ⟨name, -, failed⟩
      · obtain ⟨missing, rfl⟩ := Element.of_required_error failed
        exact ⟨element, List.mem_cons_self, .lacking role List.mem_cons_self missing⟩
      · obtain ⟨child, member, flaw⟩ := ih failed
        exact ⟨child, List.mem_cons_of_mem _ member, flaw⟩

/-- Data elements that are read have none of the flaws that are told. -/
theorem not_flaw_of_readData {elements : List Element} {datamodel result : Datamodel}
    (read : readData elements datamodel = .ok result) :
    ∀ child ∈ elements, ∀ reason, ¬ child.Flaw .datamodel (some reason) := by
  induction elements generalizing datamodel with
  | nil => exact fun child member => nomatch member
  | cons element elements ih =>
    have role := Role.within_datamodel element
    unfold readData at read
    split at read
    · cases read
    · next known =>
      rw [if_pos (not_not.1 known)] at role
      obtain ⟨name, named, read⟩ := of_bind read
      refine List.forall_mem_cons.2 ⟨fun reason flaw => ?_, ih read⟩
      rcases flaw.of_known role with ⟨name, needed, missing⟩ | ⟨hook, -⟩ | ⟨name, flag, -⟩ |
        ⟨child, -, flaw⟩
      · rw [List.mem_singleton.1 needed] at missing
        exact Element.said_ne_of_required named missing
      · cases hook
      · cases flag
      · exact Element.not_flaw_of_unsurrounded rfl flaw

/-- What is told of the elements of a chart is a flaw of one of them. -/
theorem flaw_of_readChart {elements : List Element} {description : Description}
    {reason : Malformation} (failed : readChart elements description = .error reason) :
    ∃ child ∈ elements, child.Flaw .chart (some reason) := by
  induction elements generalizing description with
  | nil => cases failed
  | cons element elements ih =>
    have role := Role.within_chart element
    have later {other : Description} (failed : readChart elements other = .error reason) :
        ∃ child ∈ element :: elements, child.Flaw .chart (some reason) := by
      obtain ⟨child, member, flaw⟩ := ih failed
      exact ⟨child, List.mem_cons_of_mem _ member, flaw⟩
    unfold readChart at failed
    split at failed
    · next state =>
      rw [if_pos state] at role
      rcases of_bind_error failed with failed | ⟨records, -, failed⟩
      · exact ⟨element, List.mem_cons_self, flaw_of_stateRecords element.toNode rfl role failed⟩
      · exact later failed
    · next notState =>
      rw [if_neg notState] at role
      split at failed
      · next known =>
        rw [if_pos known] at role
        rcases of_bind_error failed with failed | ⟨datamodel, -, failed⟩
        · obtain ⟨child, member, flaw⟩ := flaw_of_readData failed
          exact ⟨element, List.mem_cons_self, .inside role member flaw⟩
        · exact later failed
      · next foreign =>
        rw [if_neg foreign] at role
        cases failed
        exact ⟨element, List.mem_cons_self, .misplaced role⟩

/-- Elements of a chart that are read have none of the flaws that are told, but for outermost states
without an identifier. -/
theorem of_flaw_of_readChart {elements : List Element} {description result : Description}
    (read : readChart elements description = .ok result) :
    ∀ child ∈ elements, ∀ reason, child.Flaw .chart (some reason) →
      isStateTag child.tag ∧ child.said "id" = "" := by
  induction elements generalizing description with
  | nil => exact fun child member => nomatch member
  | cons element elements ih =>
    have role := Role.within_chart element
    unfold readChart at read
    refine List.forall_mem_cons.2 ?_
    split at read
    · next state =>
      rw [if_pos state] at role
      obtain ⟨records, here, read⟩ := of_bind read
      exact ⟨fun reason flaw =>
        ⟨state, of_flaw_of_stateRecords element.toNode rfl role here flaw⟩, ih read⟩
    · next notState =>
      rw [if_neg notState] at role
      split at read
      · next known =>
        rw [if_pos known] at role
        obtain ⟨datamodel, here, read⟩ := of_bind read
        refine ⟨fun reason flaw => ?_, ih read⟩
        rcases flaw.of_known role with ⟨name, needed, -⟩ | ⟨hook, -⟩ | ⟨name, flag, -⟩ |
          ⟨child, member, flaw⟩
        · cases needed
        · cases hook
        · cases flag
        · exact absurd flaw (not_flaw_of_readData here child member reason)
      · cases read

/-! ### Documents -/

/-- **What is told of a document that is refused is one of its flaws.** -/
theorem flawed_of_description {root : Element} {reason : Malformation}
    (failed : description root = .error reason) : root.Flawed (some reason) := by
  rcases of_bind_error failed with failed | ⟨opened, chart, failed⟩
  · obtain ⟨child, member, flaw⟩ := flaw_of_readChart failed
    exact .inside member flaw
  · obtain ⟨records, states, tells⟩ := readChart_tells chart
    rw [List.nil_append] at states
    split at failed
    · cases failed
    · next name named =>
      rw [states, markInitial?_eq] at failed
      cases found : records.findIdx? fun record => record.identifier = some name with
      | some first =>
        rw [found] at failed
        cases failed
      | none =>
        rw [found] at failed
        cases failed
        refine .undeclared named fun element member same => ?_
        rw [standingIn_eq_flatMap] at member
        obtain ⟨index, here⟩ := List.mem_iff_getElem?.1 member
        have inside : index < records.length :=
          tells.length_eq ▸ (List.getElem?_eq_some_iff.1 here).1
        have told := rel_of_getElem? tells here (List.getElem?_eq_getElem inside)
        have nowhere := List.findIdx?_eq_none_iff.1 found _ (List.getElem_mem inside)
        rw [told.identifier, same] at nowhere
        simp at nowhere

/-- **A document that is read has none of the flaws that are told while reading**: what is told of
it later is that an outermost state has no identifier. -/
theorem of_flawed {root : Element} {description : Description}
    (read : Xml.description root = .ok description) {reason : Malformation}
    (flawed : root.Flawed (some reason)) :
    ∃ child ∈ root.children, isStateTag child.tag ∧ child.said "id" = "" := by
  obtain ⟨opened, chart, read⟩ := of_bind read
  generalize told : some reason = other at flawed
  cases flawed with
  | @inside child _ member flaw =>
    subst told
    exact ⟨child, member, of_flaw_of_readChart chart child member reason flaw⟩
  | @undeclared name named nowhere =>
    exfalso
    obtain ⟨records, states, tells⟩ := readChart_tells chart
    rw [List.nil_append] at states
    rw [named] at read
    dsimp only at read
    rw [states, markInitial?_eq] at read
    cases found : records.findIdx? fun record => record.identifier = some name with
    | none =>
      rw [found] at read
      cases read
    | some first =>
      obtain ⟨inside, here, -⟩ := List.findIdx?_eq_some_iff_getElem.1 found
      have there : first < (root.children.flatMap fun child => standing child.toNode).length :=
        tells.length_eq ▸ inside
      have told := rel_of_getElem? tells (List.getElem?_eq_getElem there)
        (List.getElem?_eq_getElem inside)
      refine nowhere (root.children.flatMap fun child => standing child.toNode)[first] ?_ ?_
      · rw [standingIn_eq_flatMap]
        exact List.getElem_mem there
      · rw [← told.identifier]
        exact of_decide_eq_true here

/-! ### Names -/

/-- A state element without an identifier is a flaw of where it stands. -/
theorem Element.flaw_of_unnamed {outer : Role} {element : Element} {identifier : Option String}
    (known : outer.within element = some (.state identifier)) (unnamed : element.said "id" = "") :
    ∃ reason, element.Flaw outer (some reason) :=
  ⟨_, .lacking known List.mem_cons_self unnamed⟩

/-- A state element has a place in a chart and in a state. -/
theorem Role.within_of_isStateTag {outer : Role} {element : Element}
    (states : outer = .chart ∨ ∃ identifier, outer = .state identifier)
    (state : isStateTag element.tag) :
    outer.within element = some (.state (element.attribute? "id")) := by
  rcases states with rfl | ⟨identifier, rfl⟩
  · rw [within_chart, if_pos state]
  · rw [within_state, if_neg (of_isStateTag state).1, if_pos state]

mutual

/-- A standing state element without an identifier is a flaw of the element it stands in. -/
theorem flaw_of_standing : (node : Node) → {outer : Role} →
    (outer = .chart ∨ ∃ identifier, outer = .state identifier) →
    {element : Element} → element ∈ standing node → element.said "id" = "" →
    ∃ child ∈ node.element?, ∃ reason, child.Flaw outer (some reason)
  | .element tag attributes content, outer, states, element, stands, unnamed => by
    rw [standing] at stands
    split at stands
    · next state =>
      let outermost : Element := { tag, attributes, content }
      have known : outer.within outermost = _ := Role.within_of_isStateTag states state
      refine ⟨outermost, rfl, ?_⟩
      rcases List.mem_cons.1 stands with rfl | deeper
      · exact Element.flaw_of_unnamed known unnamed
      · obtain ⟨child, member, reason, flaw⟩ :=
          flaw_of_standingIn content (.inr ⟨_, rfl⟩) deeper unnamed
        exact ⟨reason, .inside known member flaw⟩
    · cases stands
  | .text _, _, _, _, stands, _ | .comment _, _, _, _, stands, _
  | .instruction _ _, _, _, _, stands, _ => nomatch stands

theorem flaw_of_standingIn : (content : List Node) → {outer : Role} →
    (outer = .chart ∨ ∃ identifier, outer = .state identifier) →
    {element : Element} → element ∈ standingIn content → element.said "id" = "" →
    ∃ child ∈ content.filterMap Node.element?, ∃ reason, child.Flaw outer (some reason)
  | [], _, _, _, stands, _ => nomatch stands
  | node :: rest, outer, states, element, stands, unnamed => by
    rcases List.mem_append.1 stands with first | later
    · obtain ⟨child, here, told⟩ := flaw_of_standing node states first unnamed
      exact ⟨child, List.mem_filterMap.2 ⟨node, List.mem_cons_self, here⟩, told⟩
    · obtain ⟨child, member, told⟩ := flaw_of_standingIn rest states later unnamed
      obtain ⟨behind, among, same⟩ := List.mem_filterMap.1 member
      exact ⟨child, List.mem_filterMap.2 ⟨behind, List.mem_cons_of_mem _ among, same⟩, told⟩

end

/-- The names of the states that stand in a chart, empty where they are missing. -/
def Element.names (root : Element) : List String :=
  (standingIn root.content).map fun element => element.said "id"

/-- A description describes states of these names. -/
theorem names_flattened {root : Element} {description : Description}
    (read : Xml.description root = .ok description) :
    description.flattened.map State.name = root.names := by
  have tells := (flattens_of_description read).records
  unfold Description.flattened Element.names
  rw [List.map_map, ← List.forall₂_eq_eq_eq, List.forall₂_map_left_iff, List.forall₂_map_right_iff]
  exact tells.flip.imp fun record element told => congrArg (Option.getD · "") told.identifier

/-- A document that is read has a flaw that is told if a name is missing, and only then. -/
theorem exists_flawed_iff {root : Element} {description : Description}
    (read : Xml.description root = .ok description) :
    (∃ reason, root.Flawed (some reason)) ↔ "" ∈ root.names := by
  constructor
  · rintro ⟨reason, flawed⟩
    obtain ⟨child, member, state, unnamed⟩ := of_flawed read flawed
    refine List.mem_map.2 ⟨child, ?_, unnamed⟩
    rw [standingIn_eq_flatMap]
    exact List.mem_flatMap.2 ⟨child, member, by
      rw [Element.toNode, standing, if_pos state]
      exact List.mem_cons_self⟩
  · intro unnamed
    obtain ⟨element, stands, missing⟩ := List.mem_map.1 unnamed
    obtain ⟨child, member, reason, flaw⟩ :=
      flaw_of_standingIn root.content (.inl rfl) stands missing
    exact ⟨reason, .inside member flaw⟩

/-- What is told of a document that is read but whose names are not all given. -/
theorem flawed_missingIdentifier {root : Element} {description : Description}
    (read : Xml.description root = .ok description) (unnamed : "" ∈ root.names) :
    root.Flawed (some .missingIdentifier) := by
  obtain ⟨reason, flawed⟩ := (exists_flawed_iff read).2 unnamed
  obtain ⟨child, member, state, missing⟩ := of_flawed read flawed
  have known := Role.within_of_isStateTag (.inl rfl) state
  exact .inside member (.lacking known List.mem_cons_self missing)

end Xml

/-! ### Machines -/

namespace Machine

open Xml Chart

variable {text : String} {root : Element} {reason : Malformation}

theorem ofXml_of_error (found : Xml.root? text = some root)
    (failed : Xml.description root = .error reason) :
    ofXml text = .error (.chart (.malformed reason)) := by
  unfold ofXml Description.ofXml
  rw [found]
  dsimp only
  rw [failed]

theorem ofXml_of_ok {description : Description} (found : Xml.root? text = some root)
    (read : Xml.description root = .ok description) :
    ofXml text = description.build.mapError .chart := by
  unfold ofXml Description.ofXml
  rw [found]
  dsimp only
  rw [read]

/-- What is told of a document that is read. -/
theorem ofXml_malformed_of_ok {description : Description} (found : Xml.root? text = some root)
    (read : Xml.description root = .ok description) :
    ofXml text = .error (.chart (.malformed reason)) ↔
      Rejects .missingIdentifier description.flattened (.malformed reason) := by
  rw [ofXml_of_ok found read, ← Description.build_eq_error_iff]
  cases description.build with
  | ok machine => exact ⟨fun told => (nomatch told), fun told => (nomatch told)⟩
  | error fault => exact ⟨fun told => by cases told; rfl, fun told => by cases told; rfl⟩

/-- **Flawed charts are refused.** A document is refused as malformed exactly if it has one of the
flaws that are looked for, or two of its states have the same name. What is told of it then is one
of its flaws, or such a name. -/
theorem ofXml_malformed_iff (found : Xml.root? text = some root) :
    ((∃ reason, ofXml text = .error (.chart (.malformed reason))) ↔
      (∃ reason, root.Flawed (some reason)) ∨ ¬ root.names.Nodup) ∧
    ∀ reason, ofXml text = .error (.chart (.malformed reason)) →
      root.Flawed (some reason) ∨
        ∃ name, reason = .duplicateState name ∧ IsRepeated root.names name := by
  cases read : Xml.description root with
  | error told =>
    have refused := ofXml_of_error found read
    have flawed := flawed_of_description read
    refine ⟨⟨fun _ => .inl ⟨told, flawed⟩, fun _ => ⟨told, refused⟩⟩, fun reason same => ?_⟩
    rw [refused] at same
    cases same
    exact .inl flawed
  | ok description =>
    have names := names_flattened read
    have told : ∀ reason, ofXml text = .error (.chart (.malformed reason)) →
        root.Flawed (some reason) ∨
          ∃ name, reason = .duplicateState name ∧ IsRepeated root.names name := by
      intro reason refused
      cases (ofXml_malformed_of_ok found read).1 refused with
      | unnamed member empty =>
        have unnamed : "" ∈ root.names := by
          rw [← names, ← empty]
          exact List.mem_map_of_mem member
        exact .inl (flawed_missingIdentifier read unnamed)
      | repeated _ twice _ => exact .inr ⟨_, rfl, names ▸ twice⟩
    refine ⟨⟨?_, ?_⟩, told⟩
    · rintro ⟨reason, refused⟩
      rcases told reason refused with flawed | ⟨name, -, twice⟩
      · exact .inl ⟨reason, flawed⟩
      · exact .inr (not_nodup_of_isRepeated twice)
    · intro faulty
      by_cases unnamed : "" ∈ root.names
      · rw [← names] at unnamed
        obtain ⟨state, member, empty⟩ := List.mem_map.1 unnamed
        exact ⟨_, (ofXml_malformed_of_ok found read).2 (.unnamed member empty)⟩
      · have alike : ¬ (description.flattened.map State.name).Nodup := by
          rcases faulty with flawed | alike
          · exact absurd ((exists_flawed_iff read).1 flawed) unnamed
          · rwa [names]
        cases built : description.build with
        | ok machine =>
          have gives := Description.build_eq_ok_iff.1 built
          have coherent :=
            coherent_of_ofStates? (ofStates?_eq_ok_iff_perm.2 ⟨gives.built, gives.states⟩)
          exact absurd coherent.distinct alike
        | error fault =>
          have rejects := Description.build_eq_error_iff.1 built
          cases rejects with
          | unnamed member empty =>
            exact ⟨_, (ofXml_malformed_of_ok found read).2 (.unnamed member empty)⟩
          | repeated named twice least =>
            exact ⟨_, (ofXml_malformed_of_ok found read).2 (.repeated named twice least)⟩
          | noInitial _ distinct | ambiguous _ distinct | unknown _ distinct =>
            exact absurd distinct alike

/-- A hall with a room, from which a way leads to nowhere. -/
def maze : String :=
  "<chart><state id=\"hall\" initial=\"true\"><state id=\"room\">" ++
  "<transition event=\"go\"/></state></state></chart>"

/-- The maze is refused for the transition in the room in its hall. -/
theorem ofXml_malformed_maze :
    (∃ root, Xml.root? maze = some root ∧
      root.Flawed (some (.missingAttribute "transition" "target"))) ∧
    ∃ reason, ofXml maze = .error (.chart (.malformed reason)) := by
  have nested : ∃ root ∈ Xml.root? maze,
      ∃ hall ∈ root.children, Role.chart.within hall = some (.state (some "hall")) ∧
      ∃ room ∈ hall.children, (Role.state (some "hall")).within room = some (.state (some "room")) ∧
      ∃ way ∈ room.children, (Role.state (some "room")).within way = some .transition ∧
        way.tag = "transition" ∧ way.said "target" = "" := by decide +kernel
  obtain ⟨root, found, hall, outer, hallKnown, room, inner, roomKnown, way, inside, wayKnown, tag,
    missing⟩ := nested
  have lacks : way.Flaw (.state (some "room"))
      (some (.missingAttribute "transition" "target")) := by
    rw [← tag]
    exact .lacking wayKnown (List.mem_cons_of_mem _ List.mem_cons_self) missing
  have flawed :=
    Element.Flawed.inside outer (.inside hallKnown inner (.inside roomKnown inside lacks))
  exact ⟨⟨root, found, flawed⟩, (ofXml_malformed_iff found).1.2 (.inl ⟨_, flawed⟩)⟩

-- Nothing is looked for inside a transition, nor whether a final element says that it is final.
example :
    let text := "<chart><state id=\"a\" initial=\"true\"><transition event=\"e\" target=\"b\">" ++
      "<action>x</action></transition></state><final id=\"b\" final=\"maybe\"/></chart>"
    ∃ description ∈ (Description.ofXml text).toOption, Coherent description.flattened := by
  decide +kernel

end Machine

end Statechart
