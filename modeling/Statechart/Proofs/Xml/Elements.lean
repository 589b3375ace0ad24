/-
**Elements are pieces.**

The content of an element is read node by node, up to its end tag. Every node is a piece, so a start
tag, an element and the content of an element are, and they are read with any fuel that is enough.

* `Xml.startTag?_takes`, `Xml.endTag?_takes`: tags are pieces.
* `Xml.item?`: the node at the front of some content.
* `Xml.content?_succ_eq_some_iff`: content is a node and more content, or comes to its end.
* `Xml.content?_takes`: elements and what they hold are pieces.
-/

import Statechart.Proofs.Xml.Pieces

namespace Statechart.Xml

/-! ### Tags -/

/-- A tag with a further attribute. -/
theorem attributes?_of_startsName {fuel : Nat} {text start : List Char}
    (skipped : skipSpaces text = start) (starts : StartsName start) :
    attributes? (fuel + 1) text = do
      if (text.head?.map isSpace) ≠ some true then none
      let (name, data, rest) ← attributeData? start
      let value ← attributeValue? data
      let (others, isOpen, rest) ← attributes? fuel rest
      return ({ name, value } :: others, isOpen, rest) := by
  obtain ⟨char, behind, rfl, named⟩ := starts.exists_cons
  rw [attributes?, skipped]
  split
  · next same =>
    cases same
    exact absurd named (by decide)
  · next same =>
    cases same
    exact absurd named (by decide)
  · rfl

/-- The end of a tag is a piece, if it answers what it marks. -/
theorem attributes?_ends {text mark rest : List Char} {written : List Written} {isOpen : Bool}
    (filled : mark ≠ []) (marked : skipSpaces text = mark ++ rest)
    (answers : ∀ (fuel : Nat) (text rest' : List Char), skipSpaces text = mark ++ rest' →
      attributes? (fuel + 1) text = some (written, isOpen, rest')) :
    ∃ piece, text = piece ++ rest ∧ piece ≠ [] ∧ ∀ fuel', piece.length ≤ fuel' →
      ∀ rest', attributes? fuel' (piece ++ rest') = some (written, isOpen, rest') := by
  obtain ⟨spaces, spaced, skip⟩ := exists_spaces text
  rw [marked] at spaced skip
  refine ⟨spaces ++ mark, ?_, by simp [filled], fun fuel' enough rest' => ?_⟩
  · rw [spaced, List.append_assoc]
  · cases fuel' with
    | zero => simp [filled] at enough
    | succ fuel' =>
      refine answers fuel' _ rest' ?_
      rw [List.append_assoc]
      exact skip _ (head?_append_of_filled filled rest rest')

/-- **The attributes of a tag**, which are taken however many there may be. -/
theorem attributes?_takes {fuel : Nat} {text rest : List Char} {written : List Written}
    {isOpen : Bool} (read : attributes? fuel text = some (written, isOpen, rest)) :
    ∃ piece, text = piece ++ rest ∧ piece ≠ [] ∧ ∀ fuel', piece.length ≤ fuel' →
      ∀ rest', attributes? fuel' (piece ++ rest') = some (written, isOpen, rest') := by
  induction fuel generalizing text written with
  | zero => cases read
  | succ fuel ih =>
    unfold attributes? at read
    split at read
    · next behind closed =>
      cases read
      refine attributes?_ends (by decide : "/>".toList ≠ []) closed
        fun fuel text rest' skipped => ?_
      unfold attributes?
      rw [skipped]
      rfl
    · next behind opened =>
      cases read
      refine attributes?_ends (by decide : ">".toList ≠ []) opened
        fun fuel text rest' skipped => ?_
      unfold attributes?
      rw [skipped]
      rfl
    · next start =>
      split at read
      · cases read
      · next apart =>
        obtain ⟨⟨name, data, between⟩, given, checked⟩ := of_bind_some read
        obtain ⟨value, valued, followed⟩ := of_bind_some checked
        obtain ⟨⟨others, isOpen', behind⟩, found, told⟩ := of_bind_some followed
        cases told
        obtain ⟨part, same, starts, takes⟩ := attributeData?_takes given
        obtain ⟨piece, rfl, filled, again⟩ := ih found
        obtain ⟨spaces, spaced, skip⟩ := exists_spaces text
        rw [same] at spaced skip
        refine ⟨spaces ++ (part ++ piece), ?_, ?_, fun fuel' enough rest' => ?_⟩
        · rw [spaced]
          simp only [List.append_assoc]
        · obtain ⟨char, behind, rfl, -⟩ := starts.exists_cons
          simp
        · obtain ⟨char, behind, rfl, -⟩ := starts.exists_cons
          simp only [List.length_append, List.length_cons] at enough
          obtain ⟨fuel', rfl⟩ : ∃ less, fuel' = less + 1 := ⟨fuel' - 1, by omega⟩
          simp only [List.append_assoc]
          have head : ((char :: behind) ++ (piece ++ rest')).head? =
            ((char :: behind) ++ (piece ++ rest)).head? := rfl
          rw [attributes?_of_startsName (skip _ head) (starts.append _), if_neg]
          · exact bind_eq_some (takes _) (bind_eq_some valued
              (bind_eq_some (again fuel' (by omega) rest') rfl))
          · rw [head?_append_congr spaces head, ← spaced]
            exact apart

/-- A start tag, with the scope inside it. -/
structure StartTag where
  name : QualifiedName
  scope : Scope
  attributes : List Attribute
  /-- Whether there is content, and an end tag behind it. -/
  isOpen : Bool
  deriving DecidableEq

/-- The element that starts with a tag. -/
def StartTag.element (tag : StartTag) (content : List Node) : Element where
  tag := tag.name.name
  attributes := tag.attributes
  content := joinTexts content

/-- The start tag behind `<`. -/
def startTag? (scope : Scope) (text : List Char) : Option (StartTag × List Char) := do
  let (name, rest) ← qualifiedName? text
  let (written, isOpen, rest) ← attributes? (rest.length + 1) rest
  let (scope, attributes) ← tagScope? scope name written
  return ({ name, scope, attributes, isOpen }, rest)

/-- The name in the end tag behind `</`. -/
def endTag? (text : List Char) : Option (QualifiedName × List Char) := do
  let (closed, rest) ← qualifiedName? text
  let rest ← behind? ['>'] (skipSpaces rest)
  return (closed, rest)

theorem startTag?_takes {scope : Scope} {text rest : List Char} {tag : StartTag}
    (read : startTag? scope text = some (tag, rest)) :
    ∃ piece, text = piece ++ rest ∧ StartsName piece ∧ Takes (startTag? scope) piece tag := by
  obtain ⟨⟨name, between⟩, named, checked⟩ := of_bind_some read
  obtain ⟨⟨written, isOpen, behind⟩, found, placed⟩ := of_bind_some checked
  obtain ⟨⟨inner, attributes⟩, resolved, told⟩ := of_bind_some placed
  cases told
  obtain ⟨chars, rfl, starts, again⟩ := qualifiedName?_takes named
  obtain ⟨piece, rfl, filled, takes⟩ := attributes?_takes found
  refine ⟨chars ++ piece, ?_, starts.append _, fun rest' => ?_⟩
  · rw [List.append_assoc]
  · rw [List.append_assoc]
    have head := head?_append_of_filled filled rest rest'
    refine bind_eq_some (again _ head) (bind_eq_some (takes _ ?_ rest') (bind_eq_some resolved rfl))
    rw [List.length_append]
    omega

theorem endTag?_takes {text rest : List Char} {name : QualifiedName}
    (read : endTag? text = some (name, rest)) :
    ∃ piece, text = piece ++ rest ∧ Takes endTag? piece name := by
  obtain ⟨⟨closed, between⟩, named, checked⟩ := of_bind_some read
  obtain ⟨behind, ends, told⟩ := of_bind_some checked
  cases told
  obtain ⟨chars, rfl, starts, again⟩ := qualifiedName?_takes named
  obtain ⟨spaces, spaced, skip⟩ := exists_spaces between
  rw [eq_of_behind? ends] at spaced skip
  refine ⟨chars ++ (spaces ++ ['>']), ?_, fun rest' => ?_⟩
  · rw [spaced]
    simp only [List.append_assoc]
  · simp only [List.append_assoc]
    have head : (['>'] ++ rest').head? = (['>'] ++ rest).head? := rfl
    refine bind_eq_some (again _ ?_) ?_
    · rw [spaced]
      exact head?_append_congr spaces head
    · dsimp only
      rw [skip _ head]
      exact bind_eq_some (behind?_append ['>'] rest') rfl

/-! ### Elements -/

/-- The node at the front of some content that has not come to its end. -/
def item? (fuel : Nat) (scope : Scope) : List Char → Option (Node × List Char)
  | [] => none
  | '<' :: '!' :: '-' :: '-' :: rest => comment? rest
  | '<' :: '!' :: rest => behind? "[CDATA[".toList rest >>= section?
  | '<' :: '?' :: rest => instruction? rest
  | '<' :: rest => element? fuel scope rest
  | text => text? text

/-- **The nodes at the front of some content**, each with what stands behind it. -/
inductive Item (fuel : Nat) (scope : Scope) : List Char → Node → List Char → Prop
  | comment {text rest : List Char} {node : Node} (read : comment? text = some (node, rest)) :
      Item fuel scope ('<' :: '!' :: '-' :: '-' :: text) node rest
  | cdata {text rest : List Char} {node : Node} (read : section? text = some (node, rest)) :
      Item fuel scope ('<' :: '!' :: ("[CDATA[".toList ++ text)) node rest
  | instruction {text rest : List Char} {node : Node}
      (read : instruction? text = some (node, rest)) :
      Item fuel scope ('<' :: '?' :: text) node rest
  | element {text rest : List Char} {node : Node}
      (read : element? fuel scope text = some (node, rest)) :
      Item fuel scope ('<' :: text) node rest
  | text {char : Char} {text rest : List Char} {node : Node} (other : char ≠ '<')
      (read : text? (char :: text) = some (node, rest)) : Item fuel scope (char :: text) node rest

/-- An element is its start tag and, if that is open, its content. -/
theorem element?_succ (fuel : Nat) (scope : Scope) (text : List Char) :
    element? (fuel + 1) scope text = do
      let (tag, rest) ← startTag? scope text
      if tag.isOpen then do
        let (content, rest) ← content? fuel tag.scope tag.name rest
        return ((tag.element content).toNode, rest)
      else return ((tag.element []).toNode, rest) := by
  rw [element?]
  unfold startTag? StartTag.element Element.toNode
  simp only [bind_assoc, pure_bind, joinTexts]

/-- An element with an open tag is what is read behind the tag. -/
theorem element?_of_isOpen {fuel : Nat} {scope : Scope} {text between rest : List Char}
    {tag : StartTag} {node : Node} (starts : startTag? scope text = some (tag, between))
    (isOpen : tag.isOpen) : element? (fuel + 1) scope text = some (node, rest) ↔
      ∃ nodes, content? fuel tag.scope tag.name between = some (nodes, rest) ∧
        node = (tag.element nodes).toNode := by
  rw [element?_succ]
  constructor
  · intro read
    obtain ⟨_, started, inside⟩ := of_bind_some read
    cases starts.symm.trans started
    dsimp only at inside
    rw [if_pos isOpen] at inside
    obtain ⟨⟨nodes, behind⟩, held, told⟩ := of_bind_some inside
    cases told
    exact ⟨nodes, held, rfl⟩
  · rintro ⟨nodes, held, rfl⟩
    refine bind_eq_some starts ?_
    dsimp only
    rw [if_pos isOpen]
    exact bind_eq_some held rfl

theorem startsName_of_element? {fuel : Nat} {scope : Scope} {text rest : List Char} {node : Node}
    (read : element? fuel scope text = some (node, rest)) : StartsName text := by
  cases fuel with
  | zero => cases read
  | succ fuel =>
    rw [element?_succ] at read
    obtain ⟨⟨tag, between⟩, started, -⟩ := of_bind_some read
    obtain ⟨piece, rfl, starts, -⟩ := startTag?_takes started
    exact starts.append _

/-- A node is one of those. -/
theorem item?_eq_some_iff {fuel : Nat} {scope : Scope} {text rest : List Char} {node : Node} :
    item? fuel scope text = some (node, rest) ↔ Item fuel scope text node rest := by
  constructor
  · intro read
    unfold item? at read
    split at read
    · cases read
    · exact .comment read
    · obtain ⟨behind, marked, read⟩ := of_bind_some read
      rw [eq_of_behind? marked]
      exact .cdata read
    · exact .instruction read
    · exact .element read
    · next filled _ _ _ other =>
      cases text with
      | nil => exact absurd rfl filled
      | cons char text =>
        refine .text ?_ read
        rintro rfl
        exact other text rfl
  · intro item
    cases item with
    | comment read => exact read
    | cdata read =>
      rw [item?]
      · exact bind_eq_some (behind?_append _ _) read
      · intro rest' same
        cases same
    | instruction read => exact read
    | element read =>
      obtain ⟨char, behind, rfl, named⟩ := (startsName_of_element? read).exists_cons
      rw [item?]
      · exact read
      all_goals
        rintro rest' same
        cases same
        exact absurd named (by decide)
    | text other read =>
      rw [item?]
      · exact read
      · exact List.cons_ne_nil _ _
      all_goals
        rintro rest' same
        cases same
        exact other rfl

/-- An end tag is no node. -/
theorem Item.ne_endTag {fuel : Nat} {scope : Scope} {text rest : List Char} {node : Node}
    (item : Item fuel scope text node rest) (behind : List Char) :
    text ≠ '<' :: '/' :: behind := by
  rintro same
  cases item with
  | comment | cdata | instruction => cases same
  | element read =>
    obtain ⟨char, inner, rfl, named⟩ := (startsName_of_element? read).exists_cons
    cases same
    exact absurd named (by decide)
  | text other =>
    cases same
    exact other rfl

/-- Content that has not come to its end is a node and more content. -/
theorem content?_of_ne_endTag {fuel : Nat} {scope : Scope} {name : QualifiedName}
    {text : List Char} (other : ∀ behind, text ≠ '<' :: '/' :: behind) :
    content? (fuel + 1) scope name text = do
      let (node, rest) ← item? fuel scope text
      let (nodes, rest) ← content? fuel scope name rest
      return (node :: nodes, rest) := by
  conv_lhs => unfold content?
  unfold item?
  split
  · rfl
  · exact absurd rfl (other _)
  · rfl
  · simp only [bind_assoc]
  · rfl
  · split <;> simp_all
  · split <;> simp_all

/-- **Content ends with an end tag, or there is a node and more content.** -/
theorem content?_succ_eq_some_iff {fuel : Nat} {scope : Scope} {name : QualifiedName}
    {text rest : List Char} {nodes : List Node} :
    content? (fuel + 1) scope name text = some (nodes, rest) ↔
      (nodes = [] ∧ ∃ behind, text = '<' :: '/' :: behind ∧ endTag? behind = some (name, rest)) ∨
      ∃ node between others, Item fuel scope text node between ∧
        content? fuel scope name between = some (others, rest) ∧ nodes = node :: others := by
  constructor
  · intro read
    by_cases ended : ∃ behind, text = '<' :: '/' :: behind
    · obtain ⟨behind, rfl⟩ := ended
      rw [content?] at read
      obtain ⟨⟨closed, between⟩, named, checked⟩ := of_bind_some read
      obtain ⟨behind', ends, told⟩ := of_bind_some checked
      split at told
      · next same =>
        cases told
        exact .inl ⟨rfl, _, rfl, bind_eq_some named (bind_eq_some ends (same ▸ rfl))⟩
      · cases told
    · rw [content?_of_ne_endTag fun behind same => ended ⟨behind, same⟩] at read
      obtain ⟨⟨node, between⟩, first, checked⟩ := of_bind_some read
      obtain ⟨⟨others, behind⟩, later, told⟩ := of_bind_some checked
      cases told
      exact .inr ⟨node, between, others, item?_eq_some_iff.1 first, later, rfl⟩
  · rintro (⟨rfl, behind, rfl, closed⟩ | ⟨node, between, others, item, later, rfl⟩)
    · obtain ⟨⟨name', between⟩, named, checked⟩ := of_bind_some closed
      obtain ⟨behind', ends, told⟩ := of_bind_some checked
      cases told
      rw [content?]
      exact bind_eq_some named (bind_eq_some ends (if_pos rfl))
    · rw [content?_of_ne_endTag item.ne_endTag]
      exact bind_eq_some (item?_eq_some_iff.2 item) (bind_eq_some later rfl)

/-- A text that may stand in the place of another behind a node: it starts alike, or with a tag. -/
def Follows (rest rest' : List Char) : Prop :=
  rest'.head? = rest.head? ∨ rest ≠ [] ∧ rest'.head? = some '<'

/-- **Nodes are pieces**, if elements are. -/
theorem Item.takes_of {fuel : Nat} {scope : Scope} {text rest : List Char} {node : Node}
    (item : Item fuel scope text node rest)
    (inner : ∀ {text}, element? fuel scope text = some (node, rest) → ∃ piece,
      text = piece ++ rest ∧ ∀ fuel', fuel ≤ fuel' → Takes (element? fuel' scope) piece node) :
    ∃ piece, text = piece ++ rest ∧ ∀ fuel', fuel ≤ fuel' → ∀ rest', Follows rest rest' →
      Item fuel' scope (piece ++ rest') node rest' := by
  cases item with
  | comment read =>
    obtain ⟨piece, rfl, takes⟩ := comment?_takes read
    exact ⟨'<' :: '!' :: '-' :: '-' :: piece, rfl, fun _ _ rest' _ => .comment (takes rest')⟩
  | cdata read =>
    obtain ⟨piece, rfl, takes⟩ := section?_takes read
    refine ⟨'<' :: '!' :: ("[CDATA[".toList ++ piece), ?_, fun _ _ rest' _ => ?_⟩
    · simp only [List.cons_append, List.append_assoc]
    · simp only [List.cons_append, List.append_assoc]
      exact .cdata (takes rest')
  | instruction read =>
    obtain ⟨piece, rfl, takes⟩ := instruction?_takes read
    exact ⟨'<' :: '?' :: piece, rfl, fun _ _ rest' _ => .instruction (takes rest')⟩
  | element read =>
    obtain ⟨piece, rfl, takes⟩ := inner read
    exact ⟨'<' :: piece, rfl, fun fuel' more rest' _ => .element (takes fuel' more rest')⟩
  | @text char text _ _ other read =>
    obtain ⟨piece, same, stops, takes⟩ := text?_takes read
    cases piece with
    | nil =>
      subst same
      rcases stops with ends | tagged
      · cases ends
      · exact absurd (Option.some.inj tagged) other
    | cons char' piece =>
      cases same
      refine ⟨char :: piece, rfl, fun _ _ rest' follows => .text other (takes rest' ?_)⟩
      rcases follows with head | ⟨filled, head⟩
      · exact head
      · rw [head, stops.resolve_left filled]

/-- **Elements and what they hold are pieces.** More fuel does no harm. -/
theorem content?_takes (fuel : Nat) :
    (∀ {scope : Scope} {text rest : List Char} {node : Node},
      element? fuel scope text = some (node, rest) →
      ∃ piece, text = piece ++ rest ∧
        ∀ fuel', fuel ≤ fuel' → Takes (element? fuel' scope) piece node) ∧
    ∀ {scope : Scope} {name : QualifiedName} {text rest : List Char} {nodes : List Node},
      content? fuel scope name text = some (nodes, rest) →
      ∃ piece, text = piece ++ rest ∧ piece ≠ [] ∧
        ∀ fuel', fuel ≤ fuel' → Takes (content? fuel' scope name) piece nodes := by
  induction fuel with
  | zero => exact ⟨fun read => (nomatch read), fun read => (nomatch read)⟩
  | succ fuel ih =>
    obtain ⟨elements, contents⟩ := ih
    constructor
    · intro scope text rest node read
      have whole := read
      rw [element?_succ] at whole
      obtain ⟨⟨tag, between⟩, started, inside⟩ := of_bind_some whole
      obtain ⟨piece, rfl, -, takes⟩ := startTag?_takes started
      by_cases isOpen : tag.isOpen
      · obtain ⟨nodes, held, rfl⟩ := (element?_of_isOpen started isOpen).1 read
        obtain ⟨content, rfl, -, again⟩ := contents held
        refine ⟨piece ++ content, ?_, fun fuel' more rest' => ?_⟩
        · rw [List.append_assoc]
        · obtain ⟨fuel', rfl⟩ : ∃ less, fuel' = less + 1 := ⟨fuel' - 1, by omega⟩
          rw [List.append_assoc]
          exact (element?_of_isOpen (takes _) isOpen).2
            ⟨nodes, again fuel' (by omega) rest', rfl⟩
      · dsimp only at inside
        rw [if_neg isOpen] at inside
        cases inside
        refine ⟨piece, rfl, fun fuel' more rest' => ?_⟩
        obtain ⟨fuel', rfl⟩ : ∃ less, fuel' = less + 1 := ⟨fuel' - 1, by omega⟩
        rw [element?_succ]
        exact bind_eq_some (takes rest') (if_neg isOpen)
    · intro scope name text rest nodes read
      rcases content?_succ_eq_some_iff.1 read with
        ⟨rfl, behind, rfl, closed⟩ | ⟨node, between, others, item, later, rfl⟩
      · obtain ⟨piece, rfl, takes⟩ := endTag?_takes closed
        refine ⟨'<' :: '/' :: piece, rfl, List.cons_ne_nil _ _, fun fuel' more rest' => ?_⟩
        obtain ⟨fuel', rfl⟩ : ∃ less, fuel' = less + 1 := ⟨fuel' - 1, by omega⟩
        exact content?_succ_eq_some_iff.2 (.inl ⟨rfl, _, rfl, takes rest'⟩)
      · obtain ⟨content, rfl, filled, again⟩ := contents later
        obtain ⟨piece, rfl, takes⟩ := item.takes_of elements
        refine ⟨piece ++ content, ?_, by simp [filled], fun fuel' more rest' => ?_⟩
        · rw [List.append_assoc]
        · obtain ⟨fuel', rfl⟩ : ∃ less, fuel' = less + 1 := ⟨fuel' - 1, by omega⟩
          have head := head?_append_of_filled filled rest rest'
          rw [List.append_assoc]
          exact content?_succ_eq_some_iff.2 (.inr ⟨node, _, others,
            takes fuel' (by omega) _ (.inl head), again fuel' (by omega) rest', rfl⟩)

/-- Content is read with any fuel that is more. -/
theorem content?_mono {fuel fuel' : Nat} {scope : Scope} {name : QualifiedName}
    {text rest : List Char} {nodes : List Node} (more : fuel ≤ fuel')
    (read : content? fuel scope name text = some (nodes, rest)) :
    content? fuel' scope name text = some (nodes, rest) := by
  obtain ⟨piece, rfl, -, takes⟩ := (content?_takes fuel).2 read
  exact takes fuel' more rest

namespace Item

variable {fuel fuel' : Nat} {scope : Scope} {text rest rest' : List Char} {node node' : Node}

/-- **Nodes are pieces**, whatever may follow them. -/
theorem takes {piece : List Char} (item : Item fuel scope (piece ++ rest) node rest)
    (more : fuel ≤ fuel') (follows : Follows rest rest') :
    Item fuel' scope (piece ++ rest') node rest' := by
  obtain ⟨piece', same, takes⟩ := item.takes_of (content?_takes fuel).1
  rw [List.append_cancel_right same]
  exact takes fuel' more rest' follows

/-- There is one node at the front of a text. -/
theorem unique (item : Item fuel scope text node rest) (item' : Item fuel' scope text node' rest') :
    node = node' ∧ rest = rest' := by
  obtain ⟨piece, rfl, takes⟩ := item.takes_of (content?_takes fuel).1
  obtain ⟨piece', same, takes'⟩ := item'.takes_of (content?_takes fuel').1
  have first := item?_eq_some_iff.2 (takes (max fuel fuel') (Nat.le_max_left _ _) rest (.inl rfl))
  have second :=
    item?_eq_some_iff.2 (takes' (max fuel fuel') (Nat.le_max_right _ _) rest' (.inl rfl))
  rw [← same, first] at second
  exact Prod.mk.inj (Option.some.inj second)

/-- A tag that starts with a name is that of an element. -/
theorem element_of_startsName (item : Item fuel scope ('<' :: text) node rest)
    (starts : StartsName text) : element? fuel scope text = some (node, rest) := by
  obtain ⟨char, behind, rfl, named⟩ := starts.exists_cons
  cases item with
  | comment | cdata | instruction => exact absurd named (by decide)
  | element read => exact read
  | text other => exact absurd rfl other

end Item

/-- Content that starts with an element is the element and more content. -/
theorem content?_of_startsName {fuel : Nat} {scope : Scope} {name : QualifiedName}
    {text rest : List Char} {nodes : List Node} (starts : StartsName text) :
    content? (fuel + 1) scope name ('<' :: text) = some (nodes, rest) ↔
      ∃ node between others, element? fuel scope text = some (node, between) ∧
        content? fuel scope name between = some (others, rest) ∧ nodes = node :: others := by
  rw [content?_succ_eq_some_iff]
  constructor
  · rintro (⟨-, behind, same, -⟩ | ⟨node, between, others, item, later, rfl⟩)
    · obtain ⟨char, behind, rfl, named⟩ := starts.exists_cons
      cases same
      exact absurd named (by decide)
    · exact ⟨node, between, others, item.element_of_startsName starts, later, rfl⟩
  · rintro ⟨node, between, others, element, later, rfl⟩
    exact .inr ⟨node, between, others, .element element, later, rfl⟩

end Statechart.Xml
