/-
**Comments may be put anywhere into the content of an element.**

A place in the content of an element is reached behind start tags, nodes and a part of a text. A
document with a comment at such a place is a document, and its tree is the same but for the comment
and for the text that the comment parts.

* `Xml.ContentPlace`: the places in the content of an element and of those inside it.
* `Xml.Place`: the places in a document.
* `Xml.Commented`: content with a comment more.
* `Xml.content?_commented`: what is read of some content with a comment.
* `Xml.root?_commented`: what is read of a document with a comment.
-/

import Statechart.Proofs.Xml.Elements
import Statechart.Proofs.Xml.Prolog
import Statechart.Proofs.Xml.Parting

namespace Statechart.Xml

/-! ### Comments -/

/-- **A text that a comment can hold.** -/
structure IsComment (value : List Char) : Prop where
  admitted : ∀ char ∈ value, isAdmitted char
  /-- Two hyphens would be the start of the comment's end. -/
  parted : ¬ ['-', '-'] <:+: value
  ends : value.getLast? ≠ some '-'

/-- A comment as it is written. -/
def writtenComment (value : List Char) : List Char := "<!--".toList ++ (value ++ "-->".toList)

theorem IsComment.tail {char : Char} {value : List Char} (comment : IsComment (char :: value)) :
    IsComment value where
  admitted other inside := comment.admitted other (List.mem_cons_of_mem _ inside)
  parted inside := comment.parted (inside.trans (List.suffix_cons _ _).isInfix)
  ends := by
    cases value with
    | nil => exact fun last => (nomatch last)
    | cons second value => exact comment.ends

/-- The end of a comment is found. -/
theorem IsComment.until? {value : List Char} (comment : IsComment value) (rest : List Char) :
    until? (startsWith "-->".toList) (value ++ ("-->".toList ++ rest)) =
      some (value, "-->".toList ++ rest) := by
  induction value with
  | nil => rfl
  | cons char value ih =>
    have goesOn : ¬ startsWith "-->".toList (char :: (value ++ ("-->".toList ++ rest))) := by
      rw [startsWith_iff]
      rintro ⟨behind, same⟩
      obtain ⟨first, same⟩ := List.cons.inj same
      cases value with
      | nil => exact comment.ends (congrArg some first.symm)
      | cons second value =>
        obtain ⟨next, -⟩ := List.cons.inj same
        exact comment.parted ⟨[], value, by rw [← first, ← next]; rfl⟩
    have admitted : ¬ (!isAdmitted char) = true := by
      rw [comment.admitted char List.mem_cons_self]
      decide
    rw [List.cons_append, Xml.until?, if_neg admitted, if_neg goesOn, ih comment.tail]
    rfl

/-- Two hyphens side by side are a pair of neighbours. -/
theorem infix_of_mem_zip {value : List Char} (pair : ('-', '-') ∈ value.zip (value.drop 1)) :
    ['-', '-'] <:+: value := by
  induction value with
  | nil => cases pair
  | cons first value ih =>
    cases value with
    | nil => cases pair
    | cons second value =>
      rcases List.mem_cons.1 pair with same | later
      · cases same
        exact ⟨[], value, rfl⟩
      · exact (ih later).trans (List.suffix_cons _ _).isInfix

theorem IsComment.takes {value : List Char} (comment : IsComment value) :
    Takes comment? (value ++ "-->".toList) (.comment (String.ofList value)) := by
  intro rest
  rw [List.append_assoc]
  refine bind_eq_some (comment.until? rest) (bind_eq_some (behind?_append _ rest) ?_)
  rw [if_neg comment.ends, if_neg]
  intro pair
  exact comment.parted (infix_of_mem_zip (List.contains_iff_mem.1 pair))

theorem IsComment.item {value : List Char} (comment : IsComment value) (fuel : Nat) (scope : Scope)
    (rest : List Char) :
    Item fuel scope (writtenComment value ++ rest) (.comment (String.ofList value)) rest := by
  unfold writtenComment
  rw [List.append_assoc]
  exact .comment (comment.takes rest)

/-! ### Parts of texts -/

theorem hasInside_iff {word text : List Char} : hasInside word text ↔ word <:+: text := by
  induction text with
  | nil => rw [hasInside, List.isEmpty_iff, List.infix_nil]
  | cons char text ih =>
    rw [hasInside, Bool.or_eq_true, startsWith_iff, ih, List.infix_cons_iff]

/-- A run of characters up to the next tag goes on behind each of its parts. -/
theorem until?_append {data after run rest : List Char} (plain : '<' ∉ data)
    (read : until? (fun rest => rest.head? = some '<') (data ++ after) = some (run, rest)) :
    (∃ behind, run = data ++ behind ∧
      until? (fun rest => rest.head? = some '<') after = some (behind, rest)) ∧
    ∀ tag, until? (fun rest => rest.head? = some '<') (data ++ '<' :: tag) =
      some (data, '<' :: tag) := by
  induction data generalizing run with
  | nil => exact ⟨⟨run, rfl, read⟩, fun tag => rfl⟩
  | cons char data ih =>
    rw [List.cons_append] at read
    unfold until? at read
    split at read
    · cases read
    · next admitted =>
      split at read
      · next tagged =>
        have same : some char = some '<' := of_decide_eq_true tagged
        cases same
        exact absurd List.mem_cons_self plain
      · next untagged =>
        obtain ⟨⟨inner, behind⟩, found, told⟩ := Option.map_eq_some_iff.1 read
        cases told
        obtain ⟨⟨behind, rfl, later⟩, again⟩ := ih (fun inside => plain (.tail _ inside)) found
        refine ⟨⟨behind, rfl, later⟩, fun tag => ?_⟩
        have untagged' : ¬ decide ((char :: (data ++ '<' :: tag)).head? = some '<') := untagged
        rw [List.cons_append, until?, if_neg admitted, if_neg untagged', again]
        rfl

/-- **A text is parted where its first part can be read.** -/
theorem text?_append {data after rest text : List Char} {node : Node} (plain : '<' ∉ data)
    (given : textOf? data = some text) (read : text? (data ++ after) = some (node, rest)) :
    (∃ value value', node = .text value ∧ text? after = some (.text value', rest)) ∧
    ∀ tag, text? (data ++ '<' :: tag) = some (.text (String.ofList text), '<' :: tag) := by
  obtain ⟨⟨run, behind⟩, found, checked⟩ := of_bind_some read
  dsimp only at checked
  split at checked
  · cases checked
  · next unended =>
    obtain ⟨value, whole, told⟩ := of_bind_some checked
    cases told
    obtain ⟨⟨behind, rfl, later⟩, again⟩ := until?_append plain found
    rw [hasInside_iff] at unended
    constructor
    · have second := isSome_textOf?_of_append (Option.isSome_iff_exists.2 ⟨text, given⟩)
        (Option.isSome_iff_exists.2 ⟨value, whole⟩)
      obtain ⟨text', given'⟩ := Option.isSome_iff_exists.1 second
      refine ⟨String.ofList value, String.ofList text', rfl, bind_eq_some later ?_⟩
      dsimp only
      rw [if_neg, given']
      · rfl
      · rw [hasInside_iff]
        exact fun inside => unended (inside.trans (List.suffix_append _ _).isInfix)
    · intro tag
      refine bind_eq_some (again tag) ?_
      dsimp only
      rw [if_neg, given]
      · rfl
      · rw [hasInside_iff]
        exact fun inside => unended (inside.trans (List.prefix_append _ _).isInfix)

/-! ### Content with a comment -/

/-- The nodes that a text makes, of which there are none if it is empty. -/
def textNodes : List Char → List Char → List Node
  | [], _ => []
  | _ :: _, text => [.text (String.ofList text)]

/-- **The places in the content of an element** and of those inside it, given by what stands before
them and behind them. With a place come the nodes before it and the open elements around it, each
with the nodes before it and the outermost first. -/
inductive ContentPlace : Scope → List Char → List Char → List Node → List Element → Prop
  /-- In a text, or between two nodes. -/
  | here {scope : Scope} {data after text : List Char} (plain : '<' ∉ data)
      (given : textOf? data = some text) : ContentPlace scope data after (textNodes data text) []
  /-- Behind a node. -/
  | behind {fuel : Nat} {scope : Scope} {piece before after : List Char} {node : Node}
      {nodes : List Node} {opened : List Element}
      (item : Item fuel scope (piece ++ (before ++ after)) node (before ++ after))
      (place : ContentPlace scope before after nodes opened) :
      ContentPlace scope (piece ++ before) after (node :: nodes) opened
  /-- Inside an element. -/
  | inside {scope : Scope} {tag : StartTag} {piece before after : List Char} {nodes : List Node}
      {opened : List Element}
      (starts : startTag? scope (piece ++ (before ++ after)) = some (tag, before ++ after))
      (isOpen : tag.isOpen) (place : ContentPlace tag.scope before after nodes opened) :
      ContentPlace scope ('<' :: (piece ++ before)) after [] (tag.element nodes :: opened)

/-- **Some content, and the same content with a comment more**, behind some nodes of it or inside an
element that is behind them. -/
inductive Commented (comment : String) :
    List Node → List Element → List Node → List Node → Prop
  | here {nodes behind held : List Node}
      (same : (nodes ++ behind).filterMap Node.element? = held.filterMap Node.element?) :
      Commented comment nodes [] held (nodes ++ .comment comment :: behind)
  | inside {tag : StartTag} {nodes behind inner held held' : List Node} {opened : List Element}
      (deeper : Commented comment inner opened held held') :
      Commented comment nodes (tag.element inner :: opened)
        (nodes ++ (tag.element held).toNode :: behind)
        (nodes ++ (tag.element held').toNode :: behind)

/-- A node in front. -/
theorem Commented.cons {comment : String} {nodes held held' : List Node} {opened : List Element}
    (commented : Commented comment nodes opened held held') (node : Node) :
    Commented comment (node :: nodes) opened (node :: held) (node :: held') := by
  cases commented with
  | here same =>
    refine .here ?_
    rw [List.cons_append, List.filterMap_cons, List.filterMap_cons, same]
  | inside deeper => exact .inside deeper

/-- A node that does not start with a tag is a text. -/
theorem Item.text_of_ne {fuel : Nat} {scope : Scope} {char : Char} {text rest : List Char}
    {node : Node} (item : Item fuel scope (char :: text) node rest) (other : char ≠ '<') :
    text? (char :: text) = some (node, rest) := by
  cases item with
  | comment | cdata | instruction | element => exact absurd rfl other
  | text _ read => exact read

/-- Content behind the rest of a text, which may be empty. -/
theorem content?_behind_text {fuel : Nat} {scope : Scope} {name : QualifiedName}
    {text between rest : List Char} {value : String} {nodes : List Node}
    (read : text? text = some (.text value, between))
    (later : content? fuel scope name between = some (nodes, rest)) :
    ∃ behind, behind.filterMap Node.element? = nodes.filterMap Node.element? ∧
      content? (fuel + 1) scope name text = some (behind, rest) := by
  cases text with
  | nil =>
    cases read
    cases fuel <;> cases later
  | cons char text =>
    by_cases tagged : char = '<'
    · subst tagged
      have none : text? ('<' :: text) = some (.text (String.ofList []), '<' :: text) := rfl
      cases none.symm.trans read
      exact ⟨nodes, rfl, content?_mono (Nat.le_succ _) later⟩
    · exact ⟨.text value :: nodes, rfl,
        content?_succ_eq_some_iff.2 (.inr ⟨_, between, nodes, .text tagged read, later, rfl⟩)⟩

/-- **Content is parted behind a part of a text.** -/
theorem content?_append {fuel : Nat} {scope : Scope} {name : QualifiedName}
    {data after rest text : List Char} {nodes : List Node} (plain : '<' ∉ data)
    (given : textOf? data = some text)
    (read : content? fuel scope name (data ++ after) = some (nodes, rest)) :
    ∃ behind, (textNodes data text ++ behind).filterMap Node.element? =
        nodes.filterMap Node.element? ∧
      content? fuel scope name after = some (behind, rest) ∧
      ∀ tag fuel' others, content? fuel' scope name ('<' :: tag) = some (others, rest) →
        content? (fuel' + 1) scope name (data ++ '<' :: tag) =
          some (textNodes data text ++ others, rest) := by
  cases data with
  | nil =>
    exact ⟨nodes, rfl, read, fun tag fuel' others later => content?_mono (Nat.le_succ _) later⟩
  | cons char data =>
    have other : char ≠ '<' := by
      rintro rfl
      exact plain List.mem_cons_self
    cases fuel with
    | zero => cases read
    | succ fuel =>
      rcases content?_succ_eq_some_iff.1 read with
        ⟨-, behind, same, -⟩ | ⟨node, between, others, item, later, rfl⟩
      · exact absurd (List.cons.inj same).1 other
      · obtain ⟨⟨value, value', rfl, second⟩, again⟩ :=
          text?_append plain given (item.text_of_ne other)
        obtain ⟨behind, elements, goesOn⟩ := content?_behind_text second later
        refine ⟨behind, elements, goesOn, fun tag fuel' others later => ?_⟩
        exact content?_succ_eq_some_iff.2
          (.inr ⟨_, '<' :: tag, others, .text other (again tag), later, rfl⟩)

/-- A comment may follow a node, whatever stands behind it. -/
theorem follows_comment {fuel : Nat} {scope : Scope} {name : QualifiedName}
    {before after rest : List Char} {nodes : List Node} (value : List Char)
    (read : content? fuel scope name (before ++ after) = some (nodes, rest)) :
    Follows (before ++ after) (before ++ (writtenComment value ++ after)) := by
  cases before with
  | nil =>
    refine .inr ⟨?_, rfl⟩
    rintro empty
    rw [empty] at read
    cases fuel <;> cases read
  | cons char before => exact .inl rfl

/-- **What is read of some content with a comment** is the same content with a comment more. -/
theorem content?_commented {scope : Scope} {before after value : List Char} {nodes : List Node}
    {opened : List Element} (place : ContentPlace scope before after nodes opened)
    (comment : IsComment value) {fuel : Nat} {name : QualifiedName} {held : List Node}
    {rest : List Char} (read : content? fuel scope name (before ++ after) = some (held, rest)) :
    ∃ held', Commented (String.ofList value) nodes opened held held' ∧ ∀ fuel', fuel + 2 ≤ fuel' →
      content? fuel' scope name (before ++ (writtenComment value ++ after)) =
        some (held', rest) := by
  induction place generalizing fuel name held rest with
  | @here scope data after text plain given =>
    obtain ⟨behind, same, goesOn, again⟩ := content?_append plain given read
    refine ⟨_, .here same, fun fuel' enough => ?_⟩
    obtain ⟨fuel', rfl⟩ : ∃ less, fuel' = less + 2 := ⟨fuel' - 2, by omega⟩
    have goesOn := content?_mono (show fuel ≤ fuel' by omega) goesOn
    exact again _ _ _ (content?_succ_eq_some_iff.2
      (.inr ⟨_, after, behind, comment.item fuel' scope after, goesOn, rfl⟩))
  | @behind fuel₀ scope piece before after node nodes opened item place ih =>
    rw [List.append_assoc] at read
    cases fuel with
    | zero => cases read
    | succ fuel =>
      rcases content?_succ_eq_some_iff.1 read with
        ⟨-, behind, same, -⟩ | ⟨node', between, others, item', later, rfl⟩
      · exact absurd same (item.ne_endTag behind)
      · obtain ⟨rfl, rfl⟩ := item.unique item'
        obtain ⟨held', commented, again⟩ := ih later
        refine ⟨node :: held', commented.cons node, fun fuel' enough => ?_⟩
        obtain ⟨fuel', rfl⟩ : ∃ less, fuel' = less + 1 := ⟨fuel' - 1, by omega⟩
        rw [List.append_assoc]
        exact content?_succ_eq_some_iff.2 (.inr ⟨node, _, held',
          item'.takes (by omega) (follows_comment value later), again fuel' (by omega), rfl⟩)
  | @inside scope tag piece before after nodes opened starts isOpen place ih =>
    rw [List.cons_append, List.append_assoc] at read
    obtain ⟨piece', same, named, takes⟩ := startTag?_takes starts
    obtain rfl := List.append_cancel_right same
    cases fuel with
    | zero => cases read
    | succ fuel =>
      obtain ⟨node, between, others, element, later, rfl⟩ :=
        (content?_of_startsName (named.append _)).1 read
      cases fuel with
      | zero => cases element
      | succ fuel =>
        obtain ⟨content, inner, rfl⟩ := (element?_of_isOpen starts isOpen).1 element
        obtain ⟨held', commented, again⟩ := ih inner
        refine ⟨(tag.element held').toNode :: others, .inside commented, fun fuel' enough => ?_⟩
        obtain ⟨fuel', rfl⟩ : ∃ less, fuel' = less + 2 := ⟨fuel' - 2, by omega⟩
        have element' := (element?_of_isOpen (takes _) isOpen).2
          ⟨held', again fuel' (by omega), rfl⟩
        rw [List.cons_append, List.append_assoc]
        exact (content?_of_startsName (named.append _)).2
          ⟨_, between, others, element', content?_mono (by omega) later, rfl⟩

/-! ### Texts that touch -/

/-- A node that is no text keeps texts apart. -/
theorem joinTexts_append {node : Node} (apart : ∀ value, node ≠ .text value)
    (nodes behind : List Node) :
    joinTexts (nodes ++ node :: behind) = joinTexts nodes ++ node :: joinTexts behind := by
  induction nodes with
  | nil =>
    cases node with
    | text value => exact absurd rfl (apart value)
    | _ => rfl
  | cons first nodes ih =>
    cases first with
    | text value =>
      rw [List.cons_append, joinTexts, joinTexts, ih]
      cases joinTexts nodes with
      | nil =>
        cases node with
        | text value => exact absurd rfl (apart value)
        | _ => rfl
      | cons second nodes => cases second <;> rfl
    | _ =>
      rw [List.cons_append, joinTexts, joinTexts, ih]
      · rfl
      all_goals
        intro _ same
        cases same

/-- The elements among some nodes stay. -/
theorem filterMap_joinTexts (nodes : List Node) :
    (joinTexts nodes).filterMap Node.element? = nodes.filterMap Node.element? := by
  induction nodes with
  | nil => rfl
  | cons first nodes ih =>
    cases first with
    | text value =>
      rw [joinTexts, List.filterMap_cons_none rfl, ← ih]
      cases joinTexts nodes with
      | nil => rfl
      | cons second nodes => cases second <;> rfl
    | _ =>
      rw [joinTexts, List.filterMap_cons, List.filterMap_cons, ih]
      all_goals
        intro _ same
        cases same

/-! ### Elements inside others -/

/-- An element but for one of those that stand in it. -/
structure Layer where
  tag : String
  attributes : List Attribute
  before : List Node
  after : List Node

/-- A layer with the element that stands in it. -/
def Layer.around (layer : Layer) (element : Element) : Element where
  tag := layer.tag
  attributes := layer.attributes
  content := layer.before ++ element.toNode :: layer.after

/-- A layer up to the element that stands in it. -/
def Layer.opened (layer : Layer) : Element where
  tag := layer.tag
  attributes := layer.attributes
  content := layer.before

/-- An element inside some layers, of which the outermost comes first. -/
def Element.inside (element : Element) (layers : List Layer) : Element :=
  layers.foldr Layer.around element

/-- **The element that holds a place**, in the layers around it, if these elements are open
there. -/
structure Element.Holds (root : Element) (opened : List Element) (layers : List Layer)
    (element : Element) (before : List Node) : Prop where
  whole : root = element.inside layers
  opened : opened = layers.map Layer.opened ++ [{ element with content := before }]

/-- An element with a comment behind some of its content. -/
def Element.commented (element : Element) (before behind : List Node) (comment : String) :
    Element :=
  { element with content := before ++ .comment comment :: behind }

theorem Commented.exists_layers {comment : String} {nodes held held' : List Node}
    {opened : List Element} (commented : Commented comment nodes opened held held')
    (tag : StartTag) :
    ∃ layers element before behind,
      (tag.element held).Holds (tag.element nodes :: opened) layers element before ∧
      (before ++ behind).filterMap Node.element? = element.children ∧
      tag.element held' = (element.commented before behind comment).inside layers := by
  induction commented generalizing tag with
  | @here nodes behind held same =>
    refine ⟨[], tag.element held, joinTexts nodes, joinTexts behind, ⟨rfl, rfl⟩, ?_, ?_⟩
    · unfold Element.children StartTag.element
      rw [List.filterMap_append, filterMap_joinTexts, filterMap_joinTexts, filterMap_joinTexts,
        ← List.filterMap_append, same]
    · unfold StartTag.element
      rw [joinTexts_append]
      · rfl
      · nofun
  | @inside tag' nodes behind inner held held' opened deeper ih =>
    obtain ⟨layers, element, before, after, holds, children, same⟩ := ih tag'
    -- The layer around the element that starts with the inner tag.
    let layer : Layer := ⟨tag.name.name, tag.attributes, joinTexts nodes, joinTexts behind⟩
    have around (content : List Node) :
        tag.element (nodes ++ (tag'.element content).toNode :: behind) =
          layer.around (tag'.element content) := by
      unfold StartTag.element Element.toNode
      rw [joinTexts_append]
      · rfl
      · nofun
    refine ⟨layer :: layers, element, before, after, ⟨?_, ?_⟩, children, ?_⟩
    · rw [around, holds.whole]
      rfl
    · rw [holds.opened]
      rfl
    · rw [around, same]
      rfl

/-! ### Documents -/

/-- A document is an element with what stands around it. -/
theorem root?_eq (document : String) : root? document = (do
    let rest ← opening? document.toList
    let (node, rest) ← element? (2 * rest.length + 1) [] rest
    let rest ← skipAround? rest.length rest
    if rest.isEmpty then node.element? else none) := by
  unfold root? opening? behindProlog? behindAround?
  dsimp only
  split
  all_goals simp only [bind_assoc]

/-- **The places in a document**, given by what stands before them and behind them, with the open
elements around them. -/
inductive Place : List Char → List Char → List Element → Prop
  | inside {prolog piece before after : List Char} {tag : StartTag} {nodes : List Node}
      {opened : List Element}
      (opens : opening? (prolog ++ (piece ++ (before ++ after))) =
        some (piece ++ (before ++ after)))
      (starts : startTag? [] (piece ++ (before ++ after)) = some (tag, before ++ after))
      (isOpen : tag.isOpen) (place : ContentPlace tag.scope before after nodes opened) :
      Place (prolog ++ (piece ++ before)) after (tag.element nodes :: opened)

/-- **What is read of a document with a comment** is the same document with a comment more, in the
element that holds the place. -/
theorem root?_commented {before after value : List Char} {opened : List Element} {root : Element}
    (place : Place before after opened) (comment : IsComment value)
    (read : root? (String.ofList (before ++ after)) = some root) :
    ∃ layers element stands behind, root.Holds opened layers element stands ∧
      (stands ++ behind).filterMap Node.element? = element.children ∧
      root? (String.ofList (before ++ (writtenComment value ++ after))) =
        some ((element.commented stands behind (String.ofList value)).inside layers) := by
  cases place with
  | @inside prolog piece before after tag nodes opened opens starts isOpen place =>
    obtain ⟨piece', same, named, takes⟩ := startTag?_takes starts
    obtain rfl := List.append_cancel_right same
    obtain ⟨prolog', same, again⟩ := opening?_takes opens (named.append _)
    obtain rfl := List.append_cancel_right same
    rw [root?_eq, String.toList_ofList] at read
    simp only [List.append_assoc] at read ⊢
    obtain ⟨_, opened', read⟩ := of_bind_some read
    cases opens.symm.trans opened'
    obtain ⟨⟨node, rest⟩, element, read⟩ := of_bind_some read
    obtain ⟨last, passed, ended⟩ := of_bind_some read
    obtain ⟨content, inner, rfl⟩ := (element?_of_isOpen starts isOpen).1 element
    obtain ⟨held', commented, again'⟩ := content?_commented place comment inner
    obtain ⟨layers, target, stands, after', holds, children, whole⟩ := commented.exists_layers tag
    dsimp only at ended
    split at ended
    · next empty =>
      cases ended
      refine ⟨layers, target, stands, after', holds, children, ?_⟩
      have head : (piece ++ (before ++ (writtenComment value ++ after))).head? =
          (piece ++ (before ++ after)).head? := by
        obtain ⟨char, inner, rfl, -⟩ := named.exists_cons
        rfl
      have read' : element? (2 * (piece ++ (before ++ (writtenComment value ++ after))).length + 1)
          [] (piece ++ (before ++ (writtenComment value ++ after))) =
            some ((tag.element held').toNode, rest) := by
        refine (element?_of_isOpen (takes _) isOpen).2 ⟨held', again' _ ?_, rfl⟩
        simp only [List.length_append, writtenComment]
        have written : "<!--".toList.length = 4 := rfl
        omega
      rw [root?_eq, String.toList_ofList, ← whole]
      exact bind_eq_some (again _ head)
        (bind_eq_some read' (bind_eq_some passed (if_pos empty)))
    · cases ended

end Statechart.Xml
