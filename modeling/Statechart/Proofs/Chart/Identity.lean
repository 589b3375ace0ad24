/-
**What the identifier of a chart tells.**

The identifier is the hash of the canonical text of the states. From this text the states are read
again, whatever characters their names, events and hooks are made of, and whichever hooks they
declare. So two charts have one identifier exactly if they have the same states, unless the hash
takes two texts for one. Where a machine is, its name and its data are no part of that.

* `Chart.canonical`: the text that is hashed.
* `Chart.read_canonical`: the states are read again from it.
* `Chart.contentId_eq_iff`: states are told by their identifier as well as by the hash.
* `Machine.sameDefinition_iff`: machines share a definition exactly if they have the same states.
-/

import Statechart.Proofs.Chart.Validity
import Statechart.Proofs.Runner.Representation

namespace Statechart

open Json Text Digest

/-- Two different messages with one hash. -/
def Digest.Collide (first second : Bytes) : Prop := first ≠ second ∧ sha256 first = sha256 second

namespace Chart

/-- The canonical text of states, of which the identifier is the hash. -/
def canonical (states : List State) : Bytes :=
  utf8 (Value.list (states.map State.toValue)).render

theorem contentId_eq (states : List State) : contentId states = hex (sha256 (canonical states)) :=
  rfl

/-- **The states are read again from their canonical text.** -/
theorem read_canonical (states : List State) :
    (Tree.ofSymbols? (symbols (canonical states))).bind (Tree.list? State.ofTree?) =
      some states := by
  have text : Tree.ofSymbols? (symbols (canonical states)) =
      some (Value.list (states.map State.toValue)).tree := by
    rw [canonical, symbols_utf8]
    exact ofSymbols?_render (spells _)
  rw [text, Option.bind_some, Tree.list?_tree]
  exact Tree.mapM_eq_some fun state _ => state.ofTree?_tree

theorem canonical_injective : Function.Injective canonical := by
  intro first second same
  refine Option.some.inj ?_
  rw [← read_canonical first, same, read_canonical]

/-- **States are told by their identifier**, unless their texts collide. -/
theorem contentId_eq_iff {first second : List State}
    (apart : ¬ Collide (canonical first) (canonical second)) :
    contentId first = contentId second ↔ first = second := by
  refine ⟨fun same => ?_, congrArg contentId⟩
  rw [contentId_eq, contentId_eq] at same
  have hashes : sha256 (canonical first) = sha256 (canonical second) := hex_injective same
  by_contra differ
  exact apart ⟨canonical_injective.ne differ, hashes⟩

end Chart

/-- **Machines share a definition exactly if they have the same states**, be they built of
descriptions, decoded, given an owner or other data, or moved by a runner, unless the canonical
texts of their states collide. Different states never have one canonical text. -/
theorem Machine.sameDefinition_iff {first second : Machine} (arises : first.Arises)
    (arises' : second.Arises)
    (apart : ¬ Collide (Chart.canonical first.chart.states)
      (Chart.canonical second.chart.states)) :
    (first.chart.sameDefinition second.chart = true ↔ first.chart.states = second.chart.states) ∧
      Function.Injective Chart.canonical := by
  refine ⟨?_, Chart.canonical_injective⟩
  unfold Chart.sameDefinition
  rw [decide_eq_true_iff, arises.placed.built.ofStates.id, arises'.placed.built.ofStates.id]
  exact Chart.contentId_eq_iff apart

/-! ### A door with a bell -/

/-- The states of a door at which a bell rings when it is opened. -/
def belledStates : List State :=
  [{ State.new "shut" with
      events := Dict.empty.insert "push" "wide", isInitial := true, isFinal := false },
    { State.new "wide" with hooks := { onEnter := some "bell" } }]

/-- A door with a bell is no plain door, and a plain door that was pushed and has an owner is still
the same. -/
theorem Machine.sameDefinition_door :
    let opened := (Operation.call (.send "push") .null).perform Runner.shutting 1
    (∃ now, opened.1.machine = some now ∧ now.current = some 1 ∧
        shutDoor.chart.sameDefinition (now.withOwner "ann").chart = true) ∧
      ∃ belled, ofStates? "" belledStates ∅ = .ok belled ∧
        shutDoor.chart.sameDefinition belled.chart = false := by
  intro opened
  have arises : shutDoor.Arises := (Obtained.built build_door).arises
  constructor
  · obtain ⟨now, kept, found⟩ := Option.map_eq_some_iff.1
      (show opened.1.machine.map (fun now => (now.current, now.chart.states)) =
        some (some 1, doorStates) by decide +kernel)
    obtain ⟨wide, states⟩ := Prod.mk.inj found
    have brings : (Operation.call (.send "push") .null : Operation Nat).Brings := trivial
    have pushed : now.Arises := (Runner.reached_shutting.operated brings 1).arises kept
    have apart : ¬ Collide (Chart.canonical shutDoor.chart.states)
        (Chart.canonical (now.withOwner "ann").chart.states) :=
      fun collide => collide.1 (congrArg Chart.canonical states.symm)
    exact ⟨now, kept, wide, (sameDefinition_iff arises (.changed pushed _) apart).1.2 states.symm⟩
  · obtain ⟨chart, made⟩ := Chart.exists_ofStates?_iff.2
      (show Chart.Coherent belledStates by decide)
    have states : chart.states = belledStates := by
      rw [(Chart.ofStates?_eq_ok_iff.1 made).states]
      exact Chart.sorted_of_pairwise (by decide)
    let belled : Machine := { chart, name := "", current := none, history := [], datamodel := ∅ }
    have built : ofStates? "" belledStates ∅ = .ok belled := by
      unfold ofStates?
      rw [made]
      rfl
    have apart : ¬ Collide (Chart.canonical shutDoor.chart.states)
        (Chart.canonical belled.chart.states) := by
      rw [states]
      exact fun collide => absurd collide.2 (by decide +kernel)
    have differ := (sameDefinition_iff arises (.assembled built) apart).1
    refine ⟨belled, built, Bool.eq_false_iff.2 fun same => absurd (differ.1 same) ?_⟩
    rw [states]
    decide

end Statechart
