/-
# Compounds with one component more

A component that is added to a compound narrows what the compound selects: each class does,
and so do the first id and the first test for an attribute. A second id says nothing. What an
element has to pass is spelled out for this, test by test.
-/

import Mathlib.Data.List.Infix
import Questionnaire.Proofs.Dictionary
import Questionnaire.Proofs.Selector.Match
import Questionnaire.Selector.Parser

namespace Questionnaire

open Html

namespace Compound

variable {compound : Compound} {element : Element}

/-- An element passes a compound if it passes all of its tests. -/
theorem accepts_iff :
    compound.accepts element = true ↔
      (∀ tag ∈ compound.tag, Text.equalIgnoringAsciiCase element.tag tag = true) ∧
      (∀ id ∈ compound.id, element.attribute? "id" = some id) ∧
      (∀ name ∈ compound.classes,
        name.toList <:+: (element.attributeOrEmpty "class").toList) ∧
      ∀ name value, compound.attributes.get? name = some value →
        element.attributeOrEmpty name = value := by
  simp only [accepts, Bool.and_eq_true, Option.all_eq_true, List.all_eq_true, beq_iff_eq,
    occursIn_iff_infix, Dictionary.get?_eq_some_iff_mem, Prod.forall, and_assoc, Option.mem_def]

/-- A compound that tests for one thing more selects a part of what the other one selects. -/
theorem select_eq_filter {narrowed : Compound} (passes : Element → Bool)
    (narrows : ∀ element, narrowed.accepts element = true ↔
      compound.accepts element = true ∧ passes element = true) (roots : List Place) :
    narrowed.select roots = (compound.select roots).filter fun place => passes place.element := by
  rw [select, select, List.filter_filter]
  apply List.filter_congr
  intro place _
  rw [Bool.eq_iff_iff, Bool.and_eq_true, narrows]
  exact and_comm

/-- One class more is one test more. -/
theorem select_add_hasClass (name : String) (roots : List Place) :
    (compound.add (.hasClass name)).select roots = (compound.select roots).filter fun place =>
      decide (name.toList <:+: (place.element.attributeOrEmpty "class").toList) := by
  refine select_eq_filter
    (fun element => decide (name.toList <:+: (element.attributeOrEmpty "class").toList)) ?_ roots
  intro element
  simp only [accepts_iff, add, decide_eq_true_eq, List.forall_mem_append, List.forall_mem_singleton]
  tauto

/-- A first id is one test more. -/
theorem select_add_id (first : compound.id = none) (name : String) (roots : List Place) :
    (compound.add (.id name)).select roots = (compound.select roots).filter fun place =>
      decide (place.element.attribute? "id" = some name) := by
  refine select_eq_filter
    (fun element => decide (element.attribute? "id" = some name)) ?_ roots
  intro element
  simp only [accepts_iff, add, first, decide_eq_true_eq, Option.getD_none, Option.mem_def,
    Option.some.injEq, forall_eq', reduceCtorEq, false_implies, implies_true]
  tauto

/-- Behind an id, another one says nothing. -/
theorem add_id_of_some {id : String} (earlier : compound.id = some id) (name : String) :
    compound.add (.id name) = compound := by
  rw [add, earlier, Option.getD_some, ← earlier]

/-- An attribute has a value that is not empty if it is there with this value. -/
theorem attributeOrEmpty_eq_iff {name value : String} (hasValue : value ≠ "") :
    element.attributeOrEmpty name = value ↔ element.attribute? name = some value := by
  rw [Element.attributeOrEmpty]
  cases element.attribute? name with
  | none => simpa using hasValue.symm
  | some found => simp

/-- A first test for an attribute is one test more. A missing attribute counts as empty, so
that it passes no test for a value. -/
theorem select_add_hasAttribute {name value : String} (first : compound.attributes.get? name = none)
    (hasValue : value ≠ "") (roots : List Place) :
    (compound.add (.hasAttribute name value)).select roots =
      (compound.select roots).filter fun place =>
        decide (place.element.attribute? name = some value) := by
  refine select_eq_filter
    (fun element => decide (element.attribute? name = some value)) ?_ roots
  intro element
  rw [decide_eq_true_eq, ← attributeOrEmpty_eq_iff hasValue, accepts_iff, accepts_iff]
  simp only [add, Dictionary.forall_get?_insert_iff first, and_assoc]

end Compound

end Questionnaire
