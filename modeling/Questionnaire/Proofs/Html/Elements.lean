/-
# The elements of a document without their places

The walk through a document lists elements with the paths at which they stand. What is said
of elements alone, whatever stands before them, is easier to say of the same walk without
paths: the elements of consecutive nodes are then those of the first part followed by those
of the second part, wherever the nodes are cut in two.
-/

import Questionnaire.Proofs.Selector.Match

namespace Questionnaire

namespace Html

mutual

/-- The elements of a node, itself included, in document order. -/
def Node.elements : Node → List Element
  | .text _ => []
  | .comment _ => []
  | .element tag attributes children => ⟨tag, attributes, children⟩ :: elementsOfAll children

/-- The elements of consecutive nodes, in document order. -/
def elementsOfAll : List Node → List Element
  | [] => []
  | node :: rest => node.elements ++ elementsOfAll rest

end

mutual

/-- The walk through a node visits its elements, whatever its path is. -/
theorem Node.map_element_placesAt (path : List Nat) :
    ∀ node : Node, (node.placesAt path).map Place.element = node.elements
  | .text _ => rfl
  | .comment _ => rfl
  | .element tag attributes children => by
      rw [Node.placesAt, Node.elements, List.map_cons, map_element_placesUnder path 0 children]

/-- The walk through consecutive children visits their elements, whatever their numbers
are. -/
theorem map_element_placesUnder (path : List Nat) (number : Nat) :
    ∀ nodes : List Node, (placesUnder path number nodes).map Place.element = elementsOfAll nodes
  | [] => rfl
  | node :: rest => by
      rw [placesUnder, elementsOfAll, List.map_append,
        Node.map_element_placesAt (path ++ [number]) node,
        map_element_placesUnder path (number + 1) rest]

end

/-- The elements of a node are those that child numbers lead to. -/
theorem Node.mem_elements_iff {node : Node} {element : Element} :
    element ∈ node.elements ↔ ∃ numbers, node.descend? numbers = some element := by
  rw [← Node.map_element_placesAt [], List.mem_map]
  simp only [Node.mem_placesAt_iff, List.nil_append]
  constructor
  · rintro ⟨place, ⟨numbers, _, reached⟩, rfl⟩
    exact ⟨numbers, reached⟩
  · rintro ⟨numbers, reached⟩
    exact ⟨⟨numbers, element⟩, ⟨numbers, rfl, reached⟩, rfl⟩

theorem elementsOfAll_append (nodes others : List Node) :
    elementsOfAll (nodes ++ others) = elementsOfAll nodes ++ elementsOfAll others := by
  induction nodes with
  | nil => rfl
  | cons node rest ih => rw [List.cons_append, elementsOfAll, elementsOfAll, ih, List.append_assoc]

theorem charactersOfAll_append (nodes others : List Node) :
    charactersOfAll (nodes ++ others) = charactersOfAll nodes ++ charactersOfAll others := by
  induction nodes with
  | nil => rfl
  | cons node rest ih =>
      rw [List.cons_append, charactersOfAll, charactersOfAll, ih, List.append_assoc]

end Html

open Html

/-- A compound selects the elements inside a place that pass its tests. -/
theorem Compound.map_element_select (compound : Compound) (root : Place) :
    (compound.select [root]).map Place.element =
      (elementsOfAll root.element.children).filter compound.accepts := by
  rw [Compound.select, List.flatMap_singleton, Place.descendants,
    ← map_element_placesUnder root.path 0, List.filter_map]
  rfl

end Questionnaire
