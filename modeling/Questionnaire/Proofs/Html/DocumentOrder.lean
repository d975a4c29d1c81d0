/-
# What stands inside an element, and in which order

`Place.descendants` walks through a tree. Here the same elements are described
without a walk: an element stands inside another one when child numbers lead from
the outer one to it, and it comes before whatever has the greater path. The walk
visits exactly these elements, in ascending order of their paths, so that the
order of a document and the identity of its elements are both facts about paths.
Of two places in one tree, the later one lies inside the earlier one or behind
everything that is inside it.
-/

import Questionnaire.Html.Node
import Questionnaire.Proofs.Lexicographic

namespace Questionnaire.Html

/-- The element that child numbers lead to from a node. Numbers that lead to a
text or a comment, or past the last child, lead to no element. -/
def Node.descend? : Node → List Nat → Option Element
  | .element tag attributes children, [] => some ⟨tag, attributes, children⟩
  | .element _ _ children, number :: rest =>
    match children[number]? with
    | some child => child.descend? rest
    | none => none
  | _, _ => none

/-- The element that child numbers lead to from an element. -/
def Element.descend? (element : Element) (numbers : List Nat) : Option Element :=
  element.toNode.descend? numbers

/-- A place lies properly inside another one: child numbers, at least one, lead
from the outer place to it. -/
def Place.IsInside (place outer : Place) : Prop :=
  ∃ numbers, numbers ≠ [] ∧ place.path = outer.path ++ numbers ∧
    outer.element.descend? numbers = some place.element

namespace Node

theorem descend?_text (content : String) (numbers : List Nat) :
    (text content).descend? numbers = none := by
  cases numbers <;> rfl

theorem descend?_comment (content : String) (numbers : List Nat) :
    (comment content).descend? numbers = none := by
  cases numbers <;> rfl

@[simp]
theorem descend?_element_nil (tag : String) (attributes : List (String × String))
    (children : List Node) :
    (element tag attributes children).descend? [] = some ⟨tag, attributes, children⟩ := rfl

@[simp]
theorem descend?_element_cons (tag : String) (attributes : List (String × String))
    (children : List Node) (number : Nat) (rest : List Nat) :
    (element tag attributes children).descend? (number :: rest) =
      children[number]?.bind fun child => child.descend? rest := by
  rw [descend?]
  cases children[number]? <;> rfl

/-- Child numbers can be followed in two stages. -/
theorem descend?_append (numbers others : List Nat) (node : Node) :
    node.descend? (numbers ++ others) =
      (node.descend? numbers).bind fun element => element.descend? others := by
  induction numbers generalizing node with
  | nil =>
      cases node with
      | text content => simp only [descend?_text, Option.bind_none]
      | comment content => simp only [descend?_comment, Option.bind_none]
      | element tag attributes children => rfl
  | cons number rest ih =>
      cases node with
      | text content => simp only [descend?_text, Option.bind_none]
      | comment content => simp only [descend?_comment, Option.bind_none]
      | element tag attributes children =>
          simp only [List.cons_append, descend?_element_cons, Option.bind_assoc, ih]

end Node

/-- Below an element that was reached, the numbers lead on from this element. -/
theorem Element.descend?_append {outer element : Element} {numbers : List Nat}
    (reached : outer.descend? numbers = some element) (others : List Nat) :
    outer.descend? (numbers ++ others) = element.descend? others := by
  rw [Element.descend?, Node.descend?_append, ← Element.descend?, reached, Option.bind_some]

mutual

/-- The walk through a node visits the elements that child numbers lead to. -/
theorem Node.mem_placesAt_iff (path : List Nat) (place : Place) :
    ∀ node : Node, place ∈ node.placesAt path ↔
      ∃ numbers, place.path = path ++ numbers ∧ node.descend? numbers = some place.element
  | .text content => by simp [Node.placesAt, Node.descend?_text]
  | .comment content => by simp [Node.placesAt, Node.descend?_comment]
  | .element tag attributes children => by
      rw [Node.placesAt, List.mem_cons, mem_placesUnder_iff path 0 place children]
      constructor
      · rintro (rfl | ⟨offset, child, numbers, found, leads, reached⟩)
        · exact ⟨[], by simp⟩
        · exact ⟨offset :: numbers, by simpa using leads, by simp [found, reached]⟩
      · rintro ⟨numbers, leads, reached⟩
        cases numbers with
        | nil =>
            obtain ⟨standing, standsFor⟩ := place
            simp only [List.append_nil] at leads
            rw [Node.descend?_element_nil, Option.some.injEq] at reached
            exact Or.inl (by rw [leads, reached])
        | cons number rest =>
            simp only [Node.descend?_element_cons, Option.bind_eq_some_iff] at reached
            obtain ⟨child, found, inside⟩ := reached
            exact Or.inr ⟨number, child, rest, found, by simpa using leads, inside⟩

/-- The walk through consecutive children visits the elements that child numbers
lead to from one of them. -/
theorem mem_placesUnder_iff (path : List Nat) (number : Nat) (place : Place) :
    ∀ nodes : List Node, place ∈ placesUnder path number nodes ↔
      ∃ offset child numbers, nodes[offset]? = some child ∧
        place.path = path ++ (number + offset) :: numbers ∧
        child.descend? numbers = some place.element
  | [] => by simp [placesUnder]
  | node :: rest => by
      rw [placesUnder, List.mem_append, Node.mem_placesAt_iff (path ++ [number]) place node,
        mem_placesUnder_iff path (number + 1) place rest]
      constructor
      · rintro (⟨numbers, leads, reached⟩ | ⟨offset, child, numbers, found, leads, reached⟩)
        · exact ⟨0, node, numbers, rfl, by simpa using leads, reached⟩
        · refine ⟨offset + 1, child, numbers, by simpa using found, ?_, reached⟩
          rw [leads, Nat.add_right_comm, Nat.add_assoc]
      · rintro ⟨offset, child, numbers, found, leads, reached⟩
        cases offset with
        | zero =>
            obtain rfl : node = child := by simpa using found
            exact Or.inl ⟨numbers, by simpa using leads, reached⟩
        | succ offset =>
            refine Or.inr ⟨offset, child, numbers, by simpa using found, ?_, reached⟩
            rw [leads, Nat.add_right_comm, Nat.add_assoc]

end

mutual

/-- The walk through a node visits its elements in ascending order of paths. -/
theorem Node.placesAt_ascending (path : List Nat) :
    ∀ node : Node, (node.placesAt path).Pairwise (fun first second => first.path < second.path)
  | .text _ => List.Pairwise.nil
  | .comment _ => List.Pairwise.nil
  | .element tag attributes children => by
      rw [Node.placesAt]
      apply List.pairwise_cons.mpr
      refine ⟨?_, placesUnder_ascending path 0 children⟩
      intro place member
      obtain ⟨offset, _, numbers, _, leads, _⟩ :=
        (mem_placesUnder_iff path 0 place children).mp member
      -- What is inside an element has a longer path, which comes after the shorter one.
      have longer : path ++ [] < path ++ (0 + offset) :: numbers :=
        List.append_left_lt (List.nil_lt_cons _ _)
      simpa [leads] using longer

/-- The walk through consecutive children visits their elements in ascending order
of paths. -/
theorem placesUnder_ascending (path : List Nat) (number : Nat) :
    ∀ nodes : List Node,
      (placesUnder path number nodes).Pairwise (fun first second => first.path < second.path)
  | [] => List.Pairwise.nil
  | node :: rest => by
      rw [placesUnder]
      apply List.pairwise_append.mpr
      refine ⟨Node.placesAt_ascending (path ++ [number]) node,
        placesUnder_ascending path (number + 1) rest, ?_⟩
      intro first inNode second inRest
      obtain ⟨_, leads, _⟩ := (Node.mem_placesAt_iff (path ++ [number]) first node).mp inNode
      obtain ⟨offset, _, _, _, leads', _⟩ :=
        (mem_placesUnder_iff path (number + 1) second rest).mp inRest
      have numbered : number < number + 1 + offset := by omega
      rw [leads, leads', List.append_assoc]
      exact List.append_left_lt (List.cons_lt_cons_iff.mpr (Or.inl numbered))

end

/-- The walk below a place visits exactly the places properly inside it. -/
theorem Place.mem_descendants_iff {place outer : Place} :
    place ∈ outer.descendants ↔ place.IsInside outer := by
  obtain ⟨path, tag, attributes, children⟩ := outer
  rw [Place.descendants, mem_placesUnder_iff]
  constructor
  · rintro ⟨offset, child, numbers, found, leads, reached⟩
    exact ⟨offset :: numbers, List.cons_ne_nil _ _, by simpa using leads,
      by simp [Element.descend?, Element.toNode, found, reached]⟩
  · rintro ⟨numbers, proper, leads, reached⟩
    cases numbers with
    | nil => exact absurd rfl proper
    | cons number rest =>
        simp only [Element.descend?, Element.toNode, Node.descend?_element_cons,
          Option.bind_eq_some_iff] at reached
        obtain ⟨child, found, inside⟩ := reached
        exact ⟨number, child, rest, found, by simpa using leads, inside⟩

/-- The walk below a place visits it in document order, and nothing twice. -/
theorem Place.descendants_ascending (outer : Place) :
    outer.descendants.Pairwise (fun first second => first.path < second.path) :=
  placesUnder_ascending outer.path 0 outer.element.children

namespace Place

theorem IsInside.trans {inner middle outer : Place} (inside : inner.IsInside middle)
    (inside' : middle.IsInside outer) : inner.IsInside outer := by
  obtain ⟨numbers, proper, leads, reached⟩ := inside
  obtain ⟨numbers', _, leads', reached'⟩ := inside'
  refine ⟨numbers' ++ numbers, by simp [proper], ?_, ?_⟩
  · rw [leads, leads', List.append_assoc]
  · rw [Element.descend?_append reached', reached]

/-- What is inside a place comes after it. -/
theorem IsInside.path_lt {place outer : Place} (inside : place.IsInside outer) :
    outer.path < place.path := by
  obtain ⟨numbers, proper, leads, _⟩ := inside
  obtain ⟨number, rest, rfl⟩ := List.exists_cons_of_ne_nil proper
  have longer : outer.path ++ [] < outer.path ++ number :: rest :=
    List.append_left_lt (List.nil_lt_cons _ _)
  simpa [leads] using longer

/-- At each path inside a root there is one place. -/
theorem IsInside.eq_of_path_eq {root first second : Place} (inside : first.IsInside root)
    (inside' : second.IsInside root) (same : first.path = second.path) : first = second := by
  obtain ⟨numbers, _, leads, reached⟩ := inside
  obtain ⟨numbers', _, leads', reached'⟩ := inside'
  obtain rfl : numbers = numbers' :=
    List.append_cancel_left (leads.symm.trans (same.trans leads'))
  obtain ⟨path, element⟩ := first
  obtain rfl : path = second.path := same
  obtain rfl : element = second.element := Option.some.inj (reached.symm.trans reached')
  rfl

/-- Of two places inside one root, one comes before the other, unless they are the same. -/
theorem IsInside.eq_or_path_lt {root first second : Place} (inside : first.IsInside root)
    (inside' : second.IsInside root) :
    first = second ∨ first.path < second.path ∨ second.path < first.path := by
  by_cases before : first.path < second.path
  · exact Or.inr (Or.inl before)
  by_cases after : second.path < first.path
  · exact Or.inr (Or.inr after)
  · exact Or.inl (inside.eq_of_path_eq inside' (List.le_antisymm after before))

/-- Of two places inside one root, the later one lies inside the earlier one, or their
paths part and with them the paths of everything that is inside them. -/
theorem isInside_or_partsBelow {root first second : Place} (inside : first.IsInside root)
    (inside' : second.IsInside root) (before : first.path < second.path) :
    second.IsInside first ∨ PartsBelow first.path second.path := by
  refine (prefix_or_partsBelow before).imp_left ?_
  rintro ⟨rest, leads⟩
  obtain ⟨numbers, _, toFirst, reached⟩ := inside
  obtain ⟨numbers', _, toSecond, reached'⟩ := inside'
  have parts : numbers' = numbers ++ rest := by
    rw [toFirst, toSecond, List.append_assoc] at leads
    exact (List.append_cancel_left leads).symm
  refine ⟨rest, ?_, leads.symm, ?_⟩
  · rintro rfl
    rw [List.append_nil] at leads
    exact List.lt_irrefl second.path (leads ▸ before)
  · rw [← Element.descend?_append reached, ← parts, reached']

end Place

end Questionnaire.Html
