/-
# What the reader of questions sees of an element

The reader of questions looks at tags and attributes, at the text of an element as a whole,
and at tags and attributes of the elements inside it. This is the outline of the element.
Comments are not part of it, and neither is how a text is cut into nodes. The field of a
block depends on nothing but the outlines of the elements inside the block.
-/

import Questionnaire.Proofs.Html.Elements

namespace Questionnaire

open Html

/-- An element without its children. -/
def Html.Element.bare (element : Element) : Element :=
  ⟨element.tag, element.attributes, []⟩

namespace Extraction

/-- The outline of an element. -/
@[ext]
structure Outline where
  /-- Its tag and its attributes. -/
  bare : Element
  /-- The characters of all texts inside it. -/
  text : List Char
  /-- The elements inside it with their tags and attributes, in document order. -/
  inside : List Element

/-- What is seen of an element. -/
def outlineOf (element : Element) : Outline :=
  ⟨element.bare, element.characters, (elementsOfAll element.children).map Element.bare⟩

/-- What is seen of the elements of consecutive nodes. -/
def outlinesOf (nodes : List Node) : List Outline :=
  (elementsOfAll nodes).map outlineOf

section Elements

variable {element other : Element}

/-- Attributes are seen. -/
theorem attribute?_congr (same : outlineOf element = outlineOf other) (name : String) :
    element.attribute? name = other.attribute? name :=
  congrArg (fun outline : Outline => outline.bare.attribute? name) same

/-- The type token of a control is seen in its tag and its attributes. -/
theorem controlToken_congr (same : outlineOf element = outlineOf other) :
    controlToken element = controlToken other :=
  congrArg (fun outline : Outline => controlToken outline.bare) same

theorem titleOf_congr (same : outlineOf element = outlineOf other) :
    titleOf element = titleOf other :=
  congrArg (fun outline : Outline => String.ofList (Text.trim (Text.firstLine outline.text))) same

end Elements

section Places

variable {block other : Place}

/-- What a compound selects inside a place is seen in the outlines of what is inside. -/
theorem map_outline_select (compound : Compound) (place : Place) :
    (compound.select [place]).map (fun found => outlineOf found.element) =
      (outlinesOf place.element.children).filter fun outline => compound.accepts outline.bare := by
  have elements := congrArg (List.map outlineOf) (compound.map_element_select place)
  rw [List.map_map] at elements
  rw [outlinesOf, List.filter_map]
  exact elements

theorem map_outline_controls (place : Place) :
    (controls.select [place]).map (fun found => outlineOf found.element) =
      ["input", "textarea", "select"].flatMap fun tag =>
        (outlinesOf place.element.children).filter fun outline =>
          (Compound.tagged tag).accepts outline.bare := by
  simp only [← map_outline_select, ← List.map_flatMap]
  rfl

/-- The values of the entries of a list are seen in its outline. -/
theorem entries_eq (list : Place) :
    (listOption.select [list]).filterMap (fun entry => entry.element.attribute? "value") =
      ((outlineOf list.element).inside.filter listOption.accepts).filterMap
        fun entry => entry.attribute? "value" := by
  have entries := congrArg (List.filterMap fun entry => entry.attribute? "value")
    (listOption.map_element_select list)
  rw [List.filterMap_map] at entries
  rw [outlineOf, List.filter_map, List.filterMap_map]
  exact entries

/-- The values that a question offers are seen in the outlines of its controls. -/
theorem offeredValues_congr {token : String} {primary primary' : Place} {found found' : List Place}
    (same : outlineOf primary.element = outlineOf primary'.element)
    (sameFound : found.map (fun control => outlineOf control.element) =
      found'.map fun control => outlineOf control.element) :
    offeredValues token primary found = offeredValues token primary' found' := by
  have values : found.map (fun control => control.element.attributeOrEmpty "value") =
      found'.map fun control => control.element.attributeOrEmpty "value" := by
    have mapped := congrArg
      (List.map fun outline : Outline => outline.bare.attributeOrEmpty "value") sameFound
    rw [List.map_map, List.map_map] at mapped
    exact mapped
  rw [offeredValues, offeredValues, entries_eq, entries_eq, same, values]

/-- The help text of a block is seen in the outlines of what is inside it. -/
theorem help_congr (same : outlinesOf block.element.children = outlinesOf other.element.children) :
    (helpText.select [block]).head?.map (fun help => helpOf help.element) =
      (helpText.select [other]).head?.map fun help => helpOf help.element := by
  have found := map_outline_select helpText block
  rw [same, ← map_outline_select] at found
  have texts := congrArg
    (fun outlines : List Outline => outlines.head?.map
      fun outline => String.ofList (Text.trim outline.text)) found
  simp only [List.head?_map, Option.map_map] at texts
  exact texts

/-- Blocks give the same field if the same is seen of what is inside them. -/
theorem fieldOf?_congr
    (same : outlinesOf block.element.children = outlinesOf other.element.children) :
    fieldOf? block = fieldOf? other := by
  have titles := map_outline_select titleLabel block
  have found := map_outline_controls block
  rw [same, ← map_outline_select] at titles
  rw [same, ← map_outline_controls] at found
  have titles := congrArg List.head? titles
  rw [List.head?_map, List.head?_map] at titles
  rw [fieldOf?, fieldOf?, help_congr same]
  cases isTitle : (titleLabel.select [block]).head? with
  | none =>
      rw [isTitle, Option.map_none, eq_comm, Option.map_eq_none_iff] at titles
      rw [titles]
  | some title =>
      rw [isTitle, Option.map_some, eq_comm, Option.map_eq_some_iff] at titles
      obtain ⟨title', isTitle', sameTitle⟩ := titles
      rw [isTitle']
      cases areControls : controls.select [block] with
      | nil =>
          rw [areControls, List.map_nil, eq_comm, List.map_eq_nil_iff] at found
          rw [found]
      | cons primary others =>
          rw [areControls, List.map_cons, eq_comm, List.map_eq_cons_iff] at found
          obtain ⟨primary', others', areControls', samePrimary, sameOthers⟩ := found
          have sameFound : (primary :: others).map (fun control => outlineOf control.element) =
              (primary' :: others').map fun control => outlineOf control.element := by
            rw [List.map_cons, List.map_cons, samePrimary, sameOthers]
          rw [areControls']
          simp only [Element.attributeOrEmpty, titleOf_congr sameTitle.symm,
            controlToken_congr samePrimary.symm, attribute?_congr samePrimary.symm,
            offeredValues_congr samePrimary.symm sameFound]

end Places

end Extraction

end Questionnaire
