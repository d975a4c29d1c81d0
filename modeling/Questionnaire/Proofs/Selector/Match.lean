/-
# What a compound selects

The elements that a compound selects inside one place are exactly the places
inside it that pass its tests, in document order. The tests that questions and
forms are found by are put into words here: a tag up to ASCII case, and a run of
consecutive characters of the class attribute.
-/

import Questionnaire.Extraction
import Questionnaire.Proofs.Html.DocumentOrder

namespace Questionnaire

open Html

/-- A text occurs in another one as a run of consecutive characters. -/
theorem occursIn_iff_infix {part text : List Char} :
    occursIn part text = true ↔ part <:+: text := by
  induction text with
  | nil => simp [occursIn]
  | cons c rest ih =>
      rw [occursIn, Bool.or_eq_true, List.isPrefixOf_iff_prefix, ih, List.infix_cons_iff]

namespace Compound

/-- The test for a tag. -/
@[simp]
theorem accepts_tagged (tag : String) (element : Element) :
    (tagged tag).accepts element = Text.equalIgnoringAsciiCase element.tag tag := by
  simp [tagged, accepts, wildcard, EmptyCollection.emptyCollection, Dictionary.empty]

/-- The test for a part of the class attribute. -/
theorem accepts_classed_iff (name : String) (element : Element) :
    (classed name).accepts element = true ↔
      name.toList <:+: (element.attributeOrEmpty "class").toList := by
  rw [← occursIn_iff_infix]
  simp [classed, accepts, wildcard, EmptyCollection.emptyCollection, Dictionary.empty]

/-- A compound selects the places inside a root that pass its tests. -/
theorem mem_select_singleton_iff {compound : Compound} {place root : Place} :
    place ∈ compound.select [root] ↔
      place.IsInside root ∧ compound.accepts place.element = true := by
  rw [select, List.mem_filter, List.flatMap_singleton, Place.mem_descendants_iff]

/-- What a compound selects inside one root comes in document order. -/
theorem select_singleton_ascending (compound : Compound) (root : Place) :
    (compound.select [root]).Pairwise (fun first second => first.path < second.path) := by
  rw [select, List.flatMap_singleton]
  exact (Place.descendants_ascending root).filter _

end Compound

end Questionnaire
