/-
# Reading a form by selector texts

The tests that find the parts of a page are written out as values. People know these parts by
selector texts, and each text is read as the test that is used for it, so reading a form from a
page is a matter of queries: one finds the form element, one the questions, and inside a
question there are queries for its title, its help text, its controls and the entries of a list.
-/

import Mathlib.Control.Monad.Basic
import Questionnaire.Form
import Questionnaire.Selector.Query

namespace Questionnaire

open Html

namespace Extraction

/-- The selector texts for the parts of a page and what they are read as. -/
def lookups : List (String × Selector) := [
  ("form", ⟨[[formElement]]⟩),
  (".ss-form-question", ⟨[[questionBlock]]⟩),
  ("label.ss-q-item-label", ⟨[[titleLabel]]⟩),
  (".ss-secondary-text", ⟨[[helpText]]⟩),
  ("input, textarea, select", controls),
  ("option", ⟨[[listOption]]⟩),
  ("#ss-form", ⟨[[formMarker]]⟩)]

/-- Every text is read as the selector that is used for it. -/
theorem parse_lookup : ∀ lookup ∈ lookups, Selector.parse lookup.1 = .ok lookup.2 := by
  decide +kernel

section Queries

variable {source : String} {roots : List Place}

theorem queryAll_lookup {selector : Selector} (member : (source, selector) ∈ lookups) :
    queryAll source roots = selector.select roots := by
  rw [queryAll, parse_lookup _ member]

/-- The lookups of a single test. -/
theorem queryAll_lookup_compound {compound : Compound}
    (member : (source, ⟨[[compound]]⟩) ∈ lookups) :
    queryAll source roots = compound.select roots := by
  rw [queryAll_lookup member, Selector.select, List.flatMap_singleton]
  rfl

end Queries

/-- The values of a list are found by a query for its entries. -/
theorem offeredValues_eq_query (token : String) (primary : Place) (found : List Place) :
    offeredValues token primary found =
      if token = "select" then
        let values := (queryAll "option" [primary]).filterMap
          (fun entry => entry.element.attribute? "value")
        values.filter (fun value => value != "")
      else if token = "radio" ∨ token = "checkbox" then
        found.map (fun control => control.element.attributeOrEmpty "value")
      else [] := by
  have options : queryAll "option" [primary] = listOption.select [primary] :=
    queryAll_lookup_compound (by simp [lookups])
  rw [options, offeredValues]

/-- A field is built from what three queries find in its block. -/
theorem fieldOf?_eq_queries (block : Place) :
    fieldOf? block =
      match queryFirst? "label.ss-q-item-label" [block],
        queryAll "input, textarea, select" [block] with
      | some title, primary :: others =>
        let token := controlToken primary.element
        let values := offeredValues token primary (primary :: others)
        let kind := FieldKind.ofToken token values (primary.element.attribute? "pattern")
        let label := ((queryFirst? ".ss-secondary-text" [block]).map
          (fun help => helpOf help.element)).getD ""
        some (Field.labelled (primary.element.attributeOrEmpty "name") (titleOf title.element)
          label (primary.element.attribute? "required").isSome kind)
      | _, _ => none := by
  have title : queryAll "label.ss-q-item-label" [block] = titleLabel.select [block] :=
    queryAll_lookup_compound (by simp [lookups])
  have help : queryAll ".ss-secondary-text" [block] = helpText.select [block] :=
    queryAll_lookup_compound (by simp [lookups])
  have inside : queryAll "input, textarea, select" [block] = controls.select [block] :=
    queryAll_lookup (by simp [lookups])
  rw [queryFirst?, queryFirst?, title, help, inside]
  rfl

/-- The questions of a document are found by a query, and their fields are collected. -/
theorem fieldsOf_eq_query (root : Element) :
    fieldsOf root =
      ((queryAll ".ss-form-question" [root.asRoot]).filterMap fieldOf?).foldl place [] := by
  have blocks : queryAll ".ss-form-question" [root.asRoot] = questionBlock.select [root.asRoot] :=
    queryAll_lookup_compound (by simp [lookups])
  rw [blocks, fieldsOf]

end Extraction

/-- The first form element is found by a query. -/
theorem Form.ofTree?_eq_query (root : Element) :
    ofTree? root = (queryFirst? "form" [root.asRoot]).map fun form =>
      ⟨form.element.attributeOrEmpty "action", Extraction.fieldsOf root⟩ := by
  have forms : queryAll "form" [root.asRoot] = Extraction.formElement.select [root.asRoot] :=
    Extraction.queryAll_lookup_compound (by simp [Extraction.lookups])
  rw [queryFirst?, forms, ofTree?]

/-- A document shows a form exactly if a query finds the marker of forms. -/
theorem showsForm_eq_query (root : Element) :
    showsForm root = (queryFirst? "#ss-form" [root.asRoot]).isSome := by
  have markers : queryAll "#ss-form" [root.asRoot] = Extraction.formMarker.select [root.asRoot] :=
    Extraction.queryAll_lookup_compound (by simp [Extraction.lookups])
  rw [queryFirst?, markers, showsForm]
  cases Extraction.formMarker.select [root.asRoot] <;> rfl

end Questionnaire
