/-
# What a question block gives

The one place where the reader of question blocks is taken apart: a field comes
from a title, a first control and what the control says about itself. Facts about
the kinds of fields that documents can have follow from it.
-/

import Questionnaire.Extraction

namespace Questionnaire

open Html

namespace FieldKind

/-- Only the token of lists gives a list kind, which has the values at hand. -/
theorem ofToken_eq_select {token : String} {values listed : List String} {pattern : Option String}
    (given : ofToken token values pattern = select listed) :
    token = "select" ∧ values = listed := by
  unfold ofToken at given
  split at given
  · cases given
  iterate 4
    split at given
    · cases given
  split at given
  · next isSelect =>
    cases given
    exact ⟨isSelect, rfl⟩
  iterate 2
    split at given
    · cases given
  cases given

/-- Only the tokens of groups give a group kind, which has the values at hand. -/
theorem ofToken_eq_group {token : String} {values offered : List String} {pattern : Option String}
    (given : ofToken token values pattern = radio offered ∨
      ofToken token values pattern = checkbox offered) :
    (token = "radio" ∨ token = "checkbox") ∧ values = offered := by
  unfold ofToken at given
  iterate 6
    split at given
    · rcases given with isRadio | isBoxes
      · cases isRadio
      · cases isBoxes
  split at given
  · next isToken =>
    rcases given with isRadio | isBoxes
    · cases isRadio
      exact ⟨Or.inl isToken, rfl⟩
    · cases isBoxes
  split at given
  · next isToken =>
    rcases given with isRadio | isBoxes
    · cases isRadio
    · cases isBoxes
      exact ⟨Or.inr isToken, rfl⟩
  · rcases given with isRadio | isBoxes
    · cases isRadio
    · cases isBoxes

end FieldKind

namespace Extraction

/-- A block gives a field only if it has a title and a control, and the field is made
from the first ones of them. -/
theorem fieldOf?_eq_some {block : Place} {field : Field} (given : fieldOf? block = some field) :
    ∃ title primary others,
      (titleLabel.select [block]).head? = some title ∧
      controls.select [block] = primary :: others ∧
      field.id = primary.element.attributeOrEmpty "name" ∧
      field.name = titleOf title.element ∧
      field.required = (primary.element.attribute? "required").isSome ∧
      field.kind = FieldKind.ofToken (controlToken primary.element)
        (offeredValues (controlToken primary.element) primary (primary :: others))
        (primary.element.attribute? "pattern") := by
  unfold fieldOf? at given
  split at given
  · next title primary others isTitle areControls =>
    obtain rfl := Option.some.inj given
    exact ⟨title, primary, others, isTitle, areControls, rfl, rfl, rfl, rfl⟩
  · cases given

/-- The label of a field is a help text with something in it, or else the name. -/
theorem label_of_fieldOf? {block : Place} {field : Field} (given : fieldOf? block = some field) :
    field.label = field.name ∨ field.label ≠ "" ∧ ∃ help, field.label = helpOf help := by
  unfold fieldOf? at given
  split at given
  · obtain rfl := Option.some.inj given
    dsimp only [Field.labelled]
    cases (helpText.select [block]).head? with
    | none => exact Or.inl rfl
    | some help =>
        rw [Option.map_some, Option.getD_some]
        split
        · exact Or.inl rfl
        · next shown => exact Or.inr ⟨shown, help.element, rfl⟩
  · cases given

/-- A title is one line. -/
theorem newline_not_mem_titleOf (label : Element) : '\n' ∉ (titleOf label).toList := by
  intro member
  rw [titleOf, String.toList_ofList] at member
  have inLine : '\n' ∈ Text.firstLine label.characters := Text.mem_of_mem_trim member
  exact absurd (List.all_eq_true.mp List.all_takeWhile '\n' inLine) (by decide)

/-- The name of a field is one line. -/
theorem newline_not_mem_name {block : Place} {field : Field}
    (given : fieldOf? block = some field) : '\n' ∉ field.name.toList := by
  obtain ⟨title, _, _, _, _, _, name, _⟩ := fieldOf?_eq_some given
  exact name ▸ newline_not_mem_titleOf title.element

/-- A block gives a field exactly if it has a title and a control. -/
theorem exists_fieldOf?_iff {block : Place} :
    (∃ field, fieldOf? block = some field) ↔
      titleLabel.select [block] ≠ [] ∧ controls.select [block] ≠ [] := by
  constructor
  · rintro ⟨field, given⟩
    obtain ⟨title, primary, others, isTitle, areControls, _⟩ := fieldOf?_eq_some given
    refine ⟨?_, by simp [areControls]⟩
    intro missing
    simp [missing] at isTitle
  · rintro ⟨titles, found⟩
    obtain ⟨title, titles, areTitles⟩ := List.exists_cons_of_ne_nil titles
    obtain ⟨primary, others, areControls⟩ := List.exists_cons_of_ne_nil found
    rw [fieldOf?, areTitles, areControls]
    exact ⟨_, rfl⟩

/-- A list offers no empty value. -/
theorem ne_empty_of_fieldOf?_select {block : Place} {field : Field}
    (given : fieldOf? block = some field) {values : List String}
    (isSelect : field.kind = .select values) : "" ∉ values := by
  obtain ⟨_, primary, others, _, _, _, _, _, kind⟩ := fieldOf?_eq_some given
  obtain ⟨token, rfl⟩ := FieldKind.ofToken_eq_select (kind.symm.trans isSelect)
  rw [token, offeredValues, if_pos rfl]
  intro member
  simpa using (List.mem_filter.mp member).2

end Extraction

end Questionnaire
