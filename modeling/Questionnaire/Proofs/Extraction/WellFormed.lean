/-
# Fields are well formed

Readers of forms rely on more than the type of a field says: names are single lines without
white space around them, lists offer no empty value, a group of buttons has one value for each
of its controls, and a kind is unknown only where its token is. All of this is a fact about
the one block that a field is built from, and so it survives the replacement of fields of
one id, which only decides which block that is. Two fields of documents with one profile are
the same field, because the profile of a well-formed field can be read back.
-/

import Mathlib.Data.Set.Card
import Questionnaire.Proofs.Extraction.Wrapper
import Questionnaire.Proofs.Field
import Questionnaire.Proofs.Text.Runs

namespace Questionnaire

open Html

namespace Extraction

/-- A place holds a control: an input, a text area or a list, in whatever case its tag is
written. -/
def IsControl (place : Place) : Prop :=
  ∃ tag ∈ ["input", "textarea", "select"], Text.equalIgnoringAsciiCase place.element.tag tag = true

/-- What is true of a field that is built from a block. -/
structure IsWellFormed (field : Field) (block : Place) : Prop where
  /-- The name is one line. -/
  nameIsLine : '\n' ∉ field.name.toList
  /-- No white space stands around the name. -/
  nameIsTrimmed : Text.IsTrimmed field.name.toList
  /-- No white space stands around the label. -/
  labelIsTrimmed : Text.IsTrimmed field.label.toList
  /-- There is a label if there is a name. -/
  hasLabel : field.label = "" → field.name = ""
  /-- The values of a list are not empty. -/
  offersValues : ∀ values, field.kind = .select values → "" ∉ values
  /-- A group offers as many values as its block has controls, and it has some. -/
  offersEachControl : ∀ values, field.kind = .radio values ∨ field.kind = .checkbox values →
    values ≠ [] ∧
      values.length = {control : Place | control.IsInside block ∧ IsControl control}.ncard
  /-- The pattern of a text is not empty. -/
  hasPattern : ∀ source, field.kind = .text (some source) → source ≠ ""
  /-- A kind is unknown only if its token names none. -/
  isUnknown : ∀ token, field.kind = .other token → token ∉ FieldKind.tokens

/-! ## The controls of a block -/

theorem controls_select (block : Place) :
    controls.select [block] = ["input", "textarea", "select"].flatMap
      fun tag => (Compound.tagged tag).select [block] := rfl

theorem mem_controls_iff {block control : Place} :
    control ∈ controls.select [block] ↔ control.IsInside block ∧ IsControl control := by
  simp only [controls_select, List.mem_flatMap, Compound.mem_select_singleton_iff,
    Compound.accepts_tagged, IsControl]
  constructor
  · rintro ⟨tag, isOne, inside, agrees⟩
    exact ⟨inside, tag, isOne, agrees⟩
  · rintro ⟨inside, tag, isOne, agrees⟩
    exact ⟨tag, isOne, inside, agrees⟩

/-- No control is listed twice: its tag is one of the three only. -/
theorem controls_nodup (block : Place) : (controls.select [block]).Nodup := by
  have distinct : ["input", "textarea", "select"].Pairwise
      (fun tag other => tag.toList.map Char.toLower ≠ other.toList.map Char.toLower) := by decide
  rw [controls_select, List.nodup_flatMap]
  constructor
  · intro tag _
    exact Place.nodup_of_ascending (Compound.select_singleton_ascending _ block)
  · apply distinct.imp
    intro tag other different place isTag isOther
    rw [Compound.mem_select_singleton_iff, Compound.accepts_tagged] at isTag isOther
    exact different ((beq_iff_eq.mp isTag.2).symm.trans (beq_iff_eq.mp isOther.2))

/-- As many controls are found as there are in the block. -/
theorem length_controls (block : Place) :
    (controls.select [block]).length =
      {control : Place | control.IsInside block ∧ IsControl control}.ncard := by
  classical
  have listed : {control : Place | control.IsInside block ∧ IsControl control} =
      (controls.select [block]).toFinset := by
    ext control
    simp [mem_controls_iff]
  rw [listed, Set.ncard_coe_finset, List.toFinset_card_of_nodup (controls_nodup block)]

/-! ## Fields that are built from a block -/

section Block

variable {block : Place} {field : Field}

theorem isTrimmed_titleOf (title : Element) : Text.IsTrimmed (titleOf title).toList := by
  rw [titleOf, String.toList_ofList]
  exact Text.isTrimmed_trim _

theorem isTrimmed_helpOf (help : Element) : Text.IsTrimmed (helpOf help).toList := by
  rw [helpOf, String.toList_ofList]
  exact Text.isTrimmed_trim _

/-- A group offers one value for each control. -/
theorem exists_controls_of_group (given : fieldOf? block = some field) {values : List String}
    (isGroup : field.kind = .radio values ∨ field.kind = .checkbox values) :
    ∃ primary others, controls.select [block] = primary :: others ∧
      values = (primary :: others).map fun control => control.element.attributeOrEmpty "value" := by
  obtain ⟨_, primary, others, _, areControls, _, _, _, kind⟩ := fieldOf?_eq_some given
  obtain ⟨token, rfl⟩ := FieldKind.ofToken_eq_group (kind ▸ isGroup)
  refine ⟨primary, others, areControls, ?_⟩
  rw [offeredValues, if_neg (by rcases token with is | is <;> simp [is]), if_pos token]

theorem isWellFormed_of_fieldOf? (given : fieldOf? block = some field) :
    IsWellFormed field block := by
  obtain ⟨title, primary, others, _, _, _, name, _, kind⟩ := fieldOf?_eq_some given
  have proper : field.kind.IsProper := kind ▸ FieldKind.isProper_ofToken _ _ _
  have trimmed : Text.IsTrimmed field.name.toList := name ▸ isTrimmed_titleOf title.element
  constructor
  case nameIsLine => exact newline_not_mem_name given
  case nameIsTrimmed => exact trimmed
  case labelIsTrimmed =>
    rcases label_of_fieldOf? given with isName | ⟨_, help, isHelp⟩
    · exact isName ▸ trimmed
    · exact isHelp ▸ isTrimmed_helpOf help
  case hasLabel =>
    intro empty
    rcases label_of_fieldOf? given with isName | ⟨shown, _⟩
    · exact isName ▸ empty
    · exact absurd empty shown
  case offersValues =>
    intro values isList
    exact ne_empty_of_fieldOf?_select given isList
  case offersEachControl =>
    intro values isGroup
    obtain ⟨first, rest, found, rfl⟩ := exists_controls_of_group given isGroup
    refine ⟨List.cons_ne_nil _ _, ?_⟩
    rw [← length_controls, found, List.length_map]
  case hasPattern => exact proper.hasPattern
  case isUnknown => exact proper.isUnknown

/-- A field that is built from a block is read back from its profile. -/
theorem ofProfile?_of_fieldOf? (given : fieldOf? block = some field) :
    Field.ofProfile? field.profile = some field := by
  have wellFormed := isWellFormed_of_fieldOf? given
  exact Field.ofProfile?_profile wellFormed.hasLabel ⟨wellFormed.hasPattern, wellFormed.isUnknown⟩

end Block

end Extraction

namespace Form

/-- Every field of a document is well formed with respect to the block that it is built
from, and its profile loses nothing: it can be read back, so that no other field of this or
any other document has it. -/
theorem fields_are_well_formed {root : Element} {form : Form} (read : ofTree? root = some form) :
    ∀ field ∈ form.fields,
      (∃ block, Extraction.IsBuiltFrom root field block) ∧
      (∀ block, Extraction.IsBuiltFrom root field block →
        Extraction.IsWellFormed field block) ∧
      Field.ofProfile? field.profile = some field ∧
      ∀ root' form', ofTree? root' = some form' → ∀ other ∈ form'.fields,
        other.profile = field.profile → other = field := by
  have lossless : ∀ {root form}, ofTree? root = some form → ∀ field ∈ form.fields,
      Field.ofProfile? field.profile = some field := by
    intro root form read field member
    rw [(ofTree?_eq_some read).2] at member
    obtain ⟨block, built⟩ := Extraction.mem_fieldsOf_iff.mp member
    exact Extraction.ofProfile?_of_fieldOf? built.given
  intro field member
  have built := Extraction.mem_fieldsOf_iff.mp ((ofTree?_eq_some read).2 ▸ member)
  refine ⟨built, ?_, lossless read field member, ?_⟩
  · intro block built
    exact Extraction.isWellFormed_of_fieldOf? built.given
  · intro root' form' read' other member' same
    have readBack := lossless read' other member'
    rw [same, lossless read field member] at readBack
    exact (Option.some.inj readBack).symm

/-- A page with two questions of one id. The second one has three controls of different
tags, one of them in upper case, and a title and a help text that go over two lines. -/
def surveyPage : Element :=
  ⟨"html", [], [.element "form" [("action", "/survey")] [
    .element "div" [("class", "ss-form-question")] [
      .element "label" [("class", "ss-q-item-label")] [.text "Size"],
      .element "input" [("name", "1"), ("type", "date")] []],
    .element "div" [("class", "ss-form-question")] [
      .element "label" [("class", "ss-q-item-label")] [.text " Colour \n*"],
      .element "p" [("class", "ss-secondary-text")] [.text "\tOne of\n these "],
      .element "select" [("value", "blue")] [],
      .element "INPUT" [("name", "1"), ("type", "radio"), ("value", "red")] [],
      .element "textarea" [] []]]]⟩

/-- The field of the second question, which takes the place of the first one. -/
def colourField : Field :=
  ⟨"1", "Colour", "One of\n these", false, .radio ["red", "", "blue"]⟩

/-- The field of the survey has a value for each of the three controls. -/
theorem fields_are_well_formed_surveyPage :
    ofTree? surveyPage = some ⟨"/survey", [colourField]⟩ ∧
    (∃ block, Extraction.IsBuiltFrom surveyPage colourField block ∧
      Extraction.IsWellFormed colourField block ∧
      {control : Place | control.IsInside block ∧ Extraction.IsControl control}.ncard = 3) ∧
    Field.ofProfile? colourField.profile = some colourField := by
  have read : ofTree? surveyPage = some ⟨"/survey", [colourField]⟩ := by decide +kernel
  obtain ⟨⟨block, built⟩, wellFormed, lossless, _⟩ :=
    fields_are_well_formed read colourField List.mem_cons_self
  have counted := (wellFormed block built).offersEachControl _ (Or.inl rfl)
  exact ⟨read, ⟨block, built, wellFormed block built, counted.2.symm⟩, lossless⟩

end Form

end Questionnaire
