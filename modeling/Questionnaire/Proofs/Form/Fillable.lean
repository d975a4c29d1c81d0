/-
# Which forms can be filled in

Whether any answers at all are valid is decided field by field. A shadowed field has
to do without an answer; every other field needs some answer that suits it. The
answers to the fields do not get into each other's way, because each name stands for
one field and each field has an id of its own. Some forms that documents have cannot
be filled in: one shadowed field that insists on an answer is enough.
-/

import Questionnaire.Proofs.Form.Names

namespace Questionnaire.Form

open Html

/-- What it takes that a field of a form can be filled in. -/
structure CanFill (form : Form) (field : Field) : Prop where
  /-- A shadowed field is content without an answer. -/
  without_answer : form.IsShadowed field →
    field.required = false ∧ field.kind.accepts (.single "") = true
  /-- Any other field is content with some answer. -/
  with_answer : ¬ form.IsShadowed field →
    ∃ answer, field.kind.accepts answer = true ∧ (field.required = true → answer.isEmpty = false)

variable {form : Form}

/-- Every field of a form that accepts some answers can be filled in. -/
theorem canFill_of_accepts (distinct : (form.fields.map Field.id).Nodup) {answers : Answers}
    (accepted : form.accepts answers = true) {field : Field} (member : field ∈ form.fields) :
    form.CanFill field := by
  have faultless := accepts_iff.mp accepted field member
  constructor
  · intro shadowed
    rw [parameter_of_isShadowed distinct shadowed] at faultless
    exact Field.faultIn_none_iff.mp faultless
  · intro _
    cases given : (form.parameters answers).get? field.id with
    | none =>
        rw [given] at faultless
        obtain ⟨optional, takes⟩ := Field.faultIn_none_iff.mp faultless
        refine ⟨.single "", takes, ?_⟩
        intro required
        exact absurd (optional.symm.trans required) Bool.false_ne_true
    | some answer =>
        rw [given] at faultless
        obtain ⟨present, takes⟩ := Field.faultIn_some_iff.mp faultless
        exact ⟨answer, takes, present⟩

/-- Answers to all fields at once: each name gets the answer picked for the last field
that has it. -/
def answersBy (form : Form) (pick : Field → Answer) : Answers :=
  Dictionary.ofList (form.fields.map fun field => (field.name, pick field))

/-- The answer picked for a field that is last with its name is the answer to it. -/
theorem get?_answersBy {field : Field} (last : LastWith Field.name field form.fields)
    (pick : Field → Answer) : (form.answersBy pick).get? field.name = some (pick field) :=
  (Dictionary.get?_ofList_eq_some_iff _).mpr (LastWith.map_iff.mpr ⟨field, last, rfl⟩)

/-- A form all of whose fields can be filled in accepts some answers. -/
theorem exists_accepts_of_canFill (distinct : (form.fields.map Field.id).Nodup)
    (fillable : ∀ field ∈ form.fields, form.CanFill field) :
    ∃ answers, form.accepts answers = true := by
  have suitable : ∀ field, ∃ answer, field ∈ form.fields → ¬ form.IsShadowed field →
      field.kind.accepts answer = true ∧ (field.required = true → answer.isEmpty = false) := by
    intro field
    by_cases visible : field ∈ form.fields ∧ ¬ form.IsShadowed field
    · obtain ⟨answer, suits⟩ := (fillable field visible.1).with_answer visible.2
      exact ⟨answer, fun _ _ => suits⟩
    · exact ⟨.single "", fun member visible' => absurd ⟨member, visible'⟩ visible⟩
  obtain ⟨pick, suits⟩ := Classical.skolem.mp suitable
  refine ⟨form.answersBy pick, accepts_iff.mpr ?_⟩
  intro field member
  by_cases shadowed : form.IsShadowed field
  · rw [parameter_of_isShadowed distinct shadowed]
    exact Field.faultIn_none_iff.mpr ((fillable field member).without_answer shadowed)
  · have last := last_of_not_isShadowed member shadowed
    rw [parameter_of_last distinct last, get?_answersBy last]
    obtain ⟨takes, present⟩ := suits field member shadowed
    exact Field.faultIn_some_iff.mpr ⟨present, takes⟩

/-- Some answers to a form are valid exactly if every field of it can be filled in. A
shadowed field that is required, or of a kind that never takes the empty text, thus
makes all answers invalid. -/
theorem exists_accepts_iff_canFill {root : Element} (read : ofTree? root = some form) :
    ((∃ answers, form.accepts answers = true) ↔ ∀ field ∈ form.fields, form.CanFill field) ∧
    ∀ field ∈ form.fields, form.IsShadowed field →
      field.required = true ∨ field.kind.WantsAnswer →
      ∀ answers, form.accepts answers = false := by
  have distinct := ids_distinct read
  refine ⟨⟨?_, exists_accepts_of_canFill distinct⟩, ?_⟩
  · rintro ⟨answers, accepted⟩ field member
    exact canFill_of_accepts distinct accepted member
  · intro field member shadowed insists answers
    apply Bool.eq_false_iff.mpr
    intro accepted
    have fillable := canFill_of_accepts distinct accepted member
    obtain ⟨optional, takes⟩ := fillable.without_answer shadowed
    rcases insists with required | wants
    · exact Bool.false_ne_true (optional.symm.trans required)
    · have refuses := wants.not_accepts_empty fun values => ne_empty_of_select read member
      exact Bool.false_ne_true (refuses.symm.trans takes)

/-- A page that asks under one title for a number and then for a text. -/
def twicePage : Element :=
  ⟨"html", [], [.element "form" [("action", "/answers")]
    [.element "div" [("class", "ss-form-question")]
      [.element "label" [("class", "ss-q-item-label")] [.text "Age"],
        .element "input" [("name", "1"), ("type", "number")] []],
     .element "div" [("class", "ss-form-question")]
      [.element "label" [("class", "ss-q-item-label")] [.text "Age"],
        .element "input" [("name", "2"), ("type", "text")] []]]]⟩

/-- The form of this page. -/
def twiceForm : Form :=
  ⟨"/answers", [⟨"1", "Age", "Age", false, .number⟩, ⟨"2", "Age", "Age", false, .text none⟩]⟩

/-- Nothing has to be answered on this page, and yet no answers to it are valid. -/
theorem exists_accepts_iff_canFill_twiceForm :
    ofTree? twicePage = some twiceForm ∧ ∀ answers, twiceForm.accepts answers = false := by
  have read : ofTree? twicePage = some twiceForm := by decide +kernel
  have shadowed : twiceForm.IsShadowed ⟨"1", "Age", "Age", false, .number⟩ :=
    ⟨[], [⟨"2", "Age", "Age", false, .text none⟩], rfl, _, List.mem_singleton_self _, rfl⟩
  exact ⟨read, (exists_accepts_iff_canFill read).2 _ List.mem_cons_self shadowed (Or.inr trivial)⟩

end Questionnaire.Form
