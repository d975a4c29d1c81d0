/-
# Every field judges its own answer

Answers are taken from names to ids before they are judged, so that a field could in
principle be given the answer to another name, or lose its own to one. In a form that was
read from a document this does not happen: a field judges the answer to its own name and no
other one, a shadowed field judges none at all, and a missing answer is judged like the
empty text. What is answered to other names does not matter to a field.
-/

import Questionnaire.Proofs.Form.Names

namespace Questionnaire

open Html

/-- The answer to a name, with the empty text in place of a missing one. -/
def Answers.orEmpty (answers : Answers) (name : String) : Answer :=
  (answers.get? name).getD (.single "")

namespace Field

variable {field : Field}

/-- A missing answer is judged like the empty text. -/
theorem faultIn_none_eq : field.faultIn none = field.faultIn (some (.single "")) := by
  simp [faultIn, Answer.isEmpty]

theorem faultIn_getD (answer : Option Answer) :
    field.faultIn (some (answer.getD (.single ""))) = field.faultIn answer := by
  cases answer with
  | none => exact faultIn_none_eq.symm
  | some given => rfl

end Field

namespace Form

variable {form : Form} {field other : Field} {first second : Answers} {name : String}

/-- The fault that a field finds when a form judges answers, if it finds one. -/
def verdict (form : Form) (answers : Answers) (field : Field) : Option Fault :=
  field.faultIn ((form.parameters answers).get? field.id)

/-- There are as many complaints as fields that find a fault. -/
theorem length_complaints (form : Form) (answers : Answers) :
    (form.complaints answers).length =
      form.fields.countP fun field => (form.verdict answers field).isSome := by
  rw [complaints, validate, Parameters.complaints, List.length_filterMap_eq_countP]
  simp [verdict, parameters]

section Distinct

variable (distinct : (form.fields.map Field.id).Nodup)

include distinct

theorem verdict_of_isShadowed (shadowed : form.IsShadowed field) (answers : Answers) :
    form.verdict answers field = field.faultIn none := by
  rw [verdict, parameter_of_isShadowed distinct shadowed]

theorem verdict_of_not_isShadowed (member : field ∈ form.fields)
    (visible : ¬ form.IsShadowed field) (answers : Answers) :
    form.verdict answers field = field.faultIn (answers.get? field.name) := by
  rw [verdict, parameter_of_last distinct (last_of_not_isShadowed member visible)]

/-- Answers that agree on the name of a field, if no later field has it, get the same
verdict. -/
theorem verdict_congr (member : field ∈ form.fields)
    (agree : ¬ form.IsShadowed field → first.orEmpty field.name = second.orEmpty field.name) :
    form.verdict first field = form.verdict second field := by
  by_cases shadowed : form.IsShadowed field
  · rw [verdict_of_isShadowed distinct shadowed, verdict_of_isShadowed distinct shadowed]
  · have entries := agree shadowed
    unfold Answers.orEmpty at entries
    rw [verdict_of_not_isShadowed distinct member shadowed,
      verdict_of_not_isShadowed distinct member shadowed, ← Field.faultIn_getD, entries,
      Field.faultIn_getD]

/-- A change of the answer to one name is noticed only by the last field with this name. -/
theorem last_of_verdict_ne (member : field ∈ form.fields)
    (elsewhere : ∀ other, other ≠ name → first.get? other = second.get? other)
    (changed : form.verdict first field ≠ form.verdict second field) :
    LastWith Field.name field form.fields ∧ field.name = name := by
  constructor
  · apply last_of_not_isShadowed member
    intro shadowed
    exact changed (verdict_congr distinct member fun visible => absurd shadowed visible)
  · by_contra different
    apply changed
    apply verdict_congr distinct member
    intro _
    rw [Answers.orEmpty, Answers.orEmpty, elsewhere field.name different]

/-- A change of the answer to one name is noticed by one field at most. -/
theorem eq_of_verdict_ne (member : field ∈ form.fields) (member' : other ∈ form.fields)
    (elsewhere : ∀ other, other ≠ name → first.get? other = second.get? other)
    (changed : form.verdict first field ≠ form.verdict second field)
    (changed' : form.verdict first other ≠ form.verdict second other) : field = other := by
  obtain ⟨last, isName⟩ := last_of_verdict_ne distinct member elsewhere changed
  obtain ⟨last', isName'⟩ := last_of_verdict_ne distinct member' elsewhere changed'
  exact last.unique last' (isName.trans isName'.symm)

end Distinct

/-- How the form of a document judges answers. The complaints are the verdicts of the
fields, in their order and at most one for each. The verdict of a field is what it says to
the answer to its own name, or to a missing answer where a later field has the name, and a
missing answer is judged like the empty text. So answers that agree on the names of the
fields get the same complaints, whatever they say to other names, and changing the answer
to one name changes the verdict of one field at most. -/
theorem fields_judge_own_answers {root : Element} (read : ofTree? root = some form) :
    (∀ answers, form.complaints answers = form.fields.filterMap fun field =>
      (form.verdict answers field).map fun fault => ⟨field.name, fault⟩) ∧
    (∀ field ∈ form.fields, ∀ answers,
      (form.IsShadowed field → form.verdict answers field = field.faultIn none) ∧
      (¬ form.IsShadowed field →
        form.verdict answers field = field.faultIn (answers.get? field.name))) ∧
    (∀ field : Field, field.faultIn none = field.faultIn (some (.single ""))) ∧
    (∀ first second : Answers,
      (∀ field ∈ form.fields, first.orEmpty field.name = second.orEmpty field.name) →
      form.complaints first = form.complaints second) ∧
    ∀ (first second : Answers) (name : String),
      (∀ other, other ≠ name → first.get? other = second.get? other) →
      ∀ field ∈ form.fields, ∀ other ∈ form.fields,
        form.verdict first field ≠ form.verdict second field →
        form.verdict first other ≠ form.verdict second other → field = other := by
  have distinct := ids_distinct read
  have verdicts : ∀ answers, form.complaints answers = form.fields.filterMap fun field =>
      (form.verdict answers field).map fun fault => ⟨field.name, fault⟩ := fun _ => rfl
  refine ⟨verdicts, ?_, fun _ => Field.faultIn_none_eq, ?_, ?_⟩
  · intro field member answers
    exact ⟨fun shadowed => verdict_of_isShadowed distinct shadowed answers,
      fun visible => verdict_of_not_isShadowed distinct member visible answers⟩
  · intro first second agree
    rw [verdicts, verdicts]
    apply List.filterMap_congr
    intro field member
    rw [verdict_congr distinct member fun _ => agree field member]
  · intro first second name elsewhere field member other member' changed changed'
    exact eq_of_verdict_ne distinct member member' elsewhere changed changed'

/-- A page that asks for two numbers. -/
def measuresPage : Element :=
  ⟨"html", [], [.element "form" [("action", "/answers")]
    [.element "div" [("class", "ss-form-question")]
      [.element "label" [("class", "ss-q-item-label")] [.text "Age"],
        .element "input" [("name", "1"), ("type", "number")] []],
     .element "div" [("class", "ss-form-question")]
      [.element "label" [("class", "ss-q-item-label")] [.text "Size"],
        .element "input" [("name", "2"), ("type", "number"), ("required", "")] []]]]⟩

/-- The first field of this page. -/
def ageField : Field := ⟨"1", "Age", "Age", false, .number⟩

/-- The second field of this page. -/
def sizeField : Field := ⟨"2", "Size", "Size", true, .number⟩

/-- The form of this page. -/
def measuresForm : Form := ⟨"/answers", [ageField, sizeField]⟩

/-- Answers to the page, of which only the age depends on what is given. -/
def measures (age : String) : Answers :=
  Dictionary.ofList [("Age", .single age), ("Colour", .single "red")]

/-- Another age changes what the field of the age says and nothing else. A colour that is
not asked for, and an empty text in place of no size, change nothing at all. -/
theorem fields_judge_own_answers_measuresForm :
    ofTree? measuresPage = some measuresForm ∧
      measuresForm.verdict (measures "old") ageField ≠
        measuresForm.verdict (measures "8") ageField ∧
      measuresForm.verdict (measures "old") sizeField =
        measuresForm.verdict (measures "8") sizeField ∧
      measuresForm.complaints (measures "old") =
        measuresForm.complaints (Dictionary.ofList [("Age", .single "old"),
          ("Size", .single "")]) := by
  have read : ofTree? measuresPage = some measuresForm := by decide +kernel
  obtain ⟨-, -, -, agreeing, changing⟩ := fields_judge_own_answers read
  have changed : measuresForm.verdict (measures "old") ageField ≠
      measuresForm.verdict (measures "8") ageField := by decide +kernel
  refine ⟨read, changed, ?_, agreeing _ _ (by decide +kernel)⟩
  by_contra changed'
  have elsewhere : ∀ other, other ≠ "Age" →
      (measures "old").get? other = (measures "8").get? other := by
    intro other different
    simp [measures, Dictionary.ofList, Dictionary.insertAll, different]
  exact absurd (changing _ _ "Age" elsewhere ageField (by decide) sizeField (by decide)
    changed changed') (by decide)

end Form

end Questionnaire
