/-
# When validation passes

Answers pass exactly if no field finds a fault in the parameter under its id. A
field finds none exactly if its answer is there when it must be, and its kind
takes the answer, or the empty text in place of a missing one.
-/

import Questionnaire.Validation

namespace Questionnaire

/-- The kinds that never take the empty text, so that their fields are never content
with a missing answer. -/
def FieldKind.WantsAnswer : FieldKind → Prop
  | .number | .email | .url | .select _ | .checkbox _ => True
  | .text _ | .textarea | .radio _ | .other _ => False

/-- A test of single texts is passed by single texts only. -/
theorem Answer.any_single?_iff {answer : Answer} {test : String → Bool} :
    answer.single?.any test = true ↔ ∃ text, answer = .single text ∧ test text = true := by
  cases answer <;> simp [Answer.single?]

/-- Boxes take lists of their values only. -/
theorem FieldKind.accepts_checkbox_iff {values : List String} {answer : Answer} :
    (FieldKind.checkbox values).accepts answer = true ↔
      ∃ texts, answer = .multiple texts ∧ ∀ text ∈ texts, text ∈ values := by
  cases answer <;> simp [FieldKind.accepts]

/-- No kind that wants an answer takes the empty text, as long as its list, if it has
one, does not offer it. -/
theorem FieldKind.WantsAnswer.not_accepts_empty {kind : FieldKind} (wants : kind.WantsAnswer)
    (offers : ∀ values, kind = .select values → "" ∉ values) :
    kind.accepts (.single "") = false := by
  cases kind with
  | number => rfl
  | email => rfl
  | url => rfl
  | select values => simpa [FieldKind.accepts, Answer.single?] using offers values rfl
  | checkbox values => rfl
  | text _ | textarea | radio _ | other _ => exact False.elim wants

namespace Field

variable {field : Field} {answer : Option Answer}

/-- A field finds no fault in an answer that is there when it must be and that its kind
takes. -/
theorem faultIn_eq_none_iff :
    field.faultIn answer = none ↔
      (field.required = true → ∃ given, answer = some given ∧ given.isEmpty = false) ∧
        field.kind.accepts (answer.getD (.single "")) = true := by
  have present : answer.any (fun given => !given.isEmpty) = true ↔
      ∃ given, answer = some given ∧ given.isEmpty = false := by
    cases answer <;> simp
  rw [faultIn, ← present]
  cases field.required <;> cases answer.any (fun given => !given.isEmpty) <;> simp

/-- A field can do without an answer if it is optional and its kind takes the empty
text. -/
theorem faultIn_none_iff :
    field.faultIn none = none ↔
      field.required = false ∧ field.kind.accepts (.single "") = true := by
  simp [faultIn_eq_none_iff]

/-- A field finds no fault in an answer that its kind takes, provided the answer is not
empty where it must not be. -/
theorem faultIn_some_iff {given : Answer} :
    field.faultIn (some given) = none ↔
      (field.required = true → given.isEmpty = false) ∧ field.kind.accepts given = true := by
  simp [faultIn_eq_none_iff]

end Field

/-- Nothing is complained about exactly if no field finds a fault. -/
theorem Parameters.complaints_eq_nil_iff {parameters : Parameters} {fields : List Field} :
    parameters.complaints fields = [] ↔
      ∀ field ∈ fields, field.faultIn (parameters.get? field.id) = none := by
  rw [Parameters.complaints, List.filterMap_eq_nil_iff]
  exact forall_congr' fun field => imp_congr_right fun _ => Option.map_eq_none_iff

end Questionnaire
