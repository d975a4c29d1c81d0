/-
# Names and shadowed fields

In a form every field has an id of its own, but names may repeat, and a name
stands for the last field that has it. An earlier field with the same name is
shadowed: no answer ever reaches it. Every other field gets the answer to its
name.
-/

import Mathlib.Data.List.Nodup
import Questionnaire.Proofs.Answer
import Questionnaire.Proofs.Form.Determination
import Questionnaire.Proofs.Validation

namespace Questionnaire.Form

/-- A field of a form is shadowed if a later field has its name. -/
def IsShadowed (form : Form) (field : Field) : Prop :=
  ∃ before after, form.fields = before ++ field :: after ∧
    ∃ later ∈ after, later.name = field.name

variable {form : Form} {field other : Field}

/-- A field that no later one shadows is the last one with its name. -/
theorem last_of_not_isShadowed (member : field ∈ form.fields) (visible : ¬ form.IsShadowed field) :
    LastWith Field.name field form.fields := by
  obtain ⟨before, after, split⟩ := List.append_of_mem member
  exact ⟨before, after, split, fun later behind same =>
    visible ⟨before, after, split, later, behind, same⟩⟩

section Distinct

variable (distinct : (form.fields.map Field.id).Nodup)

include distinct

theorem eq_of_id_eq (member : field ∈ form.fields) (member' : other ∈ form.fields)
    (same : field.id = other.id) : field = other :=
  List.inj_on_of_nodup_map distinct member member' same

/-- The last field with a name is not shadowed. -/
theorem not_isShadowed_of_last (last : LastWith Field.name field form.fields) :
    ¬ form.IsShadowed field := by
  rintro ⟨before, after, split, later, behind, same⟩
  obtain ⟨front, back, split', none⟩ := last
  have once : form.fields.Nodup := distinct.of_map
  rw [split] at once
  have absent : field ∉ before := fun inside =>
    (List.nodup_append.mp once).2.2 field inside field List.mem_cons_self rfl
  have absent' : field ∉ after := (List.nodup_cons.mp (List.nodup_append.mp once).2.1).1
  obtain ⟨-, -, rfl⟩ :=
    (List.append_cons_inj_of_notMem absent absent').mp (split.symm.trans split')
  exact none later behind same

/-- No two names of a form stand for one id. -/
theorem names_injective : form.names.IsInjective := by
  intro first second id known known'
  obtain ⟨field, last, rfl, rfl⟩ := NameMap.get?_ofFields_eq_some_iff.mp known
  obtain ⟨other, last', rfl, same⟩ := NameMap.get?_ofFields_eq_some_iff.mp known'
  rw [eq_of_id_eq distinct last'.mem last.mem same]

/-- The id of a field is in the range of the name map if the field is not shadowed. -/
theorem exists_name_iff (member : field ∈ form.fields) :
    (∃ name, form.names.get? name = some field.id) ↔ ¬ form.IsShadowed field := by
  constructor
  · rintro ⟨name, known⟩
    obtain ⟨last, isLast, _, same⟩ := NameMap.get?_ofFields_eq_some_iff.mp known
    obtain rfl := eq_of_id_eq distinct isLast.mem member same
    exact not_isShadowed_of_last distinct isLast
  · intro visible
    have last := last_of_not_isShadowed member visible
    exact ⟨field.name, NameMap.get?_ofFields_eq_some_iff.mpr ⟨field, last, rfl, rfl⟩⟩

/-- The name of a field leads to its id if the field is not shadowed. -/
theorem get?_names_iff (member : field ∈ form.fields) :
    form.names.get? field.name = some field.id ↔ ¬ form.IsShadowed field := by
  rw [← exists_name_iff distinct member]
  constructor
  · intro known
    exact ⟨field.name, known⟩
  · rintro ⟨name, known⟩
    obtain ⟨last, isLast, rfl, same⟩ := NameMap.get?_ofFields_eq_some_iff.mp known
    obtain rfl := eq_of_id_eq distinct isLast.mem member same
    exact known

/-- A field that is not shadowed gets the answer to its name. -/
theorem parameter_of_last (last : LastWith Field.name field form.fields) (answers : Answers) :
    (form.parameters answers).get? field.id = answers.get? field.name := by
  apply Parameters.get?_ofAnswers_of_known (names_injective distinct)
  exact NameMap.get?_ofFields_eq_some_iff.mpr ⟨field, last, rfl, rfl⟩

/-- No answer reaches a shadowed field. -/
theorem parameter_of_isShadowed (shadowed : form.IsShadowed field) (answers : Answers) :
    (form.parameters answers).get? field.id = none := by
  have member : field ∈ form.fields := by
    obtain ⟨before, after, split, _⟩ := shadowed
    exact split ▸ List.mem_append_right before List.mem_cons_self
  apply Parameters.get?_ofAnswers_of_unnamed
  intro name known
  exact (exists_name_iff distinct member).mp ⟨name, known⟩ shadowed

end Distinct

/-- Every parameter of a form stands under the id of a field. -/
theorem exists_field_of_parameter {answers : Answers} {id : String} {answer : Answer}
    (given : (form.parameters answers).get? id = some answer) :
    ∃ field ∈ form.fields, field.id = id := by
  obtain ⟨name, known, _⟩ := Parameters.get?_ofAnswers_eq_some_iff.mp given
  obtain ⟨field, last, _, same⟩ := NameMap.get?_ofFields_eq_some_iff.mp known
  exact ⟨field, last.mem, same⟩

/-- A form accepts answers exactly if none of its fields finds a fault in the parameter
under its id. -/
theorem accepts_iff {answers : Answers} :
    form.accepts answers = true ↔
      ∀ field ∈ form.fields, field.faultIn ((form.parameters answers).get? field.id) = none := by
  rw [accepts, List.isEmpty_iff]
  exact Parameters.complaints_eq_nil_iff

end Questionnaire.Form
