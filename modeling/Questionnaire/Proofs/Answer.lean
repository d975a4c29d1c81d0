/-
# From names to ids

A name map holds for every name the id of the last field with that name. Taking
answers through a name map keeps, for every id, the answer to the greatest name
that the map takes to it. Where no two names share an id, as in every form, this
is simply the answer to the one name of the id.
-/

import Questionnaire.Answer
import Questionnaire.Proofs.Dictionary.Keys

namespace Questionnaire

/-- A name stands for the id of the last field that has it. -/
theorem NameMap.get?_ofFields_eq_some_iff {fields : List Field} {name id : String} :
    (NameMap.ofFields fields).get? name = some id ↔
      ∃ field, LastWith Field.name field fields ∧ field.name = name ∧ field.id = id := by
  rw [NameMap.ofFields, Dictionary.get?_ofList_eq_some_iff, LastWith.map_iff]
  simp [Function.comp_def]

namespace Parameters

variable {answers : Answers} {names : NameMap} {id : String} {answer : Answer}

/-- Under an id stands the answer to the greatest name that the map takes to it. -/
theorem get?_ofAnswers_eq_some_iff :
    (ofAnswers answers names).get? id = some answer ↔
      ∃ name, names.get? name = some id ∧ answers.get? name = some answer ∧
        ∀ later, name < later → names.get? later = some id → answers.get? later = none := by
  have ascending := answers.ascending
  rw [ofAnswers, Dictionary.get?_ofList_eq_some_iff, LastWith.filterMap_iff]
  constructor
  · rintro ⟨before, ⟨name, given⟩, after, entries, taken, none⟩
    obtain ⟨mapped, known, same⟩ := Option.map_eq_some_iff.mp taken
    obtain ⟨rfl, rfl⟩ := Prod.mk.inj same
    refine ⟨name, known, (Dictionary.get?_eq_some_iff_mem _).mpr (by simp [entries]), ?_⟩
    intro later greater known'
    apply Option.eq_none_iff_forall_ne_some.mpr
    intro answer' given'
    have member := (Dictionary.get?_eq_some_iff_mem _).mp given'
    rw [entries] at member ascending
    have behind := (Dictionary.mem_behind_iff ascending).mpr ⟨member, greater⟩
    exact none (later, answer') behind (mapped, answer') (by simp [known']) rfl
  · rintro ⟨name, known, given, greatest⟩
    obtain ⟨before, after, entries⟩ :=
      List.append_of_mem ((Dictionary.get?_eq_some_iff_mem answers).mp given)
    refine ⟨before, (name, answer), after, entries, by simp [known], ?_⟩
    rintro ⟨later, given'⟩ behind ⟨mapped, answer'⟩ taken rfl
    obtain ⟨_, known', same⟩ := Option.map_eq_some_iff.mp taken
    obtain ⟨rfl, rfl⟩ := Prod.mk.inj same
    rw [entries] at ascending
    obtain ⟨member, greater⟩ := (Dictionary.mem_behind_iff ascending).mp behind
    have current : answers.get? later = some given' :=
      (Dictionary.get?_eq_some_iff_mem answers).mpr (entries ▸ member)
    rw [greatest later greater known'] at current
    cases current

/-- Where one name alone stands for an id, its answer is the parameter. -/
theorem get?_ofAnswers_of_only {name : String} (known : names.get? name = some id)
    (only : ∀ other, names.get? other = some id → other = name) :
    (ofAnswers answers names).get? id = answers.get? name := by
  ext answer
  rw [get?_ofAnswers_eq_some_iff]
  constructor
  · rintro ⟨other, known', given, _⟩
    exact only other known' ▸ given
  · intro given
    exact ⟨name, known, given, fun later greater known' =>
      absurd (only later known' ▸ greater) (String.lt_irrefl name)⟩

/-- Where no two names share an id, the parameter under the id of a name is the answer to
the name. -/
theorem get?_ofAnswers_of_known {name : String} (injective : names.IsInjective)
    (known : names.get? name = some id) : (ofAnswers answers names).get? id = answers.get? name :=
  get?_ofAnswers_of_only known fun other known' => injective other name id known' known

/-- An id that no name stands for has no parameter, whatever is answered. -/
theorem get?_ofAnswers_of_unnamed (unnamed : ∀ name, names.get? name ≠ some id) :
    (ofAnswers answers names).get? id = none := by
  apply Option.eq_none_iff_forall_ne_some.mpr
  intro answer given
  obtain ⟨name, known, _⟩ := get?_ofAnswers_eq_some_iff.mp given
  exact unnamed name known

end Parameters

end Questionnaire
