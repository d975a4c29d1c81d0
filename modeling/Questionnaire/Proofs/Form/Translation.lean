/-
# Nothing is lost from names to ids

Taking answers through a name map keeps one answer for each id, and where several names
share an id the greatest of them decides, so a name map in general may lose answers. The
name map of a form loses none that it knows: no two of its names share an id. Its
parameters are then the answers to known names under other keys, and the inverse of the
name map leads back to exactly these answers.
-/

import Questionnaire.Proofs.Form.NameMap
import Questionnaire.Proofs.Text.ByteOrder

namespace Questionnaire

open Html

/-- The id of a name, where names that are not known have an empty one. -/
def NameMap.idOf (names : NameMap) (name : String) : String :=
  (names.get? name).getD ""

/-! ## Any name map -/

namespace Parameters

variable {answers : Answers} {names : NameMap} {id : String}

/-- The parameters stand under the ids of the answered names. -/
theorem mem_keys_ofAnswers_iff :
    id ∈ (ofAnswers answers names).keys ↔ ∃ name ∈ answers.keys, names.get? name = some id := by
  rw [ofAnswers, Dictionary.keys_ofList, List.mem_toFinset]
  simp only [Dictionary.mem_keys_iff, Dictionary.get?_eq_some_iff_mem answers]
  constructor
  · intro member
    obtain ⟨moved, taken, rfl⟩ := List.mem_map.mp member
    obtain ⟨entry, given, taken⟩ := List.mem_filterMap.mp taken
    obtain ⟨id, known, rfl⟩ := Option.map_eq_some_iff.mp taken
    exact ⟨entry.1, ⟨entry.2, given⟩, known⟩
  · rintro ⟨name, ⟨answer, given⟩, known⟩
    apply List.mem_map.mpr
    exact ⟨(id, answer), List.mem_filterMap.mpr ⟨_, given, by simp [known]⟩, rfl⟩

/-- Under an id stands the answer to that one of its answered names which has the greatest
bytes. -/
theorem get?_ofAnswers_eq_some_iff_greatest {answer : Answer} :
    (ofAnswers answers names).get? id = some answer ↔
      ∃ name, answers.get? name = some answer ∧ names.get? name = some id ∧
        ∀ other ∈ answers.keys, names.get? other = some id →
          other = name ∨ other.toUTF8.data.toList < name.toUTF8.data.toList := by
  simp only [get?_ofAnswers_eq_some_iff, ← Text.lt_iff_utf8_lt, Dictionary.mem_keys_iff]
  constructor
  · rintro ⟨name, known, given, greatest⟩
    refine ⟨name, given, known, ?_⟩
    rintro other ⟨answer', given'⟩ known'
    by_cases less : other < name
    · exact Or.inr less
    by_cases greater : name < other
    · rw [greatest other greater known'] at given'
      cases given'
    · exact Or.inl (String.le_antisymm greater less)
  · rintro ⟨name, given, known, greatest⟩
    refine ⟨name, known, given, ?_⟩
    intro later greater known'
    apply Option.eq_none_iff_forall_ne_some.mpr
    intro answer' given'
    rcases greatest later ⟨answer', given'⟩ known' with rfl | less
    · exact String.lt_irrefl later greater
    · exact String.lt_asymm greater less

/-! ## Name maps whose ids are all different -/

section Injective

variable (injective : names.IsInjective)

include injective

/-- The ids of the answered names are one by one the keys of the parameters. -/
theorem bijOn_ofAnswers (answers : Answers) :
    Set.BijOn names.idOf ((answers.keys ∩ names.keys : Finset String) : Set String)
      ((ofAnswers answers names).keys : Set String) := by
  have known : ∀ {name}, name ∈ answers.keys ∩ names.keys →
      names.get? name = some (names.idOf name) := by
    intro name member
    obtain ⟨id, known⟩ := Dictionary.mem_keys_iff.mp (Finset.mem_inter.mp member).2
    rw [NameMap.idOf, known, Option.getD_some]
  refine ⟨?_, ?_, ?_⟩
  · intro name member
    have answered := (Finset.mem_inter.mp member).1
    exact mem_keys_ofAnswers_iff.mpr ⟨name, answered, known member⟩
  · intro first member second member' same
    have leads := known member'
    rw [← same] at leads
    exact injective first second _ (known member) leads
  · intro id member
    obtain ⟨name, answered, found⟩ := mem_keys_ofAnswers_iff.mp member
    have isKnown : name ∈ names.keys := Dictionary.mem_keys_iff.mpr ⟨id, found⟩
    have leads : names.idOf name = id := by rw [NameMap.idOf, found, Option.getD_some]
    exact ⟨name, Finset.mem_inter.mpr ⟨answered, isKnown⟩, leads⟩

/-- There are as many parameters as answered names. -/
theorem size_ofAnswers (answers : Answers) :
    (ofAnswers answers names).size = (answers.keys ∩ names.keys).card := by
  rw [← Dictionary.card_keys]
  exact (bijOn_ofAnswers injective answers).finsetCard_eq.symm

/-- Taking the parameters through the inverse map gives the answers to known names. -/
theorem ofAnswers_inverse (answers : Answers) :
    ofAnswers (ofAnswers answers names) names.inverse =
      answers.restrict fun name => (names.get? name).isSome := by
  apply Dictionary.ext_get?
  intro name
  rw [Dictionary.get?_restrict]
  cases known : names.get? name with
  | none =>
      apply get?_ofAnswers_of_unnamed
      intro id leads
      rw [injective.get?_inverse_iff, known] at leads
      cases leads
  | some id =>
      have leads : names.inverse.get? id = some name := injective.get?_inverse_iff.mpr known
      have only : ∀ other, names.inverse.get? other = some name → other = id := by
        intro other leads'
        rw [injective.get?_inverse_iff, known] at leads'
        exact (Option.some.inj leads').symm
      rw [get?_ofAnswers_of_only leads only]
      exact get?_ofAnswers_of_known injective known

end Injective

end Parameters

/-! ## Forms -/

namespace Form

/-- From names to ids and back. Under any name map, the parameters stand under the ids of
the answered names that it knows, and each is the answer to the greatest of the names of
its id. In a form no two names share an id. So every answer to a known name is the
parameter under the id of this name, the ids of these names are one by one the keys of the
parameters, and what the inverse map reads back is the answers to known names, no more and
no less. -/
theorem parameters_lose_nothing :
    (∀ (answers : Answers) (names : NameMap) (id : String),
      (id ∈ (Parameters.ofAnswers answers names).keys ↔
        ∃ name ∈ answers.keys, names.get? name = some id) ∧
      ∀ answer, (Parameters.ofAnswers answers names).get? id = some answer ↔
        ∃ name, answers.get? name = some answer ∧ names.get? name = some id ∧
          ∀ other ∈ answers.keys, names.get? other = some id →
            other = name ∨ other.toUTF8.data.toList < name.toUTF8.data.toList) ∧
    ∀ (root : Element) (form : Form), ofTree? root = some form →
      (∀ first second id, form.names.get? first = some id →
        form.names.get? second = some id → first = second) ∧
      (∀ name id, form.names.inverse.get? id = some name ↔ form.names.get? name = some id) ∧
      ∀ answers : Answers,
        (∀ name id, form.names.get? name = some id →
          (form.parameters answers).get? id = answers.get? name) ∧
        Set.BijOn form.names.idOf
          ((answers.keys ∩ form.names.keys : Finset String) : Set String)
          ((form.parameters answers).keys : Set String) ∧
        (form.parameters answers).size = (answers.keys ∩ form.names.keys).card ∧
        Parameters.ofAnswers (form.parameters answers) form.names.inverse =
          answers.restrict fun name => (form.names.get? name).isSome := by
  refine ⟨?_, ?_⟩
  · intro answers names id
    exact ⟨Parameters.mem_keys_ofAnswers_iff,
      fun answer => Parameters.get?_ofAnswers_eq_some_iff_greatest⟩
  · intro root form read
    have injective := names_injective (ids_distinct read)
    refine ⟨injective, fun name id => injective.get?_inverse_iff, ?_⟩
    intro answers
    refine ⟨?_, Parameters.bijOn_ofAnswers injective answers,
      Parameters.size_ofAnswers injective answers, Parameters.ofAnswers_inverse injective answers⟩
    intro name id known
    exact Parameters.get?_ofAnswers_of_known injective known

/-- Answers to the page on which one name is all that is left of three questions. -/
def renamedAnswers : Answers :=
  Dictionary.ofList [("Age", .single "7"), ("Size", .multiple ["S", "M"])]

/-- The answer to the name that is left is the only parameter, and it can be read back. -/
theorem parameters_lose_nothing_renamingForm :
    ofTree? renamingPage = some renamingForm ∧
      (renamingForm.parameters renamedAnswers).get? "2" = some (.multiple ["S", "M"]) ∧
      (renamingForm.parameters renamedAnswers).size = 1 ∧
      Parameters.ofAnswers (renamingForm.parameters renamedAnswers) renamingForm.names.inverse =
        Dictionary.ofList [("Size", .multiple ["S", "M"])] := by
  obtain ⟨-, -, laws⟩ :=
    parameters_lose_nothing.2 renamingPage renamingForm ofTree?_renamingPage
  obtain ⟨kept, -, size, back⟩ := laws renamedAnswers
  refine ⟨ofTree?_renamingPage, ?_, ?_, ?_⟩
  · rw [kept "Size" "2" (by decide +kernel)]
    decide +kernel
  · rw [size]
    decide +kernel
  · rw [back]
    decide +kernel

end Form

end Questionnaire
