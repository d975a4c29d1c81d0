/-
# Complete submissions

What a form expects of the pairs that are submitted to it is said field by field
here, in terms of the values that the pairs give the id of the field. Answers are
only submitted when no field finds a fault, and then the pairs are what the form
expects: nothing that a field insists on is missing, and nothing else is sent.
-/

import Questionnaire.Proofs.Form.Names

namespace Questionnaire

/-- The values that pairs give a key, in order. -/
def valuesOf (pairs : List (String × String)) (key : String) : List String :=
  (pairs.filter (fun pair => pair.1 == key)).map Prod.snd

/-- What a field expects the values under its id to be. Only boxes and the kinds without
rules can have several values. Buttons and texts with a pattern can do without a value,
if they are optional and the empty text would do as well. -/
def Field.Expects (field : Field) (values : List String) : Prop :=
  match field.kind with
  | .number => ∃ value, values = [value] ∧ isNumeric value = true
  | .email => ∃ value, values = [value] ∧ Email.isAddress value = true
  | .url => ∃ value, values = [value] ∧ Url.isHosted value = true
  | .select offered => ∃ value, values = [value] ∧ value ∈ offered ∧ value ≠ ""
  | .radio offered =>
    (∃ value, values = [value] ∧ value ∈ offered) ∨
      values = [] ∧ field.required = false ∧ "" ∈ offered
  | .checkbox offered => ∀ value ∈ values, value ∈ offered
  | .text (some pattern) =>
    (∃ value, values = [value] ∧ TextPattern.occurs pattern value = true) ∨
      values = [] ∧ field.required = false ∧ TextPattern.occurs pattern "" = true
  | .text none | .textarea | .other _ => True

/-- Pairs are a complete and valid submission to a form. -/
structure Form.IsCompletedBy (form : Form) (pairs : List (String × String)) : Prop where
  /-- Every key is the id of a field. -/
  keys_known : ∀ pair ∈ pairs, ∃ field ∈ form.fields, field.id = pair.1
  /-- The keys come in ascending order. -/
  keys_ascending : pairs.Pairwise (fun first second => first.1 ≤ second.1)
  /-- Required fields have values. -/
  required_present : ∀ field ∈ form.fields, field.required = true → valuesOf pairs field.id ≠ []
  /-- All fields have the values they expect. -/
  expected : ∀ field ∈ form.fields, field.Expects (valuesOf pairs field.id)

theorem valuesOf_append (first second : List (String × String)) (key : String) :
    valuesOf (first ++ second) key = valuesOf first key ++ valuesOf second key := by
  simp [valuesOf]

theorem valuesOf_map_mk (texts : List String) (present key : String) :
    valuesOf (texts.map fun text => (present, text)) key = if present = key then texts else [] := by
  by_cases same : present = key <;> simp [valuesOf, List.filter_map, Function.comp_def, same]

namespace Parameters

theorem pairs_ascending (parameters : Parameters) :
    parameters.pairs.Pairwise (fun first second => first.1 ≤ second.1) := by
  rw [pairs, List.pairwise_flatMap]
  constructor
  · intro entry _
    rw [List.pairwise_map]
    exact List.pairwise_of_forall fun _ _ => String.le_refl entry.1
  · apply parameters.ascending.imp
    intro first second before pair inFirst pair' inSecond
    obtain ⟨_, _, rfl⟩ := List.mem_map.mp inFirst
    obtain ⟨_, _, rfl⟩ := List.mem_map.mp inSecond
    exact String.lt_asymm before

/-- Keys without a parameter have no pair. -/
theorem exists_of_mem_pairs {parameters : Parameters} {pair : String × String}
    (member : pair ∈ parameters.pairs) : ∃ answer, parameters.get? pair.1 = some answer := by
  obtain ⟨entry, present, inEntry⟩ := List.mem_flatMap.mp member
  obtain ⟨_, _, rfl⟩ := List.mem_map.mp inEntry
  exact ⟨entry.2, (Dictionary.get?_eq_some_iff_mem parameters).mpr present⟩

/-- The pairs give an id the texts of its parameter. -/
theorem valuesOf_pairs (parameters : Parameters) (id : String) :
    valuesOf parameters.pairs id = ((parameters.get? id).map Answer.texts).getD [] := by
  obtain ⟨entries, ascending⟩ := parameters
  show valuesOf (entries.flatMap _) id = ((entries.lookup id).map Answer.texts).getD []
  induction entries with
  | nil => rfl
  | cons first rest ih =>
      obtain ⟨present, answer⟩ := first
      have parts := List.pairwise_cons.mp ascending
      rw [List.flatMap_cons, valuesOf_append, ih parts.2, valuesOf_map_mk,
        Dictionary.lookup_cons_eq_ite]
      by_cases here : id = present
      · -- No later entry has the key again.
        have absent : rest.lookup id = none := by
          apply Option.eq_none_iff_forall_ne_some.mpr
          intro again found
          have below := parts.1 _ ((Dictionary.lookup_eq_some_iff_mem parts.2).mp found)
          exact String.lt_irrefl present (here ▸ below)
        simp [here, here ▸ absent]
      · simp [here, Ne.symm here]

end Parameters

namespace Answer

variable {answer : Option Answer} {test : String → Bool}

/-- Where a test wants one text, there is one that passes it, or there is no answer and
the empty text passes it. -/
theorem texts_of_any_single? (passes : (answer.getD (.single "")).single?.any test = true) :
    (∃ value, (answer.map texts).getD [] = [value] ∧ test value = true) ∨
      answer = none ∧ test "" = true := by
  cases answer with
  | none => exact Or.inr ⟨rfl, passes⟩
  | some given =>
      obtain ⟨text, rfl, holds⟩ := any_single?_iff.mp passes
      exact Or.inl ⟨text, rfl, holds⟩

/-- Where a test wants one text and the empty text fails it, there is one that passes it. -/
theorem texts_of_any_single?_of_not_empty
    (passes : (answer.getD (.single "")).single?.any test = true) (fails : test "" = false) :
    ∃ value, (answer.map texts).getD [] = [value] ∧ test value = true := by
  rcases texts_of_any_single? passes with one | ⟨_, holds⟩
  · exact one
  · exact absurd (fails.symm.trans holds) Bool.false_ne_true

end Answer

namespace Field

variable {field : Field} {answer : Option Answer}

/-- A field that finds no fault has the values it expects. -/
theorem expects_of_faultIn_none (faultless : field.faultIn answer = none)
    (offers : ∀ values, field.kind = .select values → "" ∉ values) :
    field.Expects ((answer.map Answer.texts).getD []) := by
  have takes := (faultIn_eq_none_iff.mp faultless).2
  have optional : answer = none → field.required = false := by
    rintro rfl
    exact (faultIn_none_iff.mp faultless).1
  unfold Expects
  cases kind : field.kind with
  | number | email | url =>
      rw [kind] at takes
      exact Answer.texts_of_any_single?_of_not_empty takes rfl
  | select values =>
      rw [kind] at takes
      have absent : values.contains "" = false := by simpa using offers values kind
      obtain ⟨value, texts, among⟩ := Answer.texts_of_any_single?_of_not_empty takes absent
      rw [List.contains_iff_mem] at among
      exact ⟨value, texts, among, fun empty => offers values kind (empty ▸ among)⟩
  | radio values =>
      rw [kind] at takes
      rcases Answer.texts_of_any_single? takes with ⟨value, texts, among⟩ | ⟨rfl, among⟩
      · exact Or.inl ⟨value, texts, List.contains_iff_mem.mp among⟩
      · exact Or.inr ⟨rfl, optional rfl, List.contains_iff_mem.mp among⟩
  | checkbox values =>
      rw [kind] at takes
      obtain ⟨texts, given, among⟩ := FieldKind.accepts_checkbox_iff.mp takes
      cases answer with
      | none => cases given
      | some answer =>
          obtain rfl : answer = .multiple texts := given
          exact among
  | text pattern =>
      rw [kind] at takes
      cases pattern with
      | none => trivial
      | some pattern =>
          rcases Answer.texts_of_any_single? takes with one | ⟨rfl, occurs⟩
          · exact Or.inl one
          · exact Or.inr ⟨rfl, optional rfl, occurs⟩
  | textarea | other _ => trivial

/-- A required field that finds no fault has a value. -/
theorem texts_ne_nil_of_faultIn_none (faultless : field.faultIn answer = none)
    (required : field.required = true) : (answer.map Answer.texts).getD [] ≠ [] := by
  obtain ⟨given, rfl, notEmpty⟩ := (faultIn_eq_none_iff.mp faultless).1 required
  cases given with
  | single text => exact List.cons_ne_nil text []
  | multiple texts => simpa [Answer.isEmpty, Answer.texts] using notEmpty

end Field

/-- Valid answers to a form that was read make a complete and valid submission. -/
theorem Form.isCompletedBy_of_accepts {root : Html.Element} {form : Form} {answers : Answers}
    (read : ofTree? root = some form) (accepted : form.accepts answers = true) :
    form.IsCompletedBy (form.parameters answers).pairs := by
  have faultless := accepts_iff.mp accepted
  constructor
  case keys_known =>
    intro pair member
    obtain ⟨answer, given⟩ := Parameters.exists_of_mem_pairs member
    exact exists_field_of_parameter given
  case keys_ascending => exact Parameters.pairs_ascending _
  case required_present =>
    intro field member required
    rw [Parameters.valuesOf_pairs]
    exact Field.texts_ne_nil_of_faultIn_none (faultless field member) required
  case expected =>
    intro field member
    rw [Parameters.valuesOf_pairs]
    exact Field.expects_of_faultIn_none (faultless field member) fun values isSelect =>
      ne_empty_of_select read member isSelect

end Questionnaire
