/-
# Selectors that are read again

The text of a selector has no quotation marks of its own, so that reading it takes one pair of
marks off every value that has some. Nothing else about the selector changes, and nothing else
can go wrong than that a value consists of its marks: it is empty without them, and the first
such value is what the text is refused for. First is meant as in the text, where the tests of
a compound stand in ascending order of their names.
-/

import Mathlib.Data.List.Find
import Questionnaire.Proofs.Dictionary.Merging
import Questionnaire.Proofs.Selector.RoundTrip

namespace Questionnaire

/-! ## Marks that are lost -/

/-- A value is nothing but a pair of quotation marks. -/
def IsEmptyPair (value : String) : Prop :=
  value = "\"\"" ∨ value = "''"

instance (value : String) : Decidable (IsEmptyPair value) :=
  inferInstanceAs (Decidable (_ ∨ _))

/-- A compound becomes another one by losing one pair of quotation marks around each of its
values that has some. -/
structure Compound.LosesMarks (compound reread : Compound) : Prop where
  tag : reread.tag = compound.tag
  id : reread.id = compound.id
  classes : reread.classes = compound.classes
  attributes : ∀ name value, reread.attributes.get? name = some value ↔
    ∃ raw, compound.attributes.get? name = some raw ∧ Unquotes raw.toList value.toList

/-- A selector becomes another one of the same shape by losing such marks. -/
def Selector.LosesMarks (selector reread : Selector) : Prop :=
  List.Forall₂ (List.Forall₂ Compound.LosesMarks) selector.alternatives reread.alternatives

/-- The compound whose values have lost their marks. -/
def Compound.withoutMarks (compound : Compound) : Compound :=
  { compound with
    attributes := compound.attributes.mapValues fun raw => String.ofList (unquote raw.toList) }

/-- The selector whose values have lost their marks. -/
def Selector.withoutMarks (selector : Selector) : Selector :=
  ⟨selector.alternatives.map fun chain => chain.map Compound.withoutMarks⟩

/-- Marks are lost in one way only. -/
theorem Compound.losesMarks_iff {compound reread : Compound} :
    compound.LosesMarks reread ↔ compound.withoutMarks = reread := by
  have values : ∀ name value, compound.withoutMarks.attributes.get? name = some value ↔
      ∃ raw, compound.attributes.get? name = some raw ∧ Unquotes raw.toList value.toList := by
    intro name value
    simp only [withoutMarks, Dictionary.get?_mapValues, Option.map_eq_some_iff, unquotes_iff,
      String.ext_iff, String.toList_ofList]
  constructor
  · rintro ⟨tag, id, classes, attributes⟩
    refine Compound.ext tag.symm id.symm classes.symm ?_
    apply Dictionary.ext_get?
    intro name
    ext value
    rw [values, attributes]
  · rintro rfl
    exact ⟨rfl, rfl, rfl, values⟩

theorem Selector.losesMarks_iff {selector reread : Selector} :
    selector.LosesMarks reread ↔ selector.withoutMarks = reread := by
  have ofChain : ∀ chain reread : Chain,
      List.Forall₂ Compound.LosesMarks chain reread ↔ chain.map Compound.withoutMarks = reread := by
    intro chain reread
    apply forall₂_iff_map_eq
    exact fun _ _ => Compound.losesMarks_iff
  rw [LosesMarks, forall₂_iff_map_eq ofChain, Selector.ext_iff, withoutMarks]

/-- Of values that are not empty, the empty pairs are those of which nothing is left. -/
theorem isEmptyPair_iff {value : String} (notEmpty : value.toList ≠ []) :
    IsEmptyPair value ↔ unquote value.toList = [] := by
  rw [← unquotes_iff, Unquotes, IsEmptyPair, String.ext_iff, String.ext_iff]
  constructor
  · rintro (isPair | isPair)
    · exact Or.inl ⟨'"', Or.inl rfl, isPair⟩
    · exact Or.inl ⟨'\'', Or.inr rfl, isPair⟩
  · rintro (⟨mark, rfl | rfl, isPair⟩ | ⟨-, isEmpty⟩)
    · exact Or.inl isPair
    · exact Or.inr isPair
    · exact absurd isEmpty.symm notEmpty

/-! ## Tests in the order of the text -/

/-- A test for an attribute, and the compound that it belongs to. -/
structure AttributeTest where
  compound : Compound
  name : String
  value : String

/-- The tests of a compound in the order in which they are written. -/
def Compound.tests (compound : Compound) : List AttributeTest :=
  compound.attributes.entries.map fun test => ⟨compound, test.1, test.2⟩

/-- The tests of a selector in the order in which they are written. -/
def Selector.tests (selector : Selector) : List AttributeTest :=
  selector.alternatives.flatMap fun chain => chain.flatMap Compound.tests

/-- The first of some tests that would be empty without its marks. -/
def firstEmptyPair? (tests : List AttributeTest) : Option AttributeTest :=
  tests.find? fun test => decide (IsEmptyPair test.value)

theorem firstEmptyPair?_eq_none_iff {tests : List AttributeTest} :
    firstEmptyPair? tests = none ↔ ∀ test ∈ tests, ¬ IsEmptyPair test.value := by
  simp [firstEmptyPair?]

theorem firstEmptyPair?_eq_some_iff {tests : List AttributeTest} {test : AttributeTest} :
    firstEmptyPair? tests = some test ↔
      ∃ before after, tests = before ++ test :: after ∧
        (∀ earlier ∈ before, ¬ IsEmptyPair earlier.value) ∧ IsEmptyPair test.value := by
  simp only [firstEmptyPair?, List.find?_eq_some_iff_append, decide_eq_true_eq,
    Bool.not_eq_true', decide_eq_false_iff_not]
  tauto

theorem firstEmptyPair?_tests (selector : Selector) :
    firstEmptyPair? selector.tests = selector.alternatives.findSome? fun chain =>
      chain.findSome? fun compound => firstEmptyPair? compound.tests := by
  simp only [firstEmptyPair?, Selector.tests, List.find?_flatMap]

/-! ## Texts that are read again -/

/-- A test for a value that is only marks is refused. -/
def AttributeTest.fault (test : AttributeTest) : SelectorError :=
  .missingAttributeValue test.name test.compound.render

/-- The text of a writable compound is read as the compound without its marks, or refused for
the first value that is a pair of marks. -/
theorem Compound.IsWritable.ofWord_render {compound : Compound} (writable : compound.IsWritable) :
    ofWord compound.render.toList =
      (firstEmptyPair? compound.tests).elim (.ok compound.withoutMarks)
        fun test => .error test.fault := by
  obtain ⟨written, text, _, tag, id, classes, found⟩ := writable.exists_written
  have means : written.Means compound.withoutMarks := by
    refine ⟨tag.symm, id.symm, classes.symm, ?_⟩
    intro name value
    rw [found, ← Dictionary.lastWith_entries_iff]
    rfl
  have same : written.compound = compound.withoutMarks := written.means_compound.unique means
  have first : (written.components.filterMap WrittenComponent.test?).find?
      (fun test => test.2 == "") = (compound.attributes.entries.find?
        fun test => decide (IsEmptyPair test.2)).map
          fun test => (test.1, String.ofList (unquote test.2.toList)) := by
    rw [found, List.find?_map]
    congr 1
    apply List.find?_congr
    intro test member
    rw [Bool.eq_iff_iff]
    simp [isEmptyPair_iff (writable.values test member).1, String.ext_iff]
  have first' : firstEmptyPair? compound.tests = (compound.attributes.entries.find?
      fun test => decide (IsEmptyPair test.2)).map fun test => ⟨compound, test.1, test.2⟩ := by
    rw [firstEmptyPair?, tests, List.find?_map]
    rfl
  rw [← text, ofWord_text, first, first', same, text, String.ofList_toList]
  cases compound.attributes.entries.find? fun test => decide (IsEmptyPair test.2) <;> rfl

/-- The text of a writable selector is read as the selector without its marks, or refused
for the first of all values that is a pair of marks. -/
theorem Selector.IsWritable.parse_render {selector : Selector} (writable : selector.IsWritable) :
    parse selector.render =
      (firstEmptyPair? selector.tests).elim (.ok selector.withoutMarks)
        fun test => .error test.fault := by
  have has := hasChains_render writable
  obtain ⟨alternatives, parts⟩ := writable
  have ofChain : ∀ chain ∈ selector.alternatives,
      Chain.ofWords (chain.map fun compound => compound.render.toList) =
        (chain.findSome? fun compound => firstEmptyPair? compound.tests).elim
          (.ok (chain.map Compound.withoutMarks)) fun test => .error test.fault := by
    intro chain isAlternative
    rw [Chain.ofWords_eq_mapM, List.mapM_map]
    apply mapM_eq_elim
    intro compound isStep
    exact ((parts chain isAlternative).2 compound isStep).ofWord_render
  rw [parse_eq has, if_neg (by simpa [compoundTexts] using alternatives), compoundTexts,
    List.mapM_map, Function.comp_def, mapM_eq_elim ofChain, firstEmptyPair?_tests]
  cases selector.alternatives.findSome? _ <;> rfl

/-- A selector that was read is read again without the marks around its values, and with no
other change. What can go wrong is that there is nothing between the marks of some value, and
then the text is refused for the first such value. -/
theorem Selector.parse_render_loses_marks {source : String} {selector : Selector}
    (read : parse source = .ok selector) :
    ((∀ test ∈ selector.tests, ¬ IsEmptyPair test.value) →
      ∃ reread, parse selector.render = .ok reread) ∧
    (∀ reread, parse selector.render = .ok reread ↔
      (∀ test ∈ selector.tests, ¬ IsEmptyPair test.value) ∧ selector.LosesMarks reread) ∧
    ∀ error, parse selector.render = .error error ↔
      ∃ before test after, selector.tests = before ++ test :: after ∧
        (∀ earlier ∈ before, ¬ IsEmptyPair earlier.value) ∧ IsEmptyPair test.value ∧
        error = .missingAttributeValue test.name test.compound.render := by
  have outcome := (isWritable_of_parse read).parse_render
  refine ⟨?_, ?_, ?_⟩
  · intro none
    rw [outcome, firstEmptyPair?_eq_none_iff.mpr none]
    exact ⟨_, rfl⟩
  · intro reread
    rw [outcome, losesMarks_iff, ← firstEmptyPair?_eq_none_iff]
    cases firstEmptyPair? selector.tests <;> simp
  · intro error
    rw [outcome]
    constructor
    · intro refused
      cases isFirst : firstEmptyPair? selector.tests with
      | none =>
          rw [isFirst] at refused
          cases refused
      | some test =>
          rw [isFirst] at refused
          cases refused
          obtain ⟨before, after, parts, none, isPair⟩ := firstEmptyPair?_eq_some_iff.mp isFirst
          exact ⟨before, test, after, parts, none, isPair, rfl⟩
    · rintro ⟨before, test, after, parts, none, isPair, rfl⟩
      rw [firstEmptyPair?_eq_some_iff.mpr ⟨before, after, parts, none, isPair⟩]
      rfl

/-- Marks inside of marks stay when a text is read and are lost when it is read again, and
of two values that are marks alone, the one with the smaller name is refused. -/
theorem Selector.parse_render_loses_marks_nested :
    (∃ selector, parse "a[t='\"x\"'][u=1], #b" = .ok selector ∧
      parse selector.render = .ok
        ⟨[[⟨some "a", none, [], Dictionary.ofList [("t", "x"), ("u", "1")]⟩],
          [⟨none, some "b", [], ∅⟩]]⟩) ∧
    ∃ selector, parse "p a[u='\"\"'][t=\"''\"]" = .ok selector ∧
      parse selector.render = .error (.missingAttributeValue "t" "a[t=''][u=\"\"]") := by
  constructor
  · have read : parse "a[t='\"x\"'][u=1], #b" = .ok
        ⟨[[⟨some "a", none, [], Dictionary.ofList [("t", "\"x\""), ("u", "1")]⟩],
          [⟨none, some "b", [], ∅⟩]]⟩ := by decide +kernel
    exact ⟨_, read, ((parse_render_loses_marks read).2.1 _).mpr
      ⟨by decide +kernel, losesMarks_iff.mpr (by decide +kernel)⟩⟩
  · have read : parse "p a[u='\"\"'][t=\"''\"]" = .ok
        ⟨[[⟨some "p", none, [], ∅⟩,
          ⟨some "a", none, [], Dictionary.ofList [("t", "''"), ("u", "\"\"")]⟩]]⟩ := by
      decide +kernel
    exact ⟨_, read, ((parse_render_loses_marks read).2.2 _).mpr
      ⟨[], _, _, rfl, by simp, Or.inr rfl, by decide +kernel⟩⟩

end Questionnaire
