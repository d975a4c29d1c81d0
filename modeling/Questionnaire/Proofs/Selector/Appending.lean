/-
# Components that are appended to a text

A compound text can be made longer by a component, since every component starts with a
character that ends whatever stands before it. What the longer text finds is told from what
the shorter one finds: a component narrows the query, unless it is overridden by a
component before it, as a second id is, or overrides one itself, as a second test for an
attribute does. An overridden test is as good as not written.
-/

import Questionnaire.Proofs.Selector.Narrowing
import Questionnaire.Proofs.Selector.Word

namespace Questionnaire

open Html

/-! ## One component more -/

namespace WrittenCompound

/-- A compound is written with an id. -/
def HasId (written : WrittenCompound) : Prop :=
  ∃ component ∈ written.components, ∃ id, component.id? = some id

/-- A compound is written with a test for an attribute. -/
def HasTest (written : WrittenCompound) (name : String) : Prop :=
  ∃ component ∈ written.components, ∃ value, component.test? = some (name, value)

/-- A component is not a test for an attribute. -/
def keeps (name : String) (component : WrittenComponent) : Bool :=
  component.test?.all fun test => test.1 != name

/-- A compound without its tests for an attribute. -/
def withoutTests (written : WrittenCompound) (name : String) : WrittenCompound :=
  ⟨written.tag, written.components.filter (keeps name)⟩

/-- A compound with one more component at its end. -/
def append (written : WrittenCompound) (component : WrittenComponent) : WrittenCompound :=
  ⟨written.tag, written.components ++ [component]⟩

variable {written : WrittenCompound} {component : WrittenComponent} {name : String}

theorem text_append : (written.append component).text = written.text ++ component.text := by
  simp [append, text, List.flatMap_append]

theorem compound_append :
    (written.append component).compound = written.compound.add component.component := by
  simp [append, compound]

theorem HasValues.append (values : written.HasValues) (hasValue : component.HasValue) :
    (written.append component).HasValues :=
  List.forall_mem_append.mpr ⟨values, List.forall_mem_singleton.mpr hasValue⟩

theorem HasValues.withoutTests (values : written.HasValues) (name : String) :
    (written.withoutTests name).HasValues :=
  fun component member => values component (List.mem_filter.mp member).1

/-- A component without white space and commas makes one word of what holds none either. -/
theorem isWord_append (inside : ∀ c ∈ written.text, IsWordCharacter c)
    (plain : ∀ c ∈ component.text, IsWordCharacter c) : IsWord (written.append component).text := by
  rw [text_append]
  exact ⟨List.append_ne_nil_of_right_ne_nil _ (List.cons_ne_nil _ _),
    List.forall_mem_append.mpr ⟨inside, plain⟩⟩

/-- What a text finds that is followed by one more component. -/
theorem queryAll_append {source : String} (inside : ∀ c ∈ written.text, IsWordCharacter c)
    (values : written.HasValues) (plain : ∀ c ∈ component.text, IsWordCharacter c)
    (hasValue : component.HasValue) (text : source.toList = written.text ++ component.text)
    (roots : List Place) :
    queryAll source roots = (written.append component).compound.select roots := by
  have joined := text.trans text_append.symm
  exact queryAll_word (joined ▸ isWord_append inside plain) joined.symm (values.append hasValue)
    roots

theorem id_eq_none_iff : written.compound.id = none ↔ ¬ written.HasId := by
  rw [written.means_compound.id, List.head?_eq_none_iff, List.filterMap_eq_nil_iff]
  simp only [HasId, not_exists, not_and, Option.eq_none_iff_forall_ne_some]

theorem get?_eq_none_iff : written.compound.attributes.get? name = none ↔ ¬ written.HasTest name := by
  have found : ∀ value, written.compound.attributes.get? name = some value → written.HasTest name := by
    intro value found
    have last := (written.means_compound.attributes name value).mp found
    obtain ⟨component, member, isTest⟩ := List.mem_filterMap.mp last.mem
    exact ⟨component, member, value, isTest⟩
  constructor
  · rintro missing ⟨component, member, value, isTest⟩
    obtain ⟨⟨other, wanted⟩, last, same⟩ :=
      LastWith.exists_of_mem Prod.fst (List.mem_filterMap.mpr ⟨component, member, isTest⟩)
    obtain rfl : other = name := same
    rw [(written.means_compound.attributes other wanted).mpr last] at missing
    cases missing
  · intro untested
    rw [Option.eq_none_iff_forall_ne_some]
    exact fun value isFound => untested (found value isFound)

/-! ## Tests that are overridden -/

theorem keeps_of_test?_eq_none (isNone : component.test? = none) : keeps name component = true := by
  rw [keeps, isNone]
  rfl

/-- The tests that are left are those for other attributes. -/
theorem filterMap_test?_withoutTests :
    (written.withoutTests name).components.filterMap WrittenComponent.test? =
      (written.components.filterMap WrittenComponent.test?).filter fun test => test.1 != name := by
  rw [withoutTests, List.filterMap_filter, List.filter_filterMap]
  apply List.filterMap_congr
  intro component _
  rw [keeps]
  cases component.test? with
  | none => rfl
  | some test => rfl

/-- What is no test is left as it is. -/
theorem filterMap_withoutTests {α : Type} {part? : WrittenComponent → Option α}
    (noTest : ∀ component, component.test? ≠ none → part? component = none) :
    (written.withoutTests name).components.filterMap part? = written.components.filterMap part? := by
  rw [withoutTests, List.filterMap_filter]
  apply List.filterMap_congr
  intro component _
  by_cases isTest : component.test? = none
  · rw [if_pos (keeps_of_test?_eq_none isTest)]
  · rw [noTest component isTest, ite_self]

/-- The tests for other attributes are read as before. -/
theorem get?_withoutTests {other : String} (different : other ≠ name) :
    (written.withoutTests name).compound.attributes.get? other =
      written.compound.attributes.get? other := by
  ext value
  rw [(written.withoutTests name).means_compound.attributes, written.means_compound.attributes,
    filterMap_test?_withoutTests]
  apply LastWith.filter_iff
  intro test same
  rw [same, bne_iff_ne]
  exact different

/-- Before a test for an attribute, earlier tests for it make no difference. -/
theorem compound_withoutTests_append {value : String}
    (isTest : component.component = .hasAttribute name value) :
    ((written.withoutTests name).append component).compound =
      (written.append component).compound := by
  have means := written.means_compound
  have means' := (written.withoutTests name).means_compound
  rw [compound_append, compound_append, isTest]
  apply Compound.ext
  · exact means'.tag.trans means.tag.symm
  · have ids : ∀ component : WrittenComponent, component.test? ≠ none → component.id? = none := by
      rintro (_ | _ | _) isTest
      · exact absurd rfl isTest
      · rfl
      · rfl
    exact (means'.id.trans (congrArg List.head? (filterMap_withoutTests ids))).trans means.id.symm
  · have classes : ∀ component : WrittenComponent, component.test? ≠ none →
        component.class? = none := by
      rintro (_ | _ | _) isTest
      · rfl
      · exact absurd rfl isTest
      · rfl
    exact (means'.classes.trans (filterMap_withoutTests classes)).trans means.classes.symm
  · apply Dictionary.ext_get?
    intro other
    rw [Compound.add, Compound.add, Dictionary.get?_insert, Dictionary.get?_insert]
    split
    · rfl
    · next different => exact get?_withoutTests different

theorem mem_text_withoutTests {c : Char} (member : c ∈ (written.withoutTests name).text) :
    c ∈ written.text := by
  rw [text, withoutTests, List.mem_append, List.mem_flatMap] at member
  rw [text, List.mem_append, List.mem_flatMap]
  refine member.imp_right ?_
  rintro ⟨component, isKept, inComponent⟩
  exact ⟨component, (List.mem_filter.mp isKept).1, inComponent⟩

end WrittenCompound

/-! ## The law of appending -/

section Laws

variable {written : WrittenCompound} {source name raw value : String} {component : WrittenComponent}

/-- A class behind a word narrows what the word finds. -/
theorem queryAll_append_class (isWord : IsWord source.toList) (text : written.text = source.toList)
    (values : written.HasValues) (isName : IsIdentifier name.toList) (roots : List Place) :
    queryAll (source ++ "." ++ name) roots = (queryAll source roots).filter fun place =>
      decide (name.toList <:+: (place.element.attributeOrEmpty "class").toList) := by
  have appended : (source ++ "." ++ name).toList =
      written.text ++ (WrittenComponent.hasClass name.toList isName).text := by
    simp [text, WrittenComponent.text, WrittenComponent.marker, WrittenComponent.body]
  have plain : ∀ c ∈ (WrittenComponent.hasClass name.toList isName).text, IsWordCharacter c :=
    List.forall_mem_cons.mpr ⟨(by decide : IsWordCharacter '.'), isName.isWordCharacter⟩
  rw [WrittenCompound.queryAll_append (text ▸ isWord.2) values plain trivial appended,
    WrittenCompound.compound_append, WrittenComponent.component, String.ofList_toList,
    Compound.select_add_hasClass, queryAll_word isWord text values]

/-- An id behind a word without ids narrows what the word finds, and behind a word with an
id it changes nothing. -/
theorem queryAll_append_id (isWord : IsWord source.toList) (text : written.text = source.toList)
    (values : written.HasValues) (isName : IsIdentifier name.toList) (roots : List Place) :
    (¬ written.HasId →
      queryAll (source ++ "#" ++ name) roots = (queryAll source roots).filter fun place =>
        decide (place.element.attribute? "id" = some name)) ∧
    (written.HasId → queryAll (source ++ "#" ++ name) roots = queryAll source roots) := by
  have appended : (source ++ "#" ++ name).toList =
      written.text ++ (WrittenComponent.id name.toList isName).text := by
    simp [text, WrittenComponent.text, WrittenComponent.marker, WrittenComponent.body]
  have plain : ∀ c ∈ (WrittenComponent.id name.toList isName).text, IsWordCharacter c :=
    List.forall_mem_cons.mpr ⟨(by decide : IsWordCharacter '#'), isName.isWordCharacter⟩
  rw [WrittenCompound.queryAll_append (text ▸ isWord.2) values plain trivial appended,
    WrittenCompound.compound_append, WrittenComponent.component, String.ofList_toList,
    queryAll_word isWord text values, ← WrittenCompound.id_eq_none_iff]
  constructor
  · intro first
    exact Compound.select_add_id first name roots
  · intro hasId
    obtain ⟨id, earlier⟩ :=
      Option.ne_none_iff_exists'.mp (mt WrittenCompound.id_eq_none_iff.mp (not_not.mpr hasId))
    rw [Compound.add_id_of_some earlier]

/-- A test behind a word without tests for the attribute narrows what the word finds. -/
theorem queryAll_append_test (isWord : IsWord source.toList) (text : written.text = source.toList)
    (values : written.HasValues) (test : component.IsTest name raw value)
    (first : ¬ written.HasTest name) (roots : List Place) :
    queryAll (source ++ testText name raw) roots = (queryAll source roots).filter fun place =>
      decide (place.element.attribute? name = some value) := by
  have appended : (source ++ testText name raw).toList = written.text ++ component.text := by
    rw [String.toList_append, text, test.text]
  rw [WrittenCompound.queryAll_append (text ▸ isWord.2) values test.plain test.hasValue appended,
    WrittenCompound.compound_append, test.means, queryAll_word isWord text values]
  exact Compound.select_add_hasAttribute (WrittenCompound.get?_eq_none_iff.mpr first)
    test.notEmpty roots

/-- Tests for the attribute that the word has make no difference before another one. -/
theorem queryAll_withoutTests_append (isWord : IsWord source.toList)
    (text : written.text = source.toList) (values : written.HasValues)
    (test : component.IsTest name raw value) (roots : List Place) :
    queryAll (source ++ testText name raw) roots =
      queryAll (String.ofList (written.withoutTests name).text ++ testText name raw) roots := by
  have inside : ∀ c ∈ written.text, IsWordCharacter c := text ▸ isWord.2
  have appended : (source ++ testText name raw).toList = written.text ++ component.text := by
    rw [String.toList_append, text, test.text]
  have shortened : (String.ofList (written.withoutTests name).text ++ testText name raw).toList =
      (written.withoutTests name).text ++ component.text := by
    rw [String.toList_append, String.toList_ofList, test.text]
  rw [WrittenCompound.queryAll_append inside values test.plain test.hasValue appended,
    WrittenCompound.queryAll_append
      (fun c member => inside c (WrittenCompound.mem_text_withoutTests member))
      (values.withoutTests name) test.plain test.hasValue shortened,
    WrittenCompound.compound_withoutTests_append test.means]

end Laws

/-- Whatever is read, an element passes a test for an attribute only if it has the
attribute. -/
theorem Selector.attribute?_of_accepts {source : String} {selector : Selector}
    (read : parse source = .ok selector) {chain : Chain}
    (isAlternative : chain ∈ selector.alternatives) {compound : Compound}
    (isStep : compound ∈ chain) {element : Element} (accepts : compound.accepts element = true)
    {name value : String} (isTest : compound.attributes.get? name = some value) :
    element.attribute? name = some value := by
  have writable := ((isWritable_of_parse read).2 chain isAlternative).2 compound isStep
  have member := (Dictionary.get?_eq_some_iff_mem _).mp isTest
  have hasValue : value ≠ "" := by
    rintro rfl
    exact (writable.values _ member).1 rfl
  exact (Compound.attributeOrEmpty_eq_iff hasValue).mp
    ((Compound.accepts_iff.mp accepts).2.2.2 name value isTest)

/-- A component at the end of a selector text of one word narrows what the text finds, or
it is overridden or overrides. A class narrows. An id narrows unless the text has one, and
then it says nothing. A test for an attribute narrows unless the text has tests for the same
attribute, and such tests are as good as not written. And since no test that is read is for
the empty value, an attribute that is missing passes none. -/
theorem appending_narrows_or_overrides {source : String} (isWord : IsWord source.toList)
    {selector : Selector} (read : Selector.parse source = .ok selector) :
    (∃ written : WrittenCompound, written.text = source.toList ∧ ∀ roots : List Place,
      (∀ name, IsIdentifier name.toList →
        queryAll (source ++ "." ++ name) roots = (queryAll source roots).filter fun place =>
          decide (name.toList <:+: (place.element.attributeOrEmpty "class").toList)) ∧
      (∀ name, IsIdentifier name.toList →
        (¬ written.HasId →
          queryAll (source ++ "#" ++ name) roots = (queryAll source roots).filter fun place =>
            decide (place.element.attribute? "id" = some name)) ∧
        (written.HasId → queryAll (source ++ "#" ++ name) roots = queryAll source roots)) ∧
      ∀ name raw test, IsIdentifier name.toList → ']' ∉ raw.toList →
        Selector.parse (testText name raw) = .ok test →
        ∃ value, test = ⟨[[⟨none, none, [], Dictionary.ofList [(name, value)]⟩]]⟩ ∧
          (¬ written.HasTest name → queryAll (source ++ testText name raw) roots =
            (queryAll source roots).filter fun place =>
              decide (place.element.attribute? name = some value)) ∧
          queryAll (source ++ testText name raw) roots =
            queryAll (String.ofList (written.withoutTests name).text ++ testText name raw)
              roots) ∧
    ∀ other parsed, Selector.parse other = .ok parsed →
      ∀ chain ∈ parsed.alternatives, ∀ compound ∈ chain, ∀ element,
        compound.accepts element = true → ∀ name value,
          compound.attributes.get? name = some value → element.attribute? name = some value := by
  refine ⟨?_, ?_⟩
  · obtain ⟨written, text, values, -⟩ := Selector.exists_written_of_word isWord read
    refine ⟨written, text, fun roots => ⟨?_, ?_, ?_⟩⟩
    · intro name isName
      exact queryAll_append_class isWord text values isName roots
    · intro name isName
      exact queryAll_append_id isWord text values isName roots
    · intro name raw test isName staysOpen readTest
      obtain ⟨component, value, isTest, rfl⟩ := exists_isTest_of_testText isName staysOpen readTest
      refine ⟨value, rfl, ?_, ?_⟩
      · intro first
        exact queryAll_append_test isWord text values isTest first roots
      · exact queryAll_withoutTests_append isWord text values isTest roots
  · intro other parsed readOther chain isAlternative compound isStep element accepts name value
      isTest
    exact Selector.attribute?_of_accepts readOther isAlternative isStep accepts isTest

/-- The compound `p#a[n=1]`. -/
def markedParagraph : WrittenCompound where
  tag := .named ['p'] ⟨'p', [], rfl, by decide, by simp⟩
  components := [.id ['a'] (by decide +kernel),
    .hasAttribute ['n'] ['1'] ['1'] (by decide +kernel) (by simp) (unquotes_iff.mpr rfl)]

/-- A page with two paragraphs. -/
def paragraphsPage : Element :=
  ⟨"body", [], [
    .element "p" [("id", "a"), ("class", "closed"), ("n", "1")] [],
    .element "p" [("id", "a"), ("n", "2")] []]⟩

/-- A class narrows, a second id says nothing, and a second test overrides the first one, so
that it finds the other paragraph. -/
theorem appending_narrows_or_overrides_markedParagraph :
    queryAll "p#a[n=1].c" [paragraphsPage.asRoot] =
      (queryAll "p#a[n=1]" [paragraphsPage.asRoot]).filter (fun place =>
        decide ("c".toList <:+: (place.element.attributeOrEmpty "class").toList)) ∧
    queryAll "p#a[n=1]#b" [paragraphsPage.asRoot] =
      queryAll "p#a[n=1]" [paragraphsPage.asRoot] ∧
    queryAll "p#a[n=1][n='2']" [paragraphsPage.asRoot] =
      queryAll "p#a[n='2']" [paragraphsPage.asRoot] ∧
    (queryAll "p#a[n='2']" [paragraphsPage.asRoot]).map Place.path = [[1]] := by
  have isWord : IsWord "p#a[n=1]".toList := by decide +kernel
  have read : Selector.parse "p#a[n=1]" =
      .ok ⟨[[⟨some "p", some "a", [], Dictionary.ofList [("n", "1")]⟩]]⟩ := by decide +kernel
  have readTest : Selector.parse (testText "n" "'2'") =
      .ok ⟨[[⟨none, none, [], Dictionary.ofList [("n", "2")]⟩]]⟩ := by decide +kernel
  obtain ⟨⟨written, text, laws⟩, -⟩ := appending_narrows_or_overrides isWord read
  obtain rfl : written = markedParagraph := WrittenCompound.text_injective (text.trans rfl)
  obtain ⟨narrows, saysNothing, overrides⟩ := laws [paragraphsPage.asRoot]
  refine ⟨narrows "c" (by decide +kernel), ?_, ?_, by decide +kernel⟩
  · exact (saysNothing "b" (by decide +kernel)).2 ⟨_, List.mem_cons_self, "a", rfl⟩
  · obtain ⟨_, _, _, overridden⟩ :=
      overrides "n" "'2'" _ (by decide +kernel) (by decide) readTest
    exact overridden

end Questionnaire
