/-
# Selectors that read back

Which selectors are read back from their text as they are? Exactly the canonical
ones: their tags are in lower case, their names could be written, and their values
hold nothing that ends a value or a word and no quotation marks around them. A
selector that is read has all of this but the last, since a value may have been
written with two pairs of marks. So what is left to be told apart are values that
lose their marks when they are read again.
-/

import Questionnaire.Proofs.Selector.Characters
import Questionnaire.Proofs.Selector.Reading
import Questionnaire.Selector.Printer

namespace Questionnaire

/-- The parts of a compound could be written and read: its tag is in lower case, its
names are identifiers, and its values are not empty and end neither a test nor a
word. -/
structure Compound.IsWritable (compound : Compound) : Prop where
  tag : ∀ tag ∈ compound.tag, IsLowerTagName tag.toList
  id : ∀ id ∈ compound.id, IsIdentifier id.toList
  classes : ∀ name ∈ compound.classes, IsIdentifier name.toList
  names : ∀ test ∈ compound.attributes.entries, IsIdentifier test.1.toList
  values : ∀ test ∈ compound.attributes.entries, test.2.toList ≠ [] ∧
    ∀ c ∈ test.2.toList, c ≠ ']' ∧ c ≠ ',' ∧ Text.isWhiteSpace c = false

/-- A compound is writable, and none of its values stands between quotation marks. -/
structure Compound.IsCanonical (compound : Compound) : Prop extends compound.IsWritable where
  unquoted : ∀ test ∈ compound.attributes.entries, ¬ IsQuoted test.2.toList

/-- A selector has alternatives, each of them has steps, and all steps are canonical. -/
def Selector.IsCanonical (selector : Selector) : Prop :=
  selector.alternatives ≠ [] ∧ ∀ chain ∈ selector.alternatives, chain ≠ [] ∧
    ∀ compound ∈ chain, compound.IsCanonical

/-- A selector has alternatives, each of them has steps, and all steps are writable. -/
def Selector.IsWritable (selector : Selector) : Prop :=
  selector.alternatives ≠ [] ∧ ∀ chain ∈ selector.alternatives, chain ≠ [] ∧
    ∀ compound ∈ chain, compound.IsWritable

/-! ## Writing words and chains -/

/-- Words with spaces between them are read as these words. -/
theorem hasWords_intercalate {words : List (List Char)} (areWords : ∀ word ∈ words, IsWord word) :
    Text.HasWords (List.intercalate [' '] words) words := by
  rw [Text.hasWords_iff]
  by_cases nothing : words = []
  · subst nothing
    rfl
  · have whole : ∀ word ∈ words, ∀ c ∈ word, Text.isWhiteSpace c = false :=
      fun word member c inWord => ((areWords word member).2 c inWord).1
    rw [Text.words, Text.splitAtEvery_intercalate (by decide) nothing whole]
    apply List.filter_eq_self.mpr
    intro word member
    simpa using (areWords word member).1

/-- If all pieces of a text have words, no piece is dropped. -/
theorem hasChains_of_pieces {cs : List Char} {pieces : List (List Char)}
    {chains : List (List (List Char))} (split : Text.IsSplitAt ',' cs pieces)
    (found : List.Forall₂ Text.HasWords pieces chains) (steps : ∀ words ∈ chains, words ≠ []) :
    HasChains cs chains := by
  have kept : pieces.filter (fun piece => !Text.isBlank piece) = pieces := by
    apply List.filter_eq_self.mpr
    intro piece member
    have flipped : List.Forall₂ (flip Text.HasWords) chains pieces := .flip found
    obtain ⟨words, isChain, has⟩ := exists_mem_of_forall₂ flipped member
    rw [Bool.not_eq_true', Bool.eq_false_iff]
    exact fun blank => steps words isChain (has.eq_nil_iff.mpr blank)
  exact ⟨pieces, split, kept.symm ▸ found⟩

/-- Chains of words with commas and spaces between them are read as these chains. -/
theorem hasChains_intercalate {chains : List (List (List Char))} (alternatives : chains ≠ [])
    (steps : ∀ words ∈ chains, words ≠ [])
    (areWords : ∀ words ∈ chains, ∀ word ∈ words, IsWord word) :
    HasChains (List.intercalate [',', ' '] (chains.map (List.intercalate [' ']))) chains := by
  obtain ⟨first, others, rfl⟩ := List.exists_cons_of_ne_nil alternatives
  obtain ⟨firstWords, otherWords⟩ := List.forall_mem_cons.mp areWords
  have commaless : ∀ {words : List (List Char)}, (∀ word ∈ words, IsWord word) →
      ∀ c ∈ List.intercalate [' '] words, c ≠ ',' := by
    intro words areWords c inside
    rcases Text.mem_intercalate inside with rfl | ⟨word, inChain, inWord⟩
    · decide
    · exact ((areWords word inChain).2 c inWord).2
  -- All pieces but the first one start with a space.
  rw [List.map_cons, Text.intercalate_pair, List.map_map]
  refine hasChains_of_pieces ⟨List.cons_ne_nil _ _, ?_, rfl⟩ (.cons ?_ ?_) steps
  · refine List.forall_mem_cons.mpr ⟨commaless firstWords, List.forall_mem_map.mpr ?_⟩
    intro words member
    exact List.forall_mem_cons.mpr ⟨by decide, commaless (otherWords words member)⟩
  · exact hasWords_intercalate firstWords
  · refine List.forall₂_map_left_iff.mpr (List.forall₂_same.mpr ?_)
    intro words member
    exact (hasWords_intercalate (otherWords words member)).cons (by decide)

/-- What a text is cut into are words, and no chain of them is empty. -/
theorem HasChains.of_mem {cs : List Char} {chains : List (List (List Char))}
    (has : HasChains cs chains) {words : List (List Char)} (member : words ∈ chains) :
    words ≠ [] ∧ ∀ word ∈ words, IsWord word := by
  obtain ⟨pieces, split, found⟩ := has
  obtain ⟨piece, kept, has⟩ := exists_mem_of_forall₂ found member
  obtain ⟨isPiece, notBlank⟩ := List.mem_filter.mp kept
  refine ⟨?_, ?_⟩
  · intro nothing
    rw [has.eq_nil_iff.mp nothing] at notBlank
    exact Bool.noConfusion notBlank
  · intro word isWord
    obtain ⟨nonempty, inside⟩ := has.of_mem isWord
    refine ⟨nonempty, fun c inWord => ?_⟩
    obtain ⟨black, inPiece⟩ := inside c inWord
    exact ⟨black, split.whole piece isPiece c inPiece⟩

/-! ## Writing compounds -/

section Compounds

variable {compound : Compound}

/-- The characters of the text of a compound. -/
theorem Compound.toList_render (compound : Compound) :
    compound.render.toList =
      (compound.tag.getD "*").toList ++
      (compound.id.elim [] fun id => '#' :: id.toList) ++
      compound.classes.flatMap (fun name => '.' :: name.toList) ++
      compound.attributes.entries.flatMap
        (fun test => '[' :: (test.1.toList ++ '=' :: (test.2.toList ++ [']']))) := by
  unfold render
  cases compound.id <;>
    simp [String.toList_append, String.toList_join, List.flatMap_map]

/-- The tag of a writable compound as it is written. -/
theorem Compound.IsWritable.exists_tag (writable : compound.IsWritable) :
    ∃ tag : WrittenTag, tag.text = (compound.tag.getD "*").toList ∧ tag.text ≠ [] ∧
      tag.name? = compound.tag := by
  cases isTag : compound.tag with
  | none => exact ⟨.any, rfl, List.cons_ne_nil _ _, rfl⟩
  | some tag =>
      have isLower := writable.tag tag isTag
      refine ⟨.named tag.toList isLower.isTagName, rfl, isLower.isTagName.ne_nil, ?_⟩
      rw [WrittenTag.name?, isLower.map_lowerLetter, String.ofList_toList]

theorem exists_components_of_id {id : Option String}
    (isName : ∀ name ∈ id, IsIdentifier name.toList) :
    ∃ components : List WrittenComponent,
      components.flatMap WrittenComponent.text = (id.elim [] fun name => '#' :: name.toList) ∧
      (∀ component ∈ components, component.HasValue) ∧
      (components.filterMap WrittenComponent.id?).head? = id ∧
      components.filterMap WrittenComponent.class? = [] ∧
      components.filterMap WrittenComponent.test? = [] := by
  cases id with
  | none => exact ⟨[], rfl, by simp, rfl, rfl, rfl⟩
  | some name =>
      refine ⟨[.id name.toList (isName name rfl)], ?_, ?_, ?_, rfl, rfl⟩
      · simp [WrittenComponent.text, WrittenComponent.marker, WrittenComponent.body]
      · simp [WrittenComponent.HasValue]
      · simp [WrittenComponent.id?]

theorem exists_components_of_classes {names : List String}
    (areNames : ∀ name ∈ names, IsIdentifier name.toList) :
    ∃ components : List WrittenComponent,
      components.flatMap WrittenComponent.text = names.flatMap (fun name => '.' :: name.toList) ∧
      (∀ component ∈ components, component.HasValue) ∧
      components.filterMap WrittenComponent.id? = [] ∧
      components.filterMap WrittenComponent.class? = names ∧
      components.filterMap WrittenComponent.test? = [] := by
  induction names with
  | nil => exact ⟨[], rfl, by simp, rfl, rfl, rfl⟩
  | cons name others ih =>
      obtain ⟨isName, areNames⟩ := List.forall_mem_cons.mp areNames
      obtain ⟨components, text, values, ids, classes, tests⟩ := ih areNames
      refine ⟨.hasClass name.toList isName :: components, ?_, ?_, ids, ?_, tests⟩
      · rw [List.flatMap_cons, List.flatMap_cons, text]
        rfl
      · exact List.forall_mem_cons.mpr ⟨trivial, values⟩
      · rw [List.filterMap_cons_some (b := name) (by simp [WrittenComponent.class?]), classes]

/-- The tests of a compound as they are written and as they are read again. -/
theorem exists_components_of_tests {tests : List (String × String)}
    (areNames : ∀ test ∈ tests, IsIdentifier test.1.toList)
    (stayOpen : ∀ test ∈ tests, ∀ c ∈ test.2.toList, c ≠ ']') :
    ∃ components : List WrittenComponent,
      components.flatMap WrittenComponent.text =
        tests.flatMap (fun test => '[' :: (test.1.toList ++ '=' :: (test.2.toList ++ [']']))) ∧
      ((∀ test ∈ tests, unquote test.2.toList ≠ []) →
        ∀ component ∈ components, component.HasValue) ∧
      components.filterMap WrittenComponent.id? = [] ∧
      components.filterMap WrittenComponent.class? = [] ∧
      components.filterMap WrittenComponent.test? =
        tests.map (fun test => (test.1, String.ofList (unquote test.2.toList))) := by
  induction tests with
  | nil => exact ⟨[], rfl, by simp, rfl, rfl, rfl⟩
  | cons test others ih =>
      obtain ⟨isName, areNames⟩ := List.forall_mem_cons.mp areNames
      obtain ⟨staysOpen, stayOpen⟩ := List.forall_mem_cons.mp stayOpen
      obtain ⟨components, text, values, ids, classes, found⟩ := ih areNames stayOpen
      refine ⟨.hasAttribute test.1.toList test.2.toList _ isName staysOpen
        (unquotes_iff.mpr rfl) :: components, ?_, ?_, ids, classes, ?_⟩
      · rw [List.flatMap_cons, List.flatMap_cons, text]
        rfl
      · intro valued
        obtain ⟨hasValue, valued⟩ := List.forall_mem_cons.mp valued
        exact List.forall_mem_cons.mpr ⟨hasValue, values valued⟩
      · rw [List.map_cons, ← found, List.filterMap_cons_some]
        simp [WrittenComponent.test?]

/-- The text of a writable compound is derived, and what it is derived from are the
parts of the compound, with values as they are read again. -/
theorem Compound.IsWritable.exists_written (writable : compound.IsWritable) :
    ∃ written : WrittenCompound, written.text = compound.render.toList ∧
      ((∀ test ∈ compound.attributes.entries, unquote test.2.toList ≠ []) → written.HasValues) ∧
      written.tag.name? = compound.tag ∧
      (written.components.filterMap WrittenComponent.id?).head? = compound.id ∧
      written.components.filterMap WrittenComponent.class? = compound.classes ∧
      written.components.filterMap WrittenComponent.test? = compound.attributes.entries.map
        (fun test => (test.1, String.ofList (unquote test.2.toList))) := by
  obtain ⟨tag, tagText, _, tagMeans⟩ := writable.exists_tag
  obtain ⟨ids, idText, idValues, idMeans, idClasses, idTests⟩ :=
    exists_components_of_id writable.id
  obtain ⟨classes, classText, classValues, classIds, classMeans, classTests⟩ :=
    exists_components_of_classes writable.classes
  obtain ⟨tests, testText, testValues, testIds, testClasses, testMeans⟩ :=
    exists_components_of_tests writable.names fun test member c inValue =>
      ((writable.values test member).2 c inValue).1
  refine ⟨⟨tag, ids ++ classes ++ tests⟩, ?_, ?_, tagMeans, ?_, ?_, ?_⟩
  · rw [Compound.toList_render, WrittenCompound.text, List.flatMap_append, List.flatMap_append,
      tagText, idText, classText, testText]
    simp only [List.append_assoc]
  · intro valued
    refine List.forall_mem_append.mpr ⟨List.forall_mem_append.mpr ⟨idValues, classValues⟩, ?_⟩
    exact testValues valued
  · simp [List.filterMap_append, classIds, testIds, idMeans]
  · simp [List.filterMap_append, idClasses, classMeans, testClasses]
  · simp [List.filterMap_append, idTests, classTests, testMeans]

/-- The text of a canonical compound is read as this compound. -/
theorem Compound.IsCanonical.readsAs_render (canonical : compound.IsCanonical) :
    ReadsAs compound.render.toList compound := by
  obtain ⟨written, text, values, tag, id, classes, tests⟩ :=
    canonical.toIsWritable.exists_written
  have kept : ∀ test ∈ compound.attributes.entries, unquote test.2.toList = test.2.toList :=
    fun test member => unquote_of_not_isQuoted (canonical.unquoted test member)
  refine ⟨written, text, ?_, ⟨tag.symm, id.symm, classes.symm, ?_⟩⟩
  · apply values
    intro test member
    rw [kept test member]
    exact (canonical.values test member).1
  · intro name value
    have same : compound.attributes.entries.map
        (fun test => (test.1, String.ofList (unquote test.2.toList))) =
          compound.attributes.entries := by
      conv_rhs => rw [← List.map_id compound.attributes.entries]
      apply List.map_congr_left
      intro test member
      rw [kept test member, String.ofList_toList]
      rfl
    rw [tests, same, Dictionary.lastWith_entries_iff]

/-- A writable compound whose text is read as this compound has no quotation marks
around its values. -/
theorem Compound.IsWritable.isCanonical (writable : compound.IsWritable)
    (reads : ReadsAs compound.render.toList compound) : compound.IsCanonical := by
  refine ⟨writable, ?_⟩
  rintro ⟨name, value⟩ member ⟨mark, inner, isMark, quoted⟩
  obtain ⟨written, text, _, _, _, _, tests⟩ := writable.exists_written
  obtain ⟨written', text', _, means⟩ := reads
  obtain rfl := WrittenCompound.text_injective (text'.trans text.symm)
  -- The value comes from a value of the same attribute, which is the value itself.
  have found := (Dictionary.get?_eq_some_iff_mem _).mpr member
  have last := ((means.attributes name value).mp found).mem
  simp only [tests, List.mem_map, Prod.mk.injEq] at last
  obtain ⟨⟨_, raw⟩, isEntry, rfl, unquoted⟩ := last
  have found' := (Dictionary.get?_eq_some_iff_mem _).mpr isEntry
  obtain rfl : value = raw := Option.some.inj (found.symm.trans found')
  dsimp only at unquoted quoted
  rw [quoted, unquote_of_marks isMark, ← String.ofList_toList (s := value), quoted,
    String.ofList_inj] at unquoted
  have lengths := congrArg List.length unquoted
  simp only [List.length_cons, List.length_append] at lengths
  omega

theorem Unquotes.mem {raw value : List Char} (unquotes : Unquotes raw value) :
    ∀ c ∈ value, c ∈ raw := by
  intro c member
  rcases unquotes with ⟨mark, _, rfl⟩ | ⟨_, rfl⟩
  · simp [member]
  · exact member

theorem WrittenComponent.isIdentifier_of_id? {component : WrittenComponent} {id : String}
    (isId : component.id? = some id) : IsIdentifier id.toList := by
  cases component with
  | id name isName =>
      cases isId
      rwa [String.toList_ofList]
  | hasClass | hasAttribute => cases isId

theorem WrittenComponent.isIdentifier_of_class? {component : WrittenComponent} {name : String}
    (isClass : component.class? = some name) : IsIdentifier name.toList := by
  cases component with
  | hasClass name isName =>
      cases isClass
      rwa [String.toList_ofList]
  | id | hasAttribute => cases isClass

theorem WrittenComponent.value_of_test? {component : WrittenComponent} {name value : String}
    (hasValue : component.HasValue) (isTest : component.test? = some (name, value)) :
    IsIdentifier name.toList ∧ value.toList ≠ [] ∧
      ∀ c ∈ value.toList, c ≠ ']' ∧ c ∈ component.text := by
  cases component with
  | hasAttribute name raw value isName staysOpen unquotes =>
      cases isTest
      simp only [String.toList_ofList]
      refine ⟨isName, hasValue, ?_⟩
      intro c member
      have inRaw := unquotes.mem c member
      exact ⟨staysOpen c inRaw, by simp [text, body, inRaw]⟩
  | id | hasClass => cases isTest

/-- What a word is read as is writable. -/
theorem ReadsAs.isWritable {word : List Char} (isWord : IsWord word)
    (reads : ReadsAs word compound) : compound.IsWritable := by
  obtain ⟨⟨tag, components⟩, rfl, values, means⟩ := reads
  have entry : ∀ test ∈ compound.attributes.entries, ∃ component ∈ components,
      component.test? = some test := by
    rintro ⟨name, value⟩ member
    have found := (Dictionary.get?_eq_some_iff_mem _).mpr member
    exact List.mem_filterMap.mp ((means.attributes name value).mp found).mem
  refine ⟨?_, ?_, ?_, ?_, ?_⟩
  · intro name isTag
    rw [means.tag] at isTag
    cases tag with
    | absent | any => cases isTag
    | named written isTagName =>
        cases isTag
        rw [String.toList_ofList]
        exact isTagName.lower
  · intro id isId
    rw [means.id] at isId
    obtain ⟨component, _, isId⟩ := List.mem_filterMap.mp (List.mem_of_mem_head? isId)
    exact WrittenComponent.isIdentifier_of_id? isId
  · intro name isClass
    rw [means.classes] at isClass
    obtain ⟨component, _, isClass⟩ := List.mem_filterMap.mp isClass
    exact WrittenComponent.isIdentifier_of_class? isClass
  · intro test member
    obtain ⟨component, inComponents, isTest⟩ := entry test member
    exact (WrittenComponent.value_of_test? (values component inComponents) isTest).1
  · intro test member
    obtain ⟨component, inComponents, isTest⟩ := entry test member
    obtain ⟨_, nonempty, plain⟩ :=
      WrittenComponent.value_of_test? (values component inComponents) isTest
    refine ⟨nonempty, fun c inValue => ?_⟩
    obtain ⟨staysOpen, inText⟩ := plain c inValue
    have inside : c ∈ tag.text ++ components.flatMap WrittenComponent.text :=
      List.mem_append_right _ (List.mem_flatMap.mpr ⟨component, inComponents, inText⟩)
    obtain ⟨notWhite, notComma⟩ := isWord.2 c inside
    exact ⟨staysOpen, notComma, notWhite⟩

end Compounds

/-! ## Selectors -/

/-- The text of a writable compound is a word. -/
theorem Compound.IsWritable.isWord {compound : Compound} (writable : compound.IsWritable) :
    IsWord compound.render.toList := by
  obtain ⟨tag, tagText, tagNonempty, _⟩ := writable.exists_tag
  have names : ∀ {name : List Char}, IsIdentifier name → ∀ c ∈ name, IsWordCharacter c :=
    fun isName c inName => isWordCharacter_of_identifier (isName.2 c inName)
  rw [Compound.toList_render, ← tagText]
  refine ⟨by simp [tagNonempty], ?_⟩
  simp only [List.forall_mem_append]
  refine ⟨⟨⟨?_, ?_⟩, ?_⟩, ?_⟩
  · exact fun c inTag => isWordCharacter_of_tag (tag.all_text c inTag)
  · cases isId : compound.id with
    | none => simp
    | some id =>
        exact List.forall_mem_cons.mpr ⟨by decide, names (writable.id id isId)⟩
  · refine List.forall_mem_flatMap.mpr fun name isClass => ?_
    exact List.forall_mem_cons.mpr ⟨by decide, names (writable.classes name isClass)⟩
  · refine List.forall_mem_flatMap.mpr fun test isTest => ?_
    have value : ∀ c ∈ test.2.toList, IsWordCharacter c := fun c inValue =>
      ((writable.values test isTest).2 c inValue).2.symm
    simp only [List.forall_mem_cons, List.forall_mem_append]
    exact ⟨by decide, names (writable.names test isTest), by decide, value, by decide, by simp⟩

namespace Selector

variable {selector : Selector}

/-- The texts of the compounds of a selector, chain by chain. -/
def compoundTexts (selector : Selector) : List (List (List Char)) :=
  selector.alternatives.map fun chain => chain.map fun compound => compound.render.toList

/-- The text of a writable selector consists of the texts of its compounds. -/
theorem hasChains_render (writable : selector.IsWritable) :
    HasChains selector.render.toList selector.compoundTexts := by
  obtain ⟨alternatives, writable⟩ := writable
  have text : selector.render.toList =
      List.intercalate [',', ' '] (selector.compoundTexts.map (List.intercalate [' '])) := by
    simp [render, Chain.render, compoundTexts, String.toList_intercalate, Function.comp_def]
  rw [text]
  apply hasChains_intercalate
  · simpa [compoundTexts] using alternatives
  · intro words isChain
    obtain ⟨chain, member, rfl⟩ := List.mem_map.mp isChain
    simpa using (writable chain member).1
  · intro words isChain word isWord
    obtain ⟨chain, member, rfl⟩ := List.mem_map.mp isChain
    obtain ⟨compound, isStep, rfl⟩ := List.mem_map.mp isWord
    exact ((writable chain member).2 compound isStep).isWord

/-- A selector is read from the texts of its compounds if each of them is read as its
compound. -/
theorem reads_compoundTexts_iff :
    List.Forall₂ (List.Forall₂ ReadsAs) selector.compoundTexts selector.alternatives ↔
      ∀ chain ∈ selector.alternatives, ∀ compound ∈ chain,
        ReadsAs compound.render.toList compound := by
  simp only [compoundTexts, List.forall₂_map_left_iff, List.forall₂_same]

/-- What is read is writable. -/
theorem isWritable_of_parse {source : String} (read : parse source = .ok selector) :
    selector.IsWritable := by
  obtain ⟨chains, only⟩ := exists_hasChains source.toList
  have has : HasChains source.toList chains := (only chains).mpr rfl
  obtain ⟨nonempty, reads⟩ := (parse_eq_ok_iff has).mp read
  refine ⟨?_, ?_⟩
  · intro nothing
    rw [nothing, List.forall₂_nil_right_iff] at reads
    exact nonempty reads
  · intro chain isAlternative
    obtain ⟨words, isChain, readsChain⟩ := exists_mem_of_forall₂ reads isAlternative
    obtain ⟨steps, areWords⟩ := has.of_mem isChain
    refine ⟨?_, ?_⟩
    · rintro rfl
      exact steps (List.forall₂_nil_right_iff.mp readsChain)
    · intro compound isStep
      obtain ⟨word, isWord, readsStep⟩ := exists_mem_of_forall₂ readsChain isStep
      exact readsStep.isWritable (areWords word isWord)

theorem IsCanonical.isWritable (canonical : selector.IsCanonical) : selector.IsWritable :=
  ⟨canonical.1, fun chain member => ⟨(canonical.2 chain member).1, fun compound isStep =>
    ((canonical.2 chain member).2 compound isStep).toIsWritable⟩⟩

/-- A selector is read back from its text exactly if it is canonical. -/
theorem parse_render_iff_isCanonical (selector : Selector) :
    parse selector.render = .ok selector ↔ selector.IsCanonical := by
  constructor
  · intro read
    have writable := isWritable_of_parse read
    -- A writable selector is cut into the texts of its compounds.
    have reads := reads_compoundTexts_iff.mp
      ((parse_eq_ok_iff (hasChains_render writable)).mp read).2
    obtain ⟨alternatives, parts⟩ := writable
    refine ⟨alternatives, fun chain member => ⟨(parts chain member).1, ?_⟩⟩
    intro compound isStep
    exact ((parts chain member).2 compound isStep).isCanonical (reads chain member compound isStep)
  · intro canonical
    have has := hasChains_render canonical.isWritable
    refine (parse_eq_ok_iff has).mpr ⟨?_, reads_compoundTexts_iff.mpr ?_⟩
    · simpa [compoundTexts] using canonical.1
    · intro chain member compound isStep
      exact ((canonical.2 chain member).2 compound isStep).readsAs_render

end Selector

end Questionnaire
