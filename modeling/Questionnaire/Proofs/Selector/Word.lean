/-
# Selector texts of one word

A text without white space and commas is one word, and it is read as the compound that is
written there. A test for an attribute that is a selector by itself is such a text: if its
value held white space or a comma, the word would end inside the brackets.
-/

import Questionnaire.Proofs.Selector.Query
import Questionnaire.Proofs.Selector.RoundTrip

namespace Questionnaire

open Html

/-! ## Texts of one word -/

theorem IsIdentifier.isWordCharacter {name : List Char} (isName : IsIdentifier name) :
    ∀ c ∈ name, IsWordCharacter c :=
  fun c inName => isWordCharacter_of_identifier (isName.2 c inName)

/-- A text that starts with a word is not blank. -/
theorem IsWord.not_blank {word : List Char} (isWord : IsWord word) (behind : List Char) :
    Text.isBlank (word ++ behind) = false := by
  obtain ⟨c, rest, rfl⟩ := List.exists_cons_of_ne_nil isWord.1
  simp [Text.isBlank, (isWord.2 c List.mem_cons_self).1]

/-- A word is a selector text of one chain with one step. -/
theorem hasChains_word {word : List Char} (isWord : IsWord word) : HasChains word [[word]] := by
  have has := hasWords_intercalate (List.forall_mem_singleton.mpr isWord)
  rw [List.intercalate_singleton, Text.hasWords_iff] at has
  have visible := isWord.not_blank []
  rw [List.append_nil] at visible
  rw [← has]
  exact hasChains_singleton (fun comma => (isWord.2 ',' comma).2 rfl) visible

/-- A text of one word finds what the compound selects that is written there. -/
theorem queryAll_word {source : String} (isWord : IsWord source.toList) {written : WrittenCompound}
    (text : written.text = source.toList) (values : written.HasValues) (roots : List Place) :
    queryAll source roots = written.compound.select roots := by
  rw [queryAll_singleton (hasChains_word isWord),
    queryWords_singleton (readsAs_iff.mpr ⟨written, text, values, rfl⟩)]

/-- A selector text of one word is read as the compound that is written there. -/
theorem Selector.exists_written_of_word {source : String} {selector : Selector}
    (isWord : IsWord source.toList) (read : parse source = .ok selector) :
    ∃ written : WrittenCompound, written.text = source.toList ∧ written.HasValues ∧
      selector = ⟨[[written.compound]]⟩ := by
  obtain ⟨-, reads⟩ := (parse_eq_ok_iff (hasChains_word isWord)).mp read
  obtain ⟨alternatives⟩ := selector
  obtain ⟨chain, chains, readsChain, noChains, rfl⟩ := List.forall₂_cons_left_iff.mp reads
  obtain ⟨compound, others, readsWord, noOthers, rfl⟩ := List.forall₂_cons_left_iff.mp readsChain
  obtain rfl := List.forall₂_nil_left_iff.mp noChains
  obtain rfl := List.forall₂_nil_left_iff.mp noOthers
  obtain ⟨written, text, values, rfl⟩ := readsAs_iff.mp readsWord
  exact ⟨written, text, values, rfl⟩

/-- A word that white space or a comma ends is the first word of its text. -/
theorem HasChains.mem_of_word {word behind : List Char} {c : Char}
    {chains : List (List (List Char))} (isWord : IsWord word) (ends : ¬ IsWordCharacter c)
    (has : HasChains (word ++ c :: behind) chains) : word ∈ chains.flatten := by
  obtain ⟨piece, others, split⟩ := List.exists_cons_of_ne_nil
    (Text.splitAtEvery_ne_nil (fun c => c == ',') (c :: behind))
  have pieces := Text.splitAtEvery_append_of_none
    (fun c member => beq_eq_false_iff_ne.mpr (isWord.2 c member).2) split
  -- What follows the word in its piece is nothing, or it starts with white space.
  have stops : Text.StopsAt (fun c => !Text.isWhiteSpace c) piece := by
    rw [Text.splitAtEvery] at split
    split at split
    · obtain rfl := (List.cons.inj split).1
      exact Text.stopsAt_nil
    · next notComma =>
      have white : Text.isWhiteSpace c = true := by
        by_contra notWhite
        exact ends ⟨Bool.eq_false_iff.mpr notWhite, by simpa using notComma⟩
      split at split <;>
      · obtain rfl := (List.cons.inj split).1
        exact Text.stopsAt_cons.mpr (by rw [white]; rfl)
  have found : Text.words (word ++ piece) = word :: Text.words piece :=
    Text.words_append isWord.1 (fun c member => (isWord.2 c member).1) stops
  rw [hasChains_iff, selectorPieces, pieces] at has
  rw [← has]
  simp [isWord.not_blank, found]

/-! ## Texts of tests -/

/-- The text of a test of an attribute for a raw value. -/
def testText (name raw : String) : String :=
  "[" ++ name ++ "=" ++ raw ++ "]"

/-- A component is the test of an attribute for a value that is written in a raw form. -/
structure WrittenComponent.IsTest (component : WrittenComponent) (name raw value : String) :
    Prop where
  text : component.text = (testText name raw).toList
  /-- No word ends inside the test. -/
  plain : ∀ c ∈ component.text, IsWordCharacter c
  hasValue : component.HasValue
  means : component.component = .hasAttribute name value
  notEmpty : value ≠ ""

/-- No compound starts with a bracket that is not closed. -/
theorem IsCompoundText.mem_closing {rest : List Char} (derived : IsCompoundText ('[' :: rest)) :
    ']' ∈ rest := by
  obtain ⟨⟨tag, components⟩, text, -⟩ := derived
  rw [WrittenCompound.text] at text
  cases isTag : tag.text with
  | cons c _ =>
      have inTag := tag.all_text c (by rw [isTag]; exact List.mem_cons_self)
      rw [isTag] at text
      obtain rfl : c = '[' := (List.cons.inj text).1
      exact absurd inTag (by decide)
  | nil =>
      rw [isTag, List.nil_append] at text
      cases components with
      | nil => exact absurd text.symm (List.cons_ne_nil _ _)
      | cons first others =>
          obtain ⟨marker, rfl⟩ := List.cons.inj text
          cases first with
          | id | hasClass => simp [WrittenComponent.marker] at marker
          | hasAttribute => simp [WrittenComponent.body]

/-- All words of a selector text are derived. -/
theorem Selector.isCompoundText_of_mem {source : String} {selector : Selector}
    {chains : List (List (List Char))} (has : HasChains source.toList chains)
    (read : parse source = .ok selector) {word : List Char} (member : word ∈ chains.flatten) :
    IsCompoundText word := by
  obtain ⟨words, isChain, isStep⟩ := List.mem_flatten.mp member
  obtain ⟨chain, -, reads⟩ :=
    exists_mem_of_forall₂ ((parse_eq_ok_iff has).mp read).2.flip isChain
  obtain ⟨compound, -, readsWord⟩ := exists_mem_of_forall₂ reads.flip isStep
  exact exists_readsAs_iff.mp ⟨compound, readsWord⟩

section TestText

variable {name raw : String} {test : Selector}

/-- A test that is a selector by itself holds no white space and no comma, as one of them
would leave its bracket open. -/
theorem isWord_testText (isName : IsIdentifier name.toList) (staysOpen : ']' ∉ raw.toList)
    (read : Selector.parse (testText name raw) = .ok test) : IsWord (testText name raw).toList := by
  obtain ⟨run, behind, split, inside, stops⟩ :=
    Text.exists_run (fun c => decide (IsWordCharacter c)) raw.toList
  simp only [decide_eq_true_eq] at inside
  have word : IsWord ('[' :: (name.toList ++ '=' :: run)) := by
    refine ⟨List.cons_ne_nil _ _, ?_⟩
    simp only [List.forall_mem_cons, List.forall_mem_append]
    exact ⟨by decide, isName.isWordCharacter, by decide, inside⟩
  have text : (testText name raw).toList =
      '[' :: (name.toList ++ '=' :: run) ++ (behind ++ [']']) := by
    simp [testText, split]
  cases behind with
  | nil =>
      rw [text]
      refine ⟨List.append_ne_nil_of_left_ne_nil word.1 _, ?_⟩
      exact List.forall_mem_append.mpr ⟨word.2, List.forall_mem_singleton.mpr (by decide)⟩
  | cons c rest =>
      obtain ⟨chains, only⟩ := exists_hasChains (testText name raw).toList
      have has := (only chains).mpr rfl
      have ends : ¬ IsWordCharacter c := of_decide_eq_false (Text.stopsAt_cons.mp stops)
      have first := HasChains.mem_of_word word ends (text ▸ has)
      have closes := (Selector.isCompoundText_of_mem has read first).mem_closing
      rcases List.mem_append.mp closes with inName | below
      · exact absurd (isName.2 ']' inName) (by decide +kernel)
      · rcases List.mem_cons.mp below with isEquals | inRun
        · exact absurd isEquals (by decide)
        · exact absurd (split ▸ List.mem_append_left _ inRun) staysOpen

/-- A test that is a selector by itself is read as the test for one value, which is not
empty. -/
theorem exists_isTest_of_testText (isName : IsIdentifier name.toList)
    (staysOpen : ']' ∉ raw.toList) (read : Selector.parse (testText name raw) = .ok test) :
    ∃ (component : WrittenComponent) (value : String),
      component.IsTest name raw value ∧
      test = ⟨[[⟨none, none, [], Dictionary.ofList [(name, value)]⟩]]⟩ := by
  have isWord := isWord_testText isName staysOpen read
  obtain ⟨written, text, values, rfl⟩ := Selector.exists_written_of_word isWord read
  have open' : ∀ c ∈ raw.toList, c ≠ ']' := fun c member same => staysOpen (same ▸ member)
  let component : WrittenComponent :=
    .hasAttribute name.toList raw.toList _ isName open' (unquotes_iff.mpr rfl)
  have componentText : component.text = (testText name raw).toList := by
    simp [component, WrittenComponent.text, WrittenComponent.marker, WrittenComponent.body,
      testText]
  -- No other text of a compound is the same, so that this is what was read.
  obtain rfl : written = ⟨.absent, [component]⟩ := by
    apply WrittenCompound.text_injective
    rw [text, ← componentText]
    simp [WrittenCompound.text, WrittenTag.text]
  have hasValue : component.HasValue := values component List.mem_cons_self
  refine ⟨component, String.ofList (unquote raw.toList),
    ⟨componentText, componentText ▸ isWord.2, hasValue, ?_, ?_⟩, ?_⟩
  · simp [component, WrittenComponent.component]
  · intro empty
    exact hasValue (String.ofList_inj.mp empty)
  · simp [component, WrittenCompound.compound, WrittenComponent.component, Compound.add,
      Compound.wildcard, WrittenTag.name?, Dictionary.ofList, Dictionary.insertAll]
    rfl

end TestText

end Questionnaire
