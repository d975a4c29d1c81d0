/-
# Reading selectors by their grammar

The reader of selectors goes through a word with a rest that gets shorter and takes
each component as far as it goes. Here it is shown to accept exactly the texts of
derivations and to give back what they mean. What one component does is settled
first, in both directions; words, chains and whole selectors follow from it by
induction.
-/

import Questionnaire.Proofs.FirstFailure
import Questionnaire.Proofs.Selector.Characters

namespace Questionnaire

/-! ## One component -/

/-- A component is not cut off by what follows it: a name ends before a character that
no name holds, and an attribute test ends with its bracket. -/
def WrittenComponent.EndsBefore (rest : List Char) : WrittenComponent → Prop
  | .id _ _ | .hasClass _ _ => Text.StopsAt isIdentifierCharacter rest
  | .hasAttribute _ _ _ _ _ _ => True

theorem WrittenComponent.endsBefore_of_stopsAt {rest : List Char}
    (stops : Text.StopsAt isIdentifierCharacter rest) (written : WrittenComponent) :
    written.EndsBefore rest := by
  cases written
  · exact stops
  · exact stops
  · trivial

/-- A component has a value unless it is a test for the empty one. -/
theorem WrittenComponent.hasValue_iff {written : WrittenComponent} :
    written.HasValue ↔ ∀ test, written.test? = some test → test.2 ≠ "" := by
  cases written <;> simp [HasValue, test?]

theorem WrittenComponent.body_hasAttribute_append {name raw value : List Char}
    (isName : IsIdentifier name) (staysOpen : ∀ c ∈ raw, c ≠ ']') (unquotes : Unquotes raw value)
    (rest : List Char) :
    body (.hasAttribute name raw value isName staysOpen unquotes) ++ rest =
      name ++ '=' :: (raw ++ ']' :: rest) := by
  simp [body]

theorem IsIdentifier.isEmpty {name : List Char} (isName : IsIdentifier name) :
    name.isEmpty = false :=
  List.isEmpty_eq_false_iff.mpr isName.1

theorem not_identifier_equals : isIdentifierCharacter '=' = false := by decide +kernel

theorem stopsAt_bracket {rest : List Char} : Text.StopsAt (fun c => c != ']') (']' :: rest) :=
  Text.stopsAt_cons.mpr rfl

section Component

variable {word rest remaining : List Char} {first : Char} {component : Component}

/-- A name is read as far as it goes. -/
theorem readNamed_name {name : List Char} (marker : Char) (build : String → Component)
    (isName : IsIdentifier name) (stops : Text.StopsAt isIdentifierCharacter rest) :
    readNamed word marker build (name ++ rest) = .ok (build (String.ofList name), rest) := by
  unfold readNamed
  simp only [Text.takeWhile_run isName.2 stops, Text.dropWhile_run isName.2 stops,
    isName.isEmpty, Bool.false_eq_true, if_false]

/-- What is read of an attribute test that has a name and is closed depends on its
value. -/
theorem readAttribute_closed {name raw value : List Char} (isName : IsIdentifier name)
    (staysOpen : ∀ c ∈ raw, c ≠ ']') (unquotes : Unquotes raw value) :
    readAttribute word (name ++ '=' :: (raw ++ ']' :: rest)) =
      if value.isEmpty then
        .error (.missingAttributeValue (String.ofList name) (String.ofList word))
      else .ok (.hasAttribute (String.ofList name) (String.ofList value), rest) := by
  have stops : Text.StopsAt isIdentifierCharacter ('=' :: (raw ++ ']' :: rest)) :=
    Text.stopsAt_cons.mpr not_identifier_equals
  have inside : ∀ c ∈ raw, (fun c => c != ']') c = true :=
    fun c member => bne_iff_ne.mpr (staysOpen c member)
  unfold readAttribute
  simp only [Text.takeWhile_run isName.2 stops, Text.dropWhile_run isName.2 stops,
    isName.isEmpty, Bool.false_eq_true, if_false, Text.takeWhile_run inside stopsAt_bracket,
    Text.dropWhile_run inside stopsAt_bracket, unquotes_iff.mp unquotes]

/-- A component that is written is read, and what follows it is left. -/
theorem readComponent_text (written : WrittenComponent) (hasValue : written.HasValue)
    (ends : written.EndsBefore rest) :
    readComponent word written.marker (written.body ++ rest) = .ok (written.component, rest) := by
  cases written with
  | id name isName => exact readNamed_name '#' .id isName ends
  | hasClass name isName => exact readNamed_name '.' .hasClass isName ends
  | hasAttribute name raw value isName staysOpen unquotes =>
      rw [WrittenComponent.body_hasAttribute_append]
      have valued : value ≠ [] := hasValue
      exact (readAttribute_closed isName staysOpen unquotes).trans (if_neg (by simpa using valued))

/-- A test for the empty value is refused. -/
theorem readComponent_of_empty {written : WrittenComponent} {test : String × String}
    (isTest : written.test? = some test) (isEmpty : test.2 = "") :
    readComponent word written.marker (written.body ++ rest) =
      .error (.missingAttributeValue test.1 (String.ofList word)) := by
  cases written with
  | id | hasClass => cases isTest
  | hasAttribute name raw value isName staysOpen unquotes =>
      cases isTest
      have nothing : value = [] := String.ofList_inj.mp isEmpty
      rw [WrittenComponent.body_hasAttribute_append]
      exact (readAttribute_closed isName staysOpen unquotes).trans (if_pos (by simpa using nothing))

/-- A text that starts with a component is read as this component first. -/
theorem readComponent_of_text {written : WrittenComponent}
    (text : first :: rest = written.text ++ remaining) (hasValue : written.HasValue)
    (ends : written.EndsBefore remaining) :
    readComponent word first rest = .ok (written.component, remaining) := by
  obtain ⟨rfl, rfl⟩ : first = written.marker ∧ rest = written.body ++ remaining :=
    List.cons.inj text
  exact readComponent_text written hasValue ends

theorem utf8Length_eq (cs : List Char) : utf8Length cs = (String.ofList cs).utf8ByteSize := by
  induction cs with
  | nil => rfl
  | cons c rest ih =>
      rw [String.ofList_cons, String.utf8ByteSize_append, String.utf8ByteSize_singleton, ← ih]
      rfl

/-- Positions count the bytes of what was read. -/
theorem utf8Length_sub {before behind : List Char} (parts : word = before ++ behind) :
    utf8Length word - utf8Length behind = (String.ofList before).utf8ByteSize := by
  rw [utf8Length_eq, utf8Length_eq, parts, String.ofList_append, String.utf8ByteSize_append,
    Nat.add_sub_cancel]

/-- A fault is found, and it is placed by what was read before it. -/
theorem readComponent_fault {before : List Char} {error : SelectorError}
    (fault : IsFault word before (first :: rest) error) (parts : word = before ++ first :: rest) :
    readComponent word first rest = .error error := by
  have position := utf8Length_sub parts
  cases fault with
  | unexpected notId notClass notTest =>
      simp only [readComponent, notId, notClass, notTest, if_false, position]
  | noName isMarker stops =>
      rcases isMarker with rfl | rfl <;>
        simp [readComponent, readNamed, Text.takeWhile_of_stopsAt stops, position]
  | openName inside =>
      have atEnd : rest.dropWhile isIdentifierCharacter = [] := List.dropWhile_eq_nil_iff.mpr inside
      simp [readComponent, readAttribute, atEnd]
  | @noEquals name behind c inside outside notEquals =>
      have stops : Text.StopsAt isIdentifierCharacter (c :: behind) := Text.stopsAt_cons.mpr outside
      simp [readComponent, readAttribute, Text.takeWhile_run inside stops,
        Text.dropWhile_run inside stops, notEquals]
  | @noAttributeName behind =>
      have stops : Text.StopsAt isIdentifierCharacter ('=' :: behind) :=
        Text.stopsAt_cons.mpr not_identifier_equals
      -- The position is behind the bracket, which takes one byte.
      have after : utf8Length word - utf8Length ('=' :: behind) =
          (String.ofList before).utf8ByteSize + 1 := by
        have behindBracket : word = (before ++ ['[']) ++ '=' :: behind := by simp [parts]
        rw [utf8Length_sub behindBracket, String.ofList_append, String.utf8ByteSize_append]
        rfl
      simp [readComponent, readAttribute, Text.takeWhile_of_stopsAt stops,
        Text.dropWhile_of_stopsAt stops, after]
  | @openValue name raw isName staysOpen =>
      have stops : Text.StopsAt isIdentifierCharacter ('=' :: raw) :=
        Text.stopsAt_cons.mpr not_identifier_equals
      have neverCloses : raw.dropWhile (fun c => c != ']') = [] :=
        List.dropWhile_eq_nil_iff.mpr fun c member => bne_iff_ne.mpr (staysOpen c member)
      simp [readComponent, readAttribute, Text.takeWhile_run isName.2 stops,
        Text.dropWhile_run isName.2 stops, isName.isEmpty, neverCloses]
  | noValue isName staysOpen unquotes => exact readAttribute_closed isName staysOpen unquotes

/-- A text starts with a component that has a value and is not cut off. -/
def StartsWithComponent (cs : List Char) : Prop :=
  ∃ (written : WrittenComponent) (remaining : List Char),
    cs = written.text ++ remaining ∧ written.HasValue ∧ written.EndsBefore remaining

/-- An attribute test is written behind its bracket, or there is a fault. -/
theorem startsWithComponent_test_or_fault (word before rest : List Char) :
    StartsWithComponent ('[' :: rest) ∨ ∃ error, IsFault word before ('[' :: rest) error := by
  obtain ⟨name, after, rfl, inside, stops⟩ := Text.exists_run isIdentifierCharacter rest
  cases after with
  | nil => exact Or.inr ⟨_, by rw [List.append_nil]; exact .openName inside⟩
  | cons sign after =>
      by_cases equals : sign = '='
      · subst equals
        by_cases nonempty : name = []
        · subst nonempty
          exact Or.inr ⟨_, .noAttributeName⟩
        have isName : IsIdentifier name := ⟨nonempty, inside⟩
        obtain ⟨raw, behind, rfl, staysOpen, closes⟩ := Text.exists_run (fun c => c != ']') after
        simp only [bne_iff_ne] at staysOpen
        cases behind with
        | nil => exact Or.inr ⟨_, by rw [List.append_nil]; exact .openValue isName staysOpen⟩
        | cons closing remaining =>
            obtain rfl : closing = ']' := by simpa using Text.stopsAt_cons.mp closes
            have unquotes := unquotes_iff.mpr (rfl : unquote raw = unquote raw)
            by_cases hasValue : unquote raw = []
            · exact Or.inr ⟨_, .noValue isName staysOpen (hasValue ▸ unquotes)⟩
            · refine Or.inl ⟨.hasAttribute name raw _ isName staysOpen unquotes, remaining,
                ?_, hasValue, trivial⟩
              simp [WrittenComponent.text, WrittenComponent.marker, WrittenComponent.body]
      · exact Or.inr ⟨_, .noEquals inside (Text.stopsAt_cons.mp stops) equals⟩

/-- A text that is not at its end starts with a component that has a value, or there is
a fault. -/
theorem startsWithComponent_or_fault (word before : List Char) (first : Char)
    (rest : List Char) :
    StartsWithComponent (first :: rest) ∨ ∃ error, IsFault word before (first :: rest) error := by
  by_cases isTest : first = '['
  · subst isTest
    exact startsWithComponent_test_or_fault word before rest
  obtain ⟨name, after, rfl, inside, stops⟩ := Text.exists_run isIdentifierCharacter rest
  by_cases isId : first = '#'
  · subst isId
    by_cases nonempty : name = []
    · subst nonempty
      exact Or.inr ⟨_, .noName (Or.inl rfl) stops⟩
    · exact Or.inl ⟨.id name ⟨nonempty, inside⟩, after, rfl, trivial, stops⟩
  by_cases isClass : first = '.'
  · subst isClass
    by_cases nonempty : name = []
    · subst nonempty
      exact Or.inr ⟨_, .noName (Or.inr rfl) stops⟩
    · exact Or.inl ⟨.hasClass name ⟨nonempty, inside⟩, after, rfl, trivial, stops⟩
  · exact Or.inr ⟨_, .unexpected isId isClass isTest⟩

/-- Reading fails at a fault and nowhere else. -/
theorem readComponent_eq_error_iff {before : List Char} {error : SelectorError}
    (parts : word = before ++ first :: rest) :
    readComponent word first rest = .error error ↔ IsFault word before (first :: rest) error := by
  refine ⟨?_, fun fault => readComponent_fault fault parts⟩
  intro fails
  rcases startsWithComponent_or_fault word before first rest with
    ⟨written, behind, text, hasValue, ends⟩ | ⟨other, fault⟩
  · rw [readComponent_of_text text hasValue ends] at fails
    cases fails
  · rw [readComponent_fault fault parts] at fails
    cases fails
    exact fault

end Component

/-! ## All components of a word -/

section Components

variable {word rest remaining : List Char} {first : Char} {component : Component}

theorem readComponents_cons_of_ok
    (read : readComponent word first rest = .ok (component, remaining)) :
    readComponents word (first :: rest) =
      (readComponents word remaining).map (component :: ·) := by
  rw [readComponents]
  split
  · next fails => simp [read] at fails
  · next found =>
    rw [read] at found
    cases found
    cases readComponents word remaining <;> rfl

theorem readComponents_cons_of_error {error : SelectorError}
    (fails : readComponent word first rest = .error error) :
    readComponents word (first :: rest) = .error error := by
  rw [readComponents]
  split
  · next found =>
    rw [fails] at found
    cases found
    rfl
  · next found => simp [fails] at found

/-- Components that are written are read one after the other, up to the first test for the
empty value. -/
theorem readComponents_text (components : List WrittenComponent) :
    readComponents word (components.flatMap WrittenComponent.text) =
      ((components.filterMap WrittenComponent.test?).find? fun test => test.2 == "").elim
        (.ok (components.map WrittenComponent.component))
        fun test => .error (.missingAttributeValue test.1 (String.ofList word)) := by
  induction components with
  | nil =>
      rw [List.flatMap_nil, readComponents]
      rfl
  | cons written others ih =>
      -- The next component starts with a character that ends the one before it.
      have ends : written.EndsBefore (others.flatMap WrittenComponent.text) :=
        written.endsBefore_of_stopsAt
          (WrittenComponent.stopsAt_flatMap_text WrittenComponent.marker_not_identifier others)
      have readsOn : written.HasValue →
          readComponents word ((written :: others).flatMap WrittenComponent.text) =
            (readComponents word (others.flatMap WrittenComponent.text)).map
              (written.component :: ·) := by
        intro hasValue
        rw [List.flatMap_cons, WrittenComponent.text, List.cons_append]
        exact readComponents_cons_of_ok (readComponent_text written hasValue ends)
      cases isTest : written.test? with
      | none =>
          rw [readsOn (WrittenComponent.hasValue_iff.mpr (by simp [isTest])), ih,
            List.filterMap_cons_none isTest]
          cases (others.filterMap WrittenComponent.test?).find? _ <;> rfl
      | some test =>
          rw [List.filterMap_cons_some isTest]
          by_cases isEmpty : test.2 = ""
          · have isFirst : (test :: others.filterMap WrittenComponent.test?).find?
                (fun test => test.2 == "") = some test :=
              List.find?_cons_of_pos (beq_iff_eq.mpr isEmpty)
            rw [isFirst, List.flatMap_cons, WrittenComponent.text, List.cons_append,
              readComponents_cons_of_error (readComponent_of_empty isTest isEmpty)]
            rfl
          · have isLater : (test :: others.filterMap WrittenComponent.test?).find?
                (fun test => test.2 == "") =
                  (others.filterMap WrittenComponent.test?).find? fun test => test.2 == "" :=
              List.find?_cons_of_neg (by simpa using isEmpty)
            rw [isLater,
              readsOn (WrittenComponent.hasValue_iff.mpr (by simpa [isTest] using isEmpty)), ih]
            cases (others.filterMap WrittenComponent.test?).find? _ <;> rfl

/-- What is read as one component is written as one. -/
theorem exists_written_of_readComponent {before : List Char}
    (parts : word = before ++ first :: rest)
    (read : readComponent word first rest = .ok (component, remaining)) :
    ∃ written : WrittenComponent, first :: rest = written.text ++ remaining ∧
      written.HasValue ∧ written.component = component := by
  rcases startsWithComponent_or_fault word before first rest with
    ⟨written, behind, text, hasValue, ends⟩ | ⟨error, fault⟩
  · rw [readComponent_of_text text hasValue ends] at read
    cases read
    exact ⟨written, text, hasValue, rfl⟩
  · rw [readComponent_fault fault parts] at read
    cases read

/-- What is read as components is written as components. -/
theorem exists_written_of_readComponents {before : List Char} {found : List Component}
    (parts : word = before ++ rest) (read : readComponents word rest = .ok found) :
    ∃ components : List WrittenComponent, rest = components.flatMap WrittenComponent.text ∧
      (∀ component ∈ components, component.HasValue) ∧
      components.map WrittenComponent.component = found := by
  induction rest using readComponents.induct word generalizing before found with
  | case1 =>
      rw [readComponents] at read
      cases read
      exact ⟨[], rfl, by simp, rfl⟩
  | case2 first rest error fails =>
      rw [readComponents_cons_of_error fails] at read
      cases read
  | case3 first rest component remaining readFirst error fails ih =>
      rw [readComponents_cons_of_ok readFirst, fails] at read
      cases read
  | case4 first rest component remaining readFirst others readOthers ih =>
      rw [readComponents_cons_of_ok readFirst, readOthers] at read
      cases read
      obtain ⟨written, text, hasValue, rfl⟩ := exists_written_of_readComponent parts readFirst
      have behind : word = (before ++ written.text) ++ remaining := by
        rw [parts, text, List.append_assoc]
      obtain ⟨components, rfl, values, rfl⟩ := ih behind readOthers
      exact ⟨written :: components, text, List.forall_mem_cons.mpr ⟨hasValue, values⟩, rfl⟩

end Components

/-! ## Words -/

section Words

variable {word rest : List Char} {compound : Compound}

theorem stopsAt_tag (stops : Text.StopsAt isTagTextCharacter rest) :
    Text.StopsAt isTagCharacter rest := by
  intro c isFirst
  have outside := stops c isFirst
  rw [isTagTextCharacter, Bool.or_eq_false_iff] at outside
  exact outside.1

theorem readTag_name {name : List Char} (isTag : IsTagName name)
    (stops : Text.StopsAt isTagCharacter rest) :
    readTag (name ++ rest) = (some (String.ofList (name.map lowerLetter)), rest) := by
  have taken := Text.takeWhile_run isTag.all stops
  have left := Text.dropWhile_run isTag.all stops
  have lower := isTag.map_lowerLetter
  obtain ⟨first, others, rfl, letter, _⟩ := isTag
  have notMark : first ≠ '*' := by
    rintro rfl
    exact absurd letter (by decide)
  rw [List.cons_append] at taken left ⊢
  rw [readTag, if_neg notMark, if_pos letter, taken, left, Text.asciiLower, String.toList_ofList,
    lower]

theorem readTag_absent (notAny : ∀ c ∈ word.head?, c ≠ '*' ∧ Text.isAsciiLetter c = false) :
    readTag word = (none, word) := by
  cases word with
  | nil => rfl
  | cons first rest =>
      obtain ⟨notMark, notLetter⟩ := notAny first rfl
      rw [readTag, if_neg notMark, if_neg (Bool.eq_false_iff.mp notLetter)]

/-- A tag is read as far as it goes. -/
theorem readTag_text (tag : WrittenTag) (stops : Text.StopsAt isTagTextCharacter rest) :
    readTag (tag.text ++ rest) = (tag.name?, rest) := by
  cases tag with
  | absent =>
      apply readTag_absent
      intro c isFirst
      have outside := stops c isFirst
      simp only [isTagTextCharacter, isTagCharacter, Text.isAsciiAlphanumeric,
        Bool.or_eq_false_iff, beq_eq_false_iff_ne] at outside
      exact ⟨outside.2, outside.1.1.1⟩
  | any => rfl
  | named name isTag => exact readTag_name isTag (stopsAt_tag stops)

/-- Every word starts with a tag, which may be none at all, and the rest of it is left. -/
theorem exists_tag (word : List Char) :
    ∃ (tag : WrittenTag) (rest : List Char), word = tag.text ++ rest ∧
      readTag word = (tag.name?, rest) := by
  cases word with
  | nil => exact ⟨.absent, [], rfl, rfl⟩
  | cons first rest =>
      by_cases isAny : first = '*'
      · subst isAny
        exact ⟨.any, rest, rfl, rfl⟩
      by_cases letter : Text.isAsciiLetter first = true
      · obtain ⟨others, behind, rfl, inside, stops⟩ := Text.exists_run isTagCharacter rest
        have isTag : IsTagName (first :: others) := ⟨first, others, rfl, letter, inside⟩
        exact ⟨.named _ isTag, behind, rfl, readTag_name isTag stops⟩
      · refine ⟨.absent, first :: rest, rfl, readTag_absent ?_⟩
        rintro _ ⟨⟩
        exact ⟨isAny, Bool.eq_false_iff.mpr letter⟩

/-- The text of a derivation is read as what is put together from it, or refused for its
first test for the empty value. -/
theorem ofWord_text (written : WrittenCompound) :
    Compound.ofWord written.text =
      ((written.components.filterMap WrittenComponent.test?).find? fun test => test.2 == "").elim
        (.ok written.compound)
        fun test => .error (.missingAttributeValue test.1 (String.ofList written.text)) := by
  obtain ⟨tag, components⟩ := written
  have stops : Text.StopsAt isTagTextCharacter (components.flatMap WrittenComponent.text) :=
    WrittenComponent.stopsAt_flatMap_text WrittenComponent.marker_not_tag components
  unfold Compound.ofWord WrittenCompound.text
  rw [readTag_text tag stops]
  dsimp only
  rw [readComponents_text]
  cases (components.filterMap WrittenComponent.test?).find? _ <;> rfl

/-- Of components with values, no test is for the empty one. -/
theorem WrittenCompound.HasValues.find?_eq_none {written : WrittenCompound}
    (values : written.HasValues) :
    (written.components.filterMap WrittenComponent.test?).find? (fun test => test.2 == "") =
      none := by
  apply List.find?_eq_none.mpr
  intro test member
  obtain ⟨component, isComponent, isTest⟩ := List.mem_filterMap.mp member
  simpa using WrittenComponent.hasValue_iff.mp (values component isComponent) test isTest

/-- A word is read as a compound if it is derived as one and means it. -/
theorem ofWord_eq_ok_iff : Compound.ofWord word = .ok compound ↔ ReadsAs word compound := by
  rw [readsAs_iff]
  constructor
  · intro read
    obtain ⟨tag, rest, parts, readsTag⟩ := exists_tag word
    unfold Compound.ofWord at read
    rw [readsTag] at read
    dsimp only at read
    split at read
    · cases read
    · next found readsRest =>
      cases read
      obtain ⟨components, rfl, values, rfl⟩ := exists_written_of_readComponents parts readsRest
      exact ⟨⟨tag, components⟩, parts.symm, values, rfl⟩
  · rintro ⟨written, rfl, values, rfl⟩
    rw [ofWord_text, values.find?_eq_none]
    rfl

theorem exists_readsAs_iff : (∃ compound, ReadsAs word compound) ↔ IsCompoundText word := by
  simp only [readsAs_iff]
  constructor
  · rintro ⟨_, written, text, values, _⟩
    exact ⟨written, text, values⟩
  · rintro ⟨written, text, values⟩
    exact ⟨_, written, text, values, rfl⟩

end Words

/-! ## Selectors -/

theorem Chain.ofWords_eq_mapM (words : List (List Char)) :
    Chain.ofWords words = words.mapM Compound.ofWord := by
  induction words with
  | nil => rfl
  | cons word rest ih =>
      rw [Chain.ofWords, List.mapM_cons, ih]
      cases Compound.ofWord word with
      | error => rfl
      | ok => cases rest.mapM Compound.ofWord <;> rfl

/-- Words are read as a chain of what each of them means. -/
theorem Chain.ofWords_eq_ok_iff {words : List (List Char)} {chain : Chain} :
    Chain.ofWords words = .ok chain ↔ List.Forall₂ ReadsAs words chain := by
  rw [Chain.ofWords_eq_mapM]
  exact mapM_eq_ok_iff_forall₂ fun _ _ => ofWord_eq_ok_iff

theorem readChains_eq_mapM (pieces : List (List Char)) :
    readChains pieces = (pieces.map Text.words).mapM Chain.ofWords := by
  induction pieces with
  | nil => rfl
  | cons piece rest ih =>
      rw [readChains, List.map_cons, List.mapM_cons, ih]
      cases Chain.ofWords (Text.words piece) with
      | error => rfl
      | ok => cases (rest.map Text.words).mapM Chain.ofWords <;> rfl

/-- Every text has its words and no others. -/
theorem exists_hasChains (cs : List Char) :
    ∃ chains, ∀ other, HasChains cs other ↔ other = chains :=
  ⟨_, fun _ => hasChains_iff.trans eq_comm⟩

namespace Selector

variable {source : String} {chains : List (List (List Char))}

/-- Reading a selector is reading the words of its chains, of which there must be one at
least. -/
theorem parse_eq (has : HasChains source.toList chains) :
    parse source =
      if chains = [] then .error .empty else (chains.mapM Chain.ofWords).map Selector.mk := by
  rw [hasChains_iff] at has
  subst has
  unfold parse
  cases selectorPieces source.toList with
  | nil => rfl
  | cons piece rest =>
      rw [if_neg (by simp), ← readChains_eq_mapM]
      dsimp only
      cases readChains (piece :: rest) <;> rfl

/-- A selector text is read as what its words mean. -/
theorem parse_eq_ok_iff (has : HasChains source.toList chains) {selector : Selector} :
    parse source = .ok selector ↔
      chains ≠ [] ∧ List.Forall₂ (List.Forall₂ ReadsAs) chains selector.alternatives := by
  have means : chains.mapM Chain.ofWords = .ok selector.alternatives ↔
      List.Forall₂ (List.Forall₂ ReadsAs) chains selector.alternatives :=
    mapM_eq_ok_iff_forall₂ fun _ _ => Chain.ofWords_eq_ok_iff
  rw [parse_eq has, ← means]
  by_cases nothing : chains = []
  · simp [nothing]
  · rw [if_neg nothing]
    cases chains.mapM Chain.ofWords with
    | error failure => simp [Except.map]
    | ok alternatives => simp [Except.map, nothing, Selector.ext_iff]

/-- The selector language is the language of its grammar: no compound has two
derivations, exactly the texts whose words are all derived are read, and they are read
as what the derivations mean. -/
theorem parse_accepts_grammar (source : String) :
    Function.Injective WrittenCompound.text ∧
    ∃ chains, (∀ other, HasChains source.toList other ↔ other = chains) ∧
      ((∃ selector, parse source = .ok selector) ↔
        chains ≠ [] ∧ ∀ words ∈ chains, ∀ word ∈ words, IsCompoundText word) ∧
      ∀ selector, parse source = .ok selector ↔
        chains ≠ [] ∧ List.Forall₂ (List.Forall₂ ReadsAs) chains selector.alternatives := by
  refine ⟨WrittenCompound.text_injective, ?_⟩
  obtain ⟨chains, only⟩ := exists_hasChains source.toList
  have has : HasChains source.toList chains := (only chains).mpr rfl
  refine ⟨chains, only, ?_, fun _ => parse_eq_ok_iff has⟩
  simp only [← exists_readsAs_iff, ← exists_forall₂_iff]
  constructor
  · rintro ⟨selector, read⟩
    obtain ⟨nonempty, reads⟩ := (parse_eq_ok_iff has).mp read
    exact ⟨nonempty, selector.alternatives, reads⟩
  · rintro ⟨nonempty, alternatives, reads⟩
    exact ⟨⟨alternatives⟩, (parse_eq_ok_iff has).mpr ⟨nonempty, reads⟩⟩

example : parse "DIV.Main" = .ok ⟨[[⟨some "div", none, ["Main"], ∅⟩]]⟩ := by decide +kernel

end Selector

end Questionnaire
