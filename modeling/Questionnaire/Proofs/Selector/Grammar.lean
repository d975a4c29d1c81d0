/-
# The grammar of selectors

Here the selector language is described without a reader. A text is cut into chains
of words, and a word is a compound if it can be derived: a tag and then components,
each with the characters it is written with. A derivation keeps everything that was
written, so it gives back its text, and no text has two derivations. What a compound
means is told from its derivation: the first id, all classes in order, and the last
value of each attribute.
-/

import Questionnaire.Proofs.Dictionary
import Questionnaire.Proofs.FirstFailure
import Questionnaire.Proofs.Text.Runs
import Questionnaire.Selector.Parser

namespace Questionnaire

/-! ## Words -/

/-- A selector text consists of chains of words: it is cut at every comma, pieces of
white space alone are dropped, and each of the others consists of the words of its
chain. -/
def HasChains (cs : List Char) (chains : List (List (List Char))) : Prop :=
  ∃ pieces, Text.IsSplitAt ',' cs pieces ∧
    List.Forall₂ Text.HasWords (pieces.filter fun piece => !Text.isBlank piece) chains

/-- The words that are read are those of the text. -/
theorem hasChains_iff {cs : List Char} {chains : List (List (List Char))} :
    HasChains cs chains ↔ (selectorPieces cs).map Text.words = chains := by
  simp only [HasChains, Text.isSplitAt_iff, exists_eq_left', selectorPieces]
  apply forall₂_iff_map_eq
  exact fun _ _ => Text.hasWords_iff

/-! ## Derivations -/

/-- One character or more, all of which names may hold. -/
def IsIdentifier (name : List Char) : Prop :=
  name ≠ [] ∧ ∀ c ∈ name, isIdentifierCharacter c = true

instance (name : List Char) : Decidable (IsIdentifier name) :=
  decidable_of_iff (name ≠ [] ∧ name.all isIdentifierCharacter = true)
    (and_congr_right fun _ => List.all_eq_true)

/-- An ASCII letter, and then ASCII letters, digits and dashes. -/
def IsTagName (name : List Char) : Prop :=
  ∃ first rest, name = first :: rest ∧ Text.isAsciiLetter first = true ∧
    ∀ c ∈ rest, isTagCharacter c = true

/-- A text stands between two equal quotation marks, which is one mark at its start
and another one at its end. -/
def IsQuoted (raw : List Char) : Prop :=
  ∃ mark inner, (mark = '"' ∨ mark = '\'') ∧ raw = mark :: (inner ++ [mark])

/-- What a raw text stands for: the text between its quotation marks if it has such a
pair, and itself if not. -/
def Unquotes (raw value : List Char) : Prop :=
  (∃ mark, (mark = '"' ∨ mark = '\'') ∧ raw = mark :: (value ++ [mark])) ∨
    ¬ IsQuoted raw ∧ value = raw

/-- The tag of a compound as it is written. -/
inductive WrittenTag where
  /-- No tag at all. -/
  | absent
  /-- The mark `*`. -/
  | any
  /-- A name. -/
  | named (name : List Char) (isTag : IsTagName name)

/-- A component of a compound as it is written. The value of an attribute test is kept
in both forms, and it may be empty here. -/
inductive WrittenComponent where
  /-- The component `#name`. -/
  | id (name : List Char) (isName : IsIdentifier name)
  /-- The component `.name`. -/
  | hasClass (name : List Char) (isName : IsIdentifier name)
  /-- The component `[name=raw]`. -/
  | hasAttribute (name raw value : List Char) (isName : IsIdentifier name)
    (staysOpen : ∀ c ∈ raw, c ≠ ']') (unquotes : Unquotes raw value)

/-- A compound as it is written. -/
structure WrittenCompound where
  /-- What stands first. -/
  tag : WrittenTag
  /-- What follows. -/
  components : List WrittenComponent

/-- The text of a tag. -/
def WrittenTag.text : WrittenTag → List Char
  | .absent => []
  | .any => ['*']
  | .named name _ => name

/-- The characters that tags are written with. -/
def isTagTextCharacter (c : Char) : Bool :=
  isTagCharacter c || c == '*'

/-- The character that a component starts with. -/
def WrittenComponent.marker : WrittenComponent → Char
  | .id _ _ => '#'
  | .hasClass _ _ => '.'
  | .hasAttribute _ _ _ _ _ _ => '['

/-- The text of a component after its first character. -/
def WrittenComponent.body : WrittenComponent → List Char
  | .id name _ => name
  | .hasClass name _ => name
  | .hasAttribute name raw _ _ _ _ => name ++ '=' :: (raw ++ [']'])

/-- The text of a component. -/
def WrittenComponent.text (written : WrittenComponent) : List Char :=
  written.marker :: written.body

/-- The text of a compound. -/
def WrittenCompound.text (written : WrittenCompound) : List Char :=
  written.tag.text ++ written.components.flatMap WrittenComponent.text

/-- A component is no test for the empty value. -/
def WrittenComponent.HasValue : WrittenComponent → Prop
  | .hasAttribute _ _ value _ _ _ => value ≠ []
  | _ => True

/-- No component of a compound is a test for the empty value. -/
def WrittenCompound.HasValues (written : WrittenCompound) : Prop :=
  ∀ component ∈ written.components, component.HasValue

/-- A text that can be derived as a compound. -/
def IsCompoundText (word : List Char) : Prop :=
  ∃ written : WrittenCompound, written.text = word ∧ written.HasValues

/-! ## Faults -/

/-- What is wrong with a word that was read up to some place, told from the rest of it:
the rest starts no component with a value. Positions count the bytes before the place. -/
inductive IsFault (word before : List Char) : List Char → SelectorError → Prop
  /-- The rest starts with a character that starts no component. -/
  | unexpected {c : Char} {rest : List Char} : c ≠ '#' → c ≠ '.' → c ≠ '[' →
    IsFault word before (c :: rest)
      (.unexpectedCharacter c (String.ofList before).utf8ByteSize (String.ofList word))
  /-- No name follows the mark of an id or a class. -/
  | noName {marker : Char} {rest : List Char} : marker = '#' ∨ marker = '.' →
    Text.StopsAt isIdentifierCharacter rest →
    IsFault word before (marker :: rest)
      (.missingIdentifier marker (String.ofList before).utf8ByteSize (String.ofList word))
  /-- The word ends where the name of an attribute may go on. -/
  | openName {name : List Char} : (∀ c ∈ name, isIdentifierCharacter c = true) →
    IsFault word before ('[' :: name) (.unterminatedAttribute (String.ofList word))
  /-- Something else than a value follows the name of an attribute. -/
  | noEquals {name rest : List Char} {c : Char} :
    (∀ c ∈ name, isIdentifierCharacter c = true) →
    isIdentifierCharacter c = false → c ≠ '=' →
    IsFault word before ('[' :: (name ++ c :: rest))
      (.missingAttributeValue (String.ofList name) (String.ofList word))
  /-- An attribute test has no name. The position is that of the sign behind it. -/
  | noAttributeName {rest : List Char} :
    IsFault word before ('[' :: '=' :: rest)
      (.missingIdentifier '[' ((String.ofList before).utf8ByteSize + 1) (String.ofList word))
  /-- An attribute test is not closed. -/
  | openValue {name raw : List Char} : IsIdentifier name → (∀ c ∈ raw, c ≠ ']') →
    IsFault word before ('[' :: (name ++ '=' :: raw))
      (.unterminatedAttribute (String.ofList word))
  /-- An attribute test is for the empty value. -/
  | noValue {name raw rest : List Char} : IsIdentifier name → (∀ c ∈ raw, c ≠ ']') →
    Unquotes raw [] →
    IsFault word before ('[' :: (name ++ '=' :: (raw ++ ']' :: rest)))
      (.missingAttributeValue (String.ofList name) (String.ofList word))

/-! ## Meaning -/

/-- The letters in upper case, each with the same letter in lower case. -/
def letterCases : List (Char × Char) :=
  "ABCDEFGHIJKLMNOPQRSTUVWXYZ".toList.zip "abcdefghijklmnopqrstuvwxyz".toList

/-- The lower case of a character. Only the letters `A` to `Z` have another one. -/
def lowerLetter (c : Char) : Char :=
  (letterCases.lookup c).getD c

/-- The tag that a compound asks for. -/
def WrittenTag.name? : WrittenTag → Option String
  | .absent => none
  | .any => none
  | .named name _ => some (String.ofList (name.map lowerLetter))

/-- The id that a component asks for. -/
def WrittenComponent.id? : WrittenComponent → Option String
  | .id name _ => some (String.ofList name)
  | _ => none

/-- The class that a component asks for. -/
def WrittenComponent.class? : WrittenComponent → Option String
  | .hasClass name _ => some (String.ofList name)
  | _ => none

/-- The attribute that a component asks for, and the value that it wants. -/
def WrittenComponent.test? : WrittenComponent → Option (String × String)
  | .hasAttribute name _ value _ _ _ => some (String.ofList name, String.ofList value)
  | _ => none

/-- What a compound means, told from what is written. -/
structure WrittenCompound.Means (written : WrittenCompound) (compound : Compound) : Prop where
  /-- The tag is in lower case, and `*` is as good as no tag. -/
  tag : compound.tag = written.tag.name?
  /-- The first id counts. -/
  id : compound.id = (written.components.filterMap WrittenComponent.id?).head?
  /-- All classes count, in the order in which they are written. -/
  classes : compound.classes = written.components.filterMap WrittenComponent.class?
  /-- The last value of an attribute counts. -/
  attributes : ∀ name value, compound.attributes.get? name = some value ↔
    LastWith Prod.fst (name, value) (written.components.filterMap WrittenComponent.test?)

/-- A word is read as a compound: the compound is what the word means. -/
def ReadsAs (word : List Char) (compound : Compound) : Prop :=
  ∃ written : WrittenCompound, written.text = word ∧ written.HasValues ∧ written.Means compound

/-! ## Quotation marks -/

theorem unquote_of_marks {mark : Char} (isMark : mark = '"' ∨ mark = '\'') (inner : List Char) :
    unquote (mark :: (inner ++ [mark])) = inner := by
  obtain ⟨c, rest, parts⟩ := List.exists_cons_of_ne_nil (List.concat_ne_nil mark inner)
  have ends : (c :: rest).getLast? = some mark := by rw [← parts]; simp
  have front : (c :: rest).dropLast = inner := by rw [← parts]; simp
  rw [parts, unquote, ends, front]
  simp [isMark]

theorem unquote_of_not_isQuoted {raw : List Char} (bare : ¬ IsQuoted raw) : unquote raw = raw := by
  unfold unquote
  split
  · next first c rest =>
    split
    · next wrapped =>
      simp only [Bool.and_eq_true, Bool.or_eq_true, beq_iff_eq] at wrapped
      obtain ⟨isMark, ends⟩ := wrapped
      refine absurd ⟨first, (c :: rest).dropLast, isMark, ?_⟩ bare
      rw [List.dropLast_append_getLast? first ends]
    · rfl
  · rfl

/-- A raw text stands for exactly one value, and this is the one that is read. -/
theorem unquotes_iff {raw value : List Char} : Unquotes raw value ↔ unquote raw = value := by
  constructor
  · rintro (⟨mark, isMark, rfl⟩ | ⟨bare, rfl⟩)
    · exact unquote_of_marks isMark value
    · exact unquote_of_not_isQuoted bare
  · rintro rfl
    by_cases quoted : IsQuoted raw
    · obtain ⟨mark, inner, isMark, rfl⟩ := quoted
      exact Or.inl ⟨mark, isMark, by rw [unquote_of_marks isMark]⟩
    · exact Or.inr ⟨quoted, unquote_of_not_isQuoted quoted⟩

/-! ## One derivation for each text -/

namespace WrittenComponent

theorem marker_mem (written : WrittenComponent) : written.marker ∈ ['#', '.', '['] := by
  cases written <;> simp [marker]

/-- Components start with characters that no name holds. -/
theorem marker_not_identifier (written : WrittenComponent) :
    isIdentifierCharacter written.marker = false := by
  have outside : ['#', '.', '['].all (fun c => !isIdentifierCharacter c) = true := by
    decide +kernel
  simpa using List.all_eq_true.mp outside _ written.marker_mem

/-- Components start with characters that no tag holds. -/
theorem marker_not_tag (written : WrittenComponent) :
    isTagTextCharacter written.marker = false := by
  have outside : ['#', '.', '['].all (fun c => !isTagTextCharacter c) = true := by decide
  simpa using List.all_eq_true.mp outside _ written.marker_mem

/-- A class of characters ends before a component if it holds none of the characters that
components start with. -/
theorem stopsAt_text {inClass : Char → Bool}
    (outside : ∀ written : WrittenComponent, inClass written.marker = false)
    (next : WrittenComponent) (others : List WrittenComponent) (rest : List Char) :
    Text.StopsAt inClass ((next :: others).flatMap text ++ rest) :=
  Text.stopsAt_cons.mpr (outside next)

/-- Such a class ends before components with nothing behind them, even if there are
none. -/
theorem stopsAt_flatMap_text {inClass : Char → Bool}
    (outside : ∀ written : WrittenComponent, inClass written.marker = false)
    (components : List WrittenComponent) :
    Text.StopsAt inClass (components.flatMap text) := by
  cases components with
  | nil => exact Text.stopsAt_nil
  | cons next others => simpa using stopsAt_text outside next others []

/-- A component that is followed by no more of a name is found in its text. -/
theorem text_append_inj {first second : WrittenComponent} {rest remaining : List Char}
    (stops : Text.StopsAt isIdentifierCharacter rest)
    (stops' : Text.StopsAt isIdentifierCharacter remaining)
    (same : first.text ++ rest = second.text ++ remaining) :
    first = second ∧ rest = remaining := by
  have sameMarker : first.marker = second.marker := (List.cons.inj same).1
  have sameBody : first.body ++ rest = second.body ++ remaining := (List.cons.inj same).2
  have notEquals : isIdentifierCharacter '=' = false := by decide +kernel
  cases first with
  | id name isName =>
      cases second with
      | id other isName' =>
          obtain ⟨rfl, rfl⟩ := Text.run_unique isName.2 stops isName'.2 stops' sameBody
          exact ⟨rfl, rfl⟩
      | hasClass | hasAttribute => simp [marker] at sameMarker
  | hasClass name isName =>
      cases second with
      | hasClass other isName' =>
          obtain ⟨rfl, rfl⟩ := Text.run_unique isName.2 stops isName'.2 stops' sameBody
          exact ⟨rfl, rfl⟩
      | id | hasAttribute => simp [marker] at sameMarker
  | hasAttribute name raw value isName staysOpen unquotes =>
      cases second with
      | hasAttribute other raw' value' isName' staysOpen' unquotes' =>
          simp only [body, List.append_assoc, List.cons_append, List.nil_append] at sameBody
          obtain ⟨rfl, sameRest⟩ := Text.run_unique isName.2 (Text.stopsAt_cons.mpr notEquals)
            isName'.2 (Text.stopsAt_cons.mpr notEquals) sameBody
          -- The name and the sign after it are the same, so the raw texts are runs up to `]`.
          have sameRaw := (List.cons.inj sameRest).2
          have closing : ∀ {behind}, Text.StopsAt (fun c => c != ']') (']' :: behind) :=
            Text.stopsAt_cons.mpr rfl
          have inside : ∀ c ∈ raw, (c != ']') = true :=
            fun c member => bne_iff_ne.mpr (staysOpen c member)
          have inside' : ∀ c ∈ raw', (c != ']') = true :=
            fun c member => bne_iff_ne.mpr (staysOpen' c member)
          obtain ⟨rfl, closed⟩ := Text.run_unique inside closing inside' closing sameRaw
          obtain rfl : value = value' :=
            (unquotes_iff.mp unquotes).symm.trans (unquotes_iff.mp unquotes')
          exact ⟨rfl, (List.cons.inj closed).2⟩
      | id | hasClass => simp [marker] at sameMarker

theorem flatMap_text_injective :
    Function.Injective fun components : List WrittenComponent => components.flatMap text := by
  have stops := stopsAt_flatMap_text marker_not_identifier
  intro components
  induction components with
  | nil =>
      rintro (_ | ⟨second, others⟩) same
      · rfl
      · exact absurd same (List.cons_ne_nil _ _).symm
  | cons first rest ih =>
      rintro (_ | ⟨second, others⟩) same
      · exact absurd same (List.cons_ne_nil _ _)
      · obtain ⟨rfl, below⟩ := text_append_inj (stops rest) (stops others) same
        rw [ih below]

end WrittenComponent

theorem IsTagName.all {name : List Char} (isTag : IsTagName name) :
    ∀ c ∈ name, isTagCharacter c = true := by
  obtain ⟨first, rest, rfl, letter, others⟩ := isTag
  refine List.forall_mem_cons.mpr ⟨?_, others⟩
  simp [isTagCharacter, Text.isAsciiAlphanumeric, letter]

theorem IsTagName.ne_any {name : List Char} (isTag : IsTagName name) : name ≠ ['*'] := by
  obtain ⟨first, rest, rfl, letter, _⟩ := isTag
  rintro ⟨⟩
  exact absurd letter (by decide)

theorem IsTagName.ne_nil {name : List Char} (isTag : IsTagName name) : name ≠ [] := by
  obtain ⟨first, rest, rfl, _⟩ := isTag
  exact List.cons_ne_nil first rest

namespace WrittenTag

theorem text_injective : Function.Injective text := by
  intro first second same
  cases first with
  | absent =>
      cases second with
      | absent => rfl
      | any => exact absurd same (List.cons_ne_nil _ _).symm
      | named name isTag => exact absurd same.symm isTag.ne_nil
  | any =>
      cases second with
      | absent => exact absurd same (List.cons_ne_nil _ _)
      | any => rfl
      | named name isTag => exact absurd same.symm isTag.ne_any
  | named name isTag =>
      cases second with
      | absent => exact absurd same isTag.ne_nil
      | any => exact absurd same isTag.ne_any
      | named other isTag' =>
          obtain rfl : name = other := same
          rfl

theorem all_text (tag : WrittenTag) : ∀ c ∈ tag.text, isTagTextCharacter c = true := by
  cases tag with
  | absent => exact fun c member => absurd member List.not_mem_nil
  | any => exact List.all_eq_true.mp (by decide)
  | named name isTag =>
      intro c member
      rw [isTagTextCharacter, isTag.all c member, Bool.true_or]

end WrittenTag

/-- No text is derived in two ways. -/
theorem WrittenCompound.text_injective : Function.Injective WrittenCompound.text := by
  rintro ⟨tag, components⟩ ⟨tag', components'⟩ same
  have stops : ∀ components, Text.StopsAt isTagTextCharacter
      (List.flatMap WrittenComponent.text components) :=
    WrittenComponent.stopsAt_flatMap_text WrittenComponent.marker_not_tag
  obtain ⟨sameTag, below⟩ :=
    Text.run_unique tag.all_text (stops components) tag'.all_text (stops components') same
  rw [WrittenTag.text_injective sameTag, WrittenComponent.flatMap_text_injective below]

/-! ## One meaning for each derivation -/

/-- The test that a component is read as. -/
def WrittenComponent.component : WrittenComponent → Component
  | .id name _ => .id (String.ofList name)
  | .hasClass name _ => .hasClass (String.ofList name)
  | .hasAttribute name _ value _ _ _ => .hasAttribute (String.ofList name) (String.ofList value)

/-- The compound that is put together from the components. -/
def WrittenCompound.compound (written : WrittenCompound) : Compound :=
  (written.components.map WrittenComponent.component).foldl Compound.add
    { Compound.wildcard with tag := written.tag.name? }

namespace WrittenCompound

/-- Adding one more component at the end keeps what is put together in step with what
is meant. -/
theorem Means.add {tag : WrittenTag} {components : List WrittenComponent} {compound : Compound}
    (means : Means ⟨tag, components⟩ compound) (written : WrittenComponent) :
    Means ⟨tag, components ++ [written]⟩ (compound.add written.component) := by
  obtain ⟨tag, id, classes, attributes⟩ := means
  -- A component adds to one of the lists and leaves the other ones as they are.
  have silent : ∀ {α : Type} (part? : WrittenComponent → Option α), part? written = none →
      (components ++ [written]).filterMap part? = components.filterMap part? := by
    intro α part? absent
    rw [List.filterMap_append, List.filterMap_cons_none absent, List.filterMap_nil,
      List.append_nil]
  have spoken : ∀ {α : Type} (part? : WrittenComponent → Option α) (part : α),
      part? written = some part →
      (components ++ [written]).filterMap part? = components.filterMap part? ++ [part] := by
    intro α part? part present
    rw [List.filterMap_append, List.filterMap_cons_some present, List.filterMap_nil]
  cases written with
  | id name isName =>
      refine ⟨tag, ?_, ?_, ?_⟩
      · dsimp only at id ⊢
        rw [spoken WrittenComponent.id? _ rfl, List.head?_append, ← id]
        simp only [Compound.add, WrittenComponent.component]
        cases compound.id <;> rfl
      · rwa [silent _ rfl]
      · rwa [silent _ rfl]
  | hasClass name isName =>
      refine ⟨tag, ?_, ?_, ?_⟩
      · rwa [silent _ rfl]
      · rw [spoken WrittenComponent.class? _ rfl, ← classes]
        rfl
      · rwa [silent _ rfl]
  | hasAttribute name raw value isName staysOpen unquotes =>
      refine ⟨tag, ?_, ?_, ?_⟩
      · rwa [silent _ rfl]
      · rwa [silent _ rfl]
      · intro other wanted
        rw [spoken WrittenComponent.test? _ rfl, LastWith.concat_iff, ← attributes]
        refine (iff_of_eq (congrArg (· = some wanted) (Dictionary.get?_insert _))).trans ?_
        by_cases here : other = String.ofList name
        · simp [here, eq_comm]
        · simp [here, Ne.symm here]

/-- What is put together from the components of a derivation is what it means. -/
theorem means_compound (written : WrittenCompound) : written.Means written.compound := by
  obtain ⟨tag, components⟩ := written
  induction components using List.reverseRecOn with
  | nil =>
      refine ⟨rfl, rfl, rfl, ?_⟩
      intro name value
      exact iff_of_false (by rintro ⟨⟩) LastWith.not_nil
  | append_singleton components last ih =>
      have grown : compound ⟨tag, components ++ [last]⟩ =
          (compound ⟨tag, components⟩).add last.component := by
        simp [compound]
      rw [grown]
      exact ih.add last

/-- A derivation means one compound only. -/
theorem Means.unique {written : WrittenCompound} {first second : Compound}
    (means : written.Means first) (means' : written.Means second) : first = second := by
  have sameAttributes : first.attributes = second.attributes := by
    apply Dictionary.ext_get?
    intro name
    apply Option.ext
    intro value
    exact (means.attributes name value).trans (means'.attributes name value).symm
  exact Compound.ext (means.tag.trans means'.tag.symm) (means.id.trans means'.id.symm)
    (means.classes.trans means'.classes.symm) sameAttributes

end WrittenCompound

/-- A word is read as what is put together from its derivation. -/
theorem readsAs_iff {word : List Char} {compound : Compound} :
    ReadsAs word compound ↔
      ∃ written : WrittenCompound, written.text = word ∧ written.HasValues ∧
        written.compound = compound := by
  constructor
  · rintro ⟨written, text, values, means⟩
    exact ⟨written, text, values, written.means_compound.unique means⟩
  · rintro ⟨written, text, values, rfl⟩
    exact ⟨written, text, values, written.means_compound⟩

end Questionnaire
