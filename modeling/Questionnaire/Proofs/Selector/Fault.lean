/-
# The first fault of a selector

The reader of selectors gives up where it cannot go on. That place is told here by
the grammar alone: it stands in the first word that cannot be derived as a compound,
behind the longest beginning of this word that can. What follows this beginning says
what is wrong. Nothing is assumed about how many faults a text has.
-/

import Questionnaire.Proofs.Selector.Reading

namespace Questionnaire

/-- A word is cut behind its longest beginning that can be derived as a compound, which
may be the empty one. -/
structure IsCutBehindCompound (word before rest : List Char) : Prop where
  /-- The two parts are the word. -/
  parts : word = before ++ rest
  /-- The beginning can be derived. -/
  compound : IsCompoundText before
  /-- No longer beginning can be derived. -/
  longest : ∀ other, other <+: word → IsCompoundText other → other.length ≤ before.length

/-- An error says what is wrong with the first word of a text that cannot be derived. -/
def IsFirstFault (cs : List Char) (error : SelectorError) : Prop :=
  ∃ chains earlier word later, HasChains cs chains ∧
    chains.flatten = earlier ++ word :: later ∧
    (∀ other ∈ earlier, IsCompoundText other) ∧ ¬ IsCompoundText word ∧
    ∃ before rest, IsCutBehindCompound word before rest ∧ IsFault word before rest error

/-! ## Where reading stops -/

/-- Reading the rest of a word stops with an error at a rest of this rest. -/
inductive StopsWith (word : List Char) : List Char → List Char → SelectorError → Prop
  | here {first : Char} {rest : List Char} {error : SelectorError} :
    readComponent word first rest = .error error →
    StopsWith word (first :: rest) (first :: rest) error
  | behind {first : Char} {rest remaining tail : List Char} {component : Component}
    {error : SelectorError} :
    readComponent word first rest = .ok (component, remaining) →
    StopsWith word remaining tail error → StopsWith word (first :: rest) tail error

section Components

variable {word rest tail : List Char} {error : SelectorError}

theorem exists_stopsWith (fails : readComponents word rest = .error error) :
    ∃ tail, StopsWith word rest tail error := by
  induction rest using readComponents.induct word with
  | case1 =>
      rw [readComponents] at fails
      cases fails
  | case2 first rest other failsFirst =>
      rw [readComponents_cons_of_error failsFirst] at fails
      cases fails
      exact ⟨_, .here failsFirst⟩
  | case3 first rest component remaining readFirst other failsOthers ih =>
      rw [readComponents_cons_of_ok readFirst, failsOthers] at fails
      cases fails
      obtain ⟨tail, stops⟩ := ih failsOthers
      exact ⟨tail, .behind readFirst stops⟩
  | case4 first rest component remaining readFirst others readOthers =>
      rw [readComponents_cons_of_ok readFirst, readOthers] at fails
      cases fails

/-- What was read before reading stops is written as components, and there is a fault
behind them. -/
theorem StopsWith.exists_written {before : List Char} (stops : StopsWith word rest tail error)
    (parts : word = before ++ rest) :
    ∃ components : List WrittenComponent,
      rest = components.flatMap WrittenComponent.text ++ tail ∧
      (∀ component ∈ components, component.HasValue) ∧
      IsFault word (before ++ components.flatMap WrittenComponent.text) tail error := by
  induction stops generalizing before with
  | here fails =>
      exact ⟨[], rfl, by simp, by simpa using (readComponent_eq_error_iff parts).mp fails⟩
  | @behind first rest remaining tail component error read _ ih =>
      obtain ⟨written, text, hasValue, _⟩ := exists_written_of_readComponent parts read
      have below : word = (before ++ written.text) ++ remaining := by
        rw [parts, text, List.append_assoc]
      obtain ⟨components, rfl, values, fault⟩ := ih below
      refine ⟨written :: components, ?_, List.forall_mem_cons.mpr ⟨hasValue, values⟩, ?_⟩
      · rw [text, List.flatMap_cons, List.append_assoc]
      · simpa [List.append_assoc] using fault

theorem StopsWith.length_le (stops : StopsWith word rest tail error) :
    tail.length ≤ rest.length := by
  induction stops with
  | here => exact Nat.le_refl _
  | behind read _ ih => exact ih.trans (Nat.le_of_lt (length_readComponent_lt read))

theorem exists_readNamed {name : List Char} (word rest : List Char) (marker : Char)
    (build : String → Component) (isName : IsIdentifier name) :
    ∃ component remaining,
      readNamed word marker build (name ++ rest) = .ok (component, remaining) ∧
      remaining.length ≤ rest.length ∧
      (Text.StopsAt isIdentifierCharacter rest → remaining = rest) := by
  obtain ⟨run, remaining, rfl, inside, stops⟩ := Text.exists_run isIdentifierCharacter rest
  have isName' : IsIdentifier (name ++ run) :=
    ⟨List.append_ne_nil_of_left_ne_nil isName.1 run,
      List.forall_mem_append.mpr ⟨isName.2, inside⟩⟩
  refine ⟨build (String.ofList (name ++ run)), remaining, ?_, by simp, ?_⟩
  · rw [← List.append_assoc]
    exact readNamed_name marker build isName' stops
  · intro atEnd
    rw [Text.run_eq_nil inside atEnd, List.nil_append]

/-- A written component is read whatever follows it, if perhaps together with more
characters of its name. -/
theorem exists_readComponent (word rest : List Char) (written : WrittenComponent)
    (hasValue : written.HasValue) :
    ∃ component remaining,
      readComponent word written.marker (written.body ++ rest) = .ok (component, remaining) ∧
      remaining.length ≤ rest.length ∧
      (Text.StopsAt isIdentifierCharacter rest → remaining = rest) := by
  cases written with
  | id name isName => exact exists_readNamed word rest '#' .id isName
  | hasClass name isName => exact exists_readNamed word rest '.' .hasClass isName
  | hasAttribute name raw value isName staysOpen unquotes =>
      exact ⟨_, rest, readComponent_text _ hasValue trivial, Nat.le_refl _, fun _ => rfl⟩

/-- Reading does not stop within components that are written. -/
theorem StopsWith.length_le_of_written {components : List WrittenComponent} {behind : List Char}
    (stops : StopsWith word rest tail error)
    (parts : rest = components.flatMap WrittenComponent.text ++ behind)
    (values : ∀ component ∈ components, component.HasValue) :
    tail.length ≤ behind.length := by
  induction components generalizing rest with
  | nil =>
      obtain rfl : rest = behind := parts
      exact stops.length_le
  | cons written others ih =>
      obtain ⟨hasValue, values⟩ := List.forall_mem_cons.mp values
      obtain ⟨component, remaining, read, shorter, undisturbed⟩ := exists_readComponent word
        (others.flatMap WrittenComponent.text ++ behind) written hasValue
      rw [List.flatMap_cons, List.append_assoc, WrittenComponent.text, List.cons_append] at parts
      subst parts
      cases stops with
      | here fails =>
          rw [read] at fails
          cases fails
      | behind read' stops =>
          rw [read] at read'
          cases read'
          cases others with
          | nil => exact stops.length_le.trans shorter
          | cons next more =>
              -- The next component starts with a character that ends the one before it.
              have ends := WrittenComponent.stopsAt_text WrittenComponent.marker_not_identifier
                next more behind
              exact ih stops (undisturbed ends) values

end Components

/-! ## Faults of words -/

section Words

variable {word before rest : List Char} {error : SelectorError}

theorem length_readTag_le (tag : WrittenTag) (rest : List Char) :
    (readTag (tag.text ++ rest)).2.length ≤ rest.length := by
  cases tag with
  | absent =>
      obtain ⟨tag, behind, rfl, readsTag⟩ := exists_tag rest
      rw [WrittenTag.text, List.nil_append, readsTag, List.length_append]
      exact Nat.le_add_left _ _
  | any => exact Nat.le_refl _
  | named name isTag =>
      obtain ⟨run, behind, rfl, inside, stops⟩ := Text.exists_run isTagCharacter rest
      have isTag' : IsTagName (name ++ run) := by
        obtain ⟨first, others, rfl, letter, allowed⟩ := isTag
        exact ⟨first, others ++ run, rfl, letter, List.forall_mem_append.mpr ⟨allowed, inside⟩⟩
      rw [WrittenTag.text, ← List.append_assoc, readTag_name isTag' stops, List.length_append]
      exact Nat.le_add_left _ _

/-- Where reading a word fails, it fails behind the longest beginning that can be
derived. -/
theorem exists_cut_of_ofWord (fails : Compound.ofWord word = .error error) :
    ∃ before rest, IsCutBehindCompound word before rest ∧ IsFault word before rest error := by
  obtain ⟨tag, below, parts, readsTag⟩ := exists_tag word
  have failsBelow : readComponents word below = .error error := by
    unfold Compound.ofWord at fails
    rw [readsTag] at fails
    dsimp only at fails
    split at fails
    · next other failsBelow =>
      cases fails
      exact failsBelow
    · cases fails
  obtain ⟨tail, stops⟩ := exists_stopsWith failsBelow
  obtain ⟨components, text, values, fault⟩ := stops.exists_written parts
  have cut : word = (tag.text ++ components.flatMap WrittenComponent.text) ++ tail := by
    rw [parts, text, List.append_assoc]
  refine ⟨_, tail, ⟨cut, ⟨⟨tag, components⟩, rfl, values⟩, ?_⟩, fault⟩
  rintro _ ⟨behind, same⟩ ⟨⟨tag', components'⟩, rfl, values'⟩
  -- It is enough that reading does not stop within any beginning that can be derived.
  suffices notWithin : tail.length ≤ behind.length by
    have lengths := congrArg List.length (cut.symm.trans same.symm)
    simp only [WrittenCompound.text, List.length_append] at lengths notWithin ⊢
    omega
  rw [WrittenCompound.text, List.append_assoc] at same
  cases components' with
  | nil =>
      have tagRead := length_readTag_le tag' behind
      rw [show tag'.text ++ behind = word from same, readsTag] at tagRead
      exact stops.length_le.trans tagRead
  | cons next others =>
      have ends := WrittenComponent.stopsAt_text WrittenComponent.marker_not_tag next others behind
      have readsTag' := readTag_text tag' ends
      rw [show tag'.text ++ ((next :: others).flatMap WrittenComponent.text ++ behind) = word
        from same, readsTag] at readsTag'
      exact stops.length_le_of_written (Prod.ext_iff.mp readsTag').2 values'

/-- A word is cut behind its longest derivable beginning in one way only. -/
theorem IsCutBehindCompound.unique {before' rest' : List Char}
    (cut : IsCutBehindCompound word before rest) (cut' : IsCutBehindCompound word before' rest') :
    before = before' ∧ rest = rest' := by
  have shorter := cut'.longest before ⟨rest, cut.parts.symm⟩ cut.compound
  have longer := cut.longest before' ⟨rest', cut'.parts.symm⟩ cut'.compound
  exact List.append_inj (cut.parts.symm.trans cut'.parts) (Nat.le_antisymm shorter longer)

/-- One cut has one fault. -/
theorem IsFault.unique {error' : SelectorError} (parts : word = before ++ rest)
    (fault : IsFault word before rest error) (fault' : IsFault word before rest error') :
    error = error' := by
  cases rest with
  | nil => cases fault
  | cons first rest =>
      have fails := readComponent_fault fault parts
      rw [readComponent_fault fault' parts] at fails
      cases fails
      rfl

/-- Reading a word fails with what is wrong behind its longest derivable beginning. -/
theorem ofWord_eq_error_iff :
    Compound.ofWord word = .error error ↔
      ∃ before rest, IsCutBehindCompound word before rest ∧ IsFault word before rest error := by
  refine ⟨exists_cut_of_ofWord, ?_⟩
  rintro ⟨before, rest, cut, fault⟩
  cases outcome : Compound.ofWord word with
  | ok compound =>
      -- If the word is a compound, nothing is left behind its longest beginning.
      have compoundWord := exists_readsAs_iff.mp ⟨compound, ofWord_eq_ok_iff.mp outcome⟩
      have whole := cut.longest word (List.prefix_refl word) compoundWord
      rw [cut.parts, List.length_append] at whole
      obtain rfl : rest = [] := List.eq_nil_of_length_eq_zero (by omega)
      cases fault
  | error other =>
      obtain ⟨before', rest', cut', fault'⟩ := exists_cut_of_ofWord outcome
      obtain ⟨rfl, rfl⟩ := cut'.unique cut
      rw [fault'.unique cut.parts fault]

end Words

/-! ## Faults of selectors -/

/-- A text has no chains if it consists of commas and white space. -/
theorem hasChains_nil_iff {cs : List Char} :
    HasChains cs [] ↔ ∀ c ∈ cs, c = ',' ∨ Text.isWhiteSpace c = true := by
  have blank : ∀ pieces : List (List Char),
      pieces.filter (fun piece => !Text.isBlank piece) = [] ↔
        ∀ piece ∈ pieces, ∀ c ∈ piece, Text.isWhiteSpace c = true := by
    intro pieces
    simp [List.filter_eq_nil_iff, Text.isBlank]
  simp only [HasChains, List.forall₂_nil_right_iff, blank]
  constructor
  · rintro ⟨pieces, split, white⟩ c member
    rw [← split.joined] at member
    rcases Text.mem_intercalate member with separates | ⟨piece, isPiece, inPiece⟩
    · exact Or.inl separates
    · exact Or.inr (white piece isPiece c inPiece)
  · intro allowed
    have split := Text.isSplitAt_splitAtEvery ',' cs
    refine ⟨_, split, fun piece isPiece c inPiece => ?_⟩
    have member : c ∈ List.intercalate [','] _ := Text.mem_intercalate_of_mem isPiece inPiece
    rw [split.joined] at member
    exact (allowed c member).resolve_left (split.whole piece isPiece c inPiece)

theorem IsFault.ne_empty {word before rest : List Char} {error : SelectorError}
    (fault : IsFault word before rest error) : error ≠ .empty := by
  cases fault <;> exact SelectorError.noConfusion

theorem IsFirstFault.ne_empty {cs : List Char} {error : SelectorError}
    (first : IsFirstFault cs error) : error ≠ .empty := by
  obtain ⟨_, _, _, _, _, _, _, _, _, _, _, fault⟩ := first
  exact fault.ne_empty

/-- Reading chains of words fails with what is wrong with the first word of all that
cannot be derived. -/
theorem mapM_ofWords_eq_error_iff {cs : List Char} {chains : List (List (List Char))}
    (has : HasChains cs chains) {error : SelectorError} :
    chains.mapM Chain.ofWords = .error error ↔ IsFirstFault cs error := by
  have flat : chains.mapM Chain.ofWords = .error error ↔
      chains.flatten.mapM Compound.ofWord = .error error := by
    rw [mapM_flatten, ← funext Chain.ofWords_eq_mapM]
    cases chains.mapM Chain.ofWords <;> simp [Except.map]
  simp only [flat, mapM_eq_error_iff, ofWord_eq_ok_iff, exists_readsAs_iff, ofWord_eq_error_iff]
  constructor
  · rintro ⟨earlier, word, later, parts, derived, before, rest, cut, fault⟩
    have underivable : ¬ IsCompoundText word := by
      rw [← exists_readsAs_iff]
      rintro ⟨compound, reads⟩
      have fails := ofWord_eq_error_iff.mpr ⟨before, rest, cut, fault⟩
      rw [ofWord_eq_ok_iff.mpr reads] at fails
      cases fails
    exact ⟨chains, earlier, word, later, has, parts, derived, underivable, before, rest, cut,
      fault⟩
  · rintro ⟨chains', earlier, word, later, has', parts, derived, _, before, rest, cut, fault⟩
    obtain rfl : chains' = chains := (hasChains_iff.mp has').symm.trans (hasChains_iff.mp has)
    exact ⟨earlier, word, later, parts, derived, before, rest, cut, fault⟩

namespace Selector

/-- Whatever is refused is refused for its first fault: for having no words, and else
for what is wrong behind the longest derivable beginning of the first word that cannot
be derived. -/
theorem parse_refuses_first_fault (source : String) :
    (parse source = .error .empty ↔
      ∀ c ∈ source.toList, c = ',' ∨ Text.isWhiteSpace c = true) ∧
    ∀ error, parse source = .error error ↔
      (error = .empty ∧ ∀ c ∈ source.toList, c = ',' ∨ Text.isWhiteSpace c = true) ∨
        IsFirstFault source.toList error := by
  obtain ⟨chains, only⟩ := exists_hasChains source.toList
  have has : HasChains source.toList chains := (only chains).mpr rfl
  have wordless : (∀ c ∈ source.toList, c = ',' ∨ Text.isWhiteSpace c = true) ↔ chains = [] :=
    hasChains_nil_iff.symm.trans ((only []).trans eq_comm)
  have refused : ∀ error, parse source = .error error ↔
      (error = .empty ∧ chains = []) ∨ IsFirstFault source.toList error := by
    intro error
    rw [parse_eq has, ← mapM_ofWords_eq_error_iff has]
    by_cases nothing : chains = []
    · subst nothing
      simp [List.mapM_nil, pure, Except.pure, eq_comm]
    · rw [if_neg nothing]
      cases chains.mapM Chain.ofWords <;> simp [Except.map, nothing]
  rw [wordless]
  refine ⟨?_, refused⟩
  rw [refused]
  constructor
  · rintro (⟨_, nothing⟩ | first)
    · exact nothing
    · exact absurd rfl first.ne_empty
  · intro nothing
    exact Or.inl ⟨rfl, nothing⟩

end Selector

end Questionnaire
