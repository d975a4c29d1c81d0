/-
# Union and composition of queries

A comma in a selector text stands for the union of queries and a blank for their
composition. Both laws hold for arbitrary texts. Nothing is assumed about where a comma
or a blank falls, so it may cut a bracketed value in two; what counts is whether the two
sides can be read as they stand then. One side of a comma that cannot be read voids the
whole query, and a side without any words adds nothing. Together with what single words
find, the laws determine every query.
-/

import Questionnaire.Proofs.Selector.Descent
import Questionnaire.Proofs.Selector.Fault
import Questionnaire.Selector.Query

namespace Questionnaire

open Html

/-! ## Chains of texts that are put together -/

/-- The chains of two texts stay apart at a comma between them. -/
theorem HasChains.append_comma {first second : List Char}
    {chains chains' : List (List (List Char))}
    (has : HasChains first chains) (has' : HasChains second chains') :
    HasChains (first ++ ',' :: second) (chains ++ chains') := by
  rw [hasChains_iff] at has has' ⊢
  have pieces : Text.splitAtEvery (fun c => c == ',') (first ++ ',' :: second) =
      Text.splitAtEvery (fun c => c == ',') first ++ Text.splitAtEvery (fun c => c == ',') second := by
    apply Text.splitAtEvery_append
    exact beq_self_eq_true ','
  rw [selectorPieces, pieces, List.filter_append, List.map_append]
  exact congrArg₂ _ has has'

/-- A text without commas that is not blank is one chain. -/
theorem hasChains_singleton {cs : List Char} (whole : ',' ∉ cs)
    (visible : Text.isBlank cs = false) : HasChains cs [Text.words cs] := by
  have only : ∀ c ∈ cs, (c == ',') = false := by
    intro c member
    exact beq_eq_false_iff_ne.mpr fun same => whole (same ▸ member)
  rw [hasChains_iff, selectorPieces, Text.splitAtEvery_of_none only]
  simp [visible]

/-- A text without chains consists of commas and white space. -/
theorem HasChains.eq_nil_iff {cs : List Char} {chains : List (List (List Char))}
    (has : HasChains cs chains) :
    chains = [] ↔ ∀ c ∈ cs, c = ',' ∨ Text.isWhiteSpace c = true := by
  rw [← hasChains_nil_iff, hasChains_iff, hasChains_iff.mp has]

/-! ## What a text of given chains finds -/

/-- A selector text is sound if it is blank or a selector. -/
def Selector.IsSound (source : String) : Prop :=
  (∀ c ∈ source.toList, c = ',' ∨ Text.isWhiteSpace c = true) ∨
    ∃ selector, parse source = .ok selector

/-- The matches of a chain that is given by its words. Words that are no chain find
nothing. -/
def queryWords (words : List (List Char)) (roots : List Place) : List Place :=
  match Chain.ofWords words with
  | .ok chain => chain.select roots
  | .error _ => []

section Chains

variable {source : String} {chains : List (List (List Char))}

/-- A text is sound if all its chains can be read. -/
theorem Selector.isSound_iff (has : HasChains source.toList chains) :
    IsSound source ↔ ∀ words ∈ chains, ∃ chain, Chain.ofWords words = .ok chain := by
  rw [IsSound, ← has.eq_nil_iff, parse_eq has, ← exists_forall₂_iff]
  simp only [← mapM_eq_ok_iff]
  by_cases empty : chains = []
  · subst empty
    simp [List.mapM_nil, pure, Except.pure]
  · simp only [empty, if_false, false_or]
    cases chains.mapM Chain.ofWords <;> simp [Except.map]

/-- A sound text finds what its chains find, one after the other. -/
theorem queryAll_of_isSound (has : HasChains source.toList chains)
    (sound : Selector.IsSound source) (roots : List Place) :
    queryAll source roots = chains.flatMap fun words => queryWords words roots := by
  obtain ⟨alternatives, reads⟩ := exists_forall₂_iff.mpr ((Selector.isSound_iff has).mp sound)
  have selected : queryAll source roots =
      alternatives.flatMap fun chain => Chain.select chain roots := by
    rw [queryAll, Selector.parse_eq has, mapM_eq_ok_iff.mpr reads]
    by_cases empty : chains = []
    · subst empty
      obtain rfl := List.forall₂_nil_left_iff.mp reads
      rfl
    · rw [if_neg empty]
      rfl
  have agree : alternatives.flatMap (fun chain => Chain.select chain roots) =
      chains.flatMap fun words => queryWords words roots := by
    clear selected has sound
    induction reads with
    | nil => rfl
    | cons isRead _ ih => rw [List.flatMap_cons, List.flatMap_cons, ih, queryWords, isRead]
  exact selected.trans agree

/-- A text that is not sound finds nothing. -/
theorem queryAll_of_not_isSound (unsound : ¬ Selector.IsSound source) (roots : List Place) :
    queryAll source roots = [] := by
  unfold queryAll
  split
  · rfl
  · next selector read => exact absurd (Or.inr ⟨selector, read⟩) unsound

/-- A blank text finds nothing. -/
theorem queryAll_of_blank (blank : ∀ c ∈ source.toList, c = ',' ∨ Text.isWhiteSpace c = true)
    (roots : List Place) : queryAll source roots = [] :=
  queryAll_of_isSound (hasChains_nil_iff.mpr blank) (Or.inl blank) roots

/-- A text of one chain finds what the words of the chain find, even if they cannot be
read. -/
theorem queryAll_singleton {words : List (List Char)} (has : HasChains source.toList [words])
    (roots : List Place) : queryAll source roots = queryWords words roots := by
  by_cases sound : Selector.IsSound source
  · rw [queryAll_of_isSound has sound, List.flatMap_singleton]
  · rw [queryAll_of_not_isSound sound]
    rw [Selector.isSound_iff has, List.forall_mem_singleton] at sound
    unfold queryWords
    split
    · next chain read => exact absurd ⟨chain, read⟩ sound
    · rfl

end Chains

/-! ## Union -/

section Union

variable (first second : String)

/-- The chains of two texts, and of the text that joins them by a comma. -/
theorem exists_chains_comma :
    ∃ chains chains', HasChains first.toList chains ∧ HasChains second.toList chains' ∧
      HasChains (first ++ "," ++ second).toList (chains ++ chains') := by
  obtain ⟨chains, only⟩ := exists_hasChains first.toList
  obtain ⟨chains', only'⟩ := exists_hasChains second.toList
  have has := (only chains).mpr rfl
  have has' := (only' chains').mpr rfl
  refine ⟨chains, chains', has, has', ?_⟩
  simpa using has.append_comma has'

/-- Texts that are joined by a comma are sound together if each of them is. -/
theorem Selector.isSound_comma_iff :
    IsSound (first ++ "," ++ second) ↔ IsSound first ∧ IsSound second := by
  obtain ⟨chains, chains', has, has', joined⟩ := exists_chains_comma first second
  rw [isSound_iff has, isSound_iff has', isSound_iff joined, List.forall_mem_append]

/-- Sound texts that are joined by a comma find what each of them finds. -/
theorem queryAll_comma (sound : Selector.IsSound first) (sound' : Selector.IsSound second)
    (roots : List Place) :
    queryAll (first ++ "," ++ second) roots = queryAll first roots ++ queryAll second roots := by
  obtain ⟨chains, chains', has, has', joined⟩ := exists_chains_comma first second
  have together := (Selector.isSound_comma_iff first second).mpr ⟨sound, sound'⟩
  rw [queryAll_of_isSound has sound, queryAll_of_isSound has' sound',
    queryAll_of_isSound joined together, List.flatMap_append]

end Union

section Pieces

variable {pieces : List (List Char)}

/-- The first of several pieces is joined to the others by a comma. -/
theorem ofList_intercalate_cons (first : List Char) (nonempty : pieces ≠ []) :
    String.ofList (List.intercalate [','] (first :: pieces)) =
      String.ofList first ++ "," ++ String.ofList (List.intercalate [','] pieces) := by
  rw [List.intercalate_cons_of_ne_nil nonempty, String.ofList_append, String.ofList_append]

/-- A text is sound if all its pieces between commas are. -/
theorem Selector.isSound_pieces_iff :
    IsSound (String.ofList (List.intercalate [','] pieces)) ↔
      ∀ piece ∈ pieces, IsSound (String.ofList piece) := by
  induction pieces with
  | nil => exact iff_of_true (Or.inl (by simp)) (by simp)
  | cons first rest ih =>
      by_cases last : rest = []
      · rw [last, List.intercalate_singleton, List.forall_mem_singleton]
      · rw [ofList_intercalate_cons first last, isSound_comma_iff, ih, List.forall_mem_cons]

/-- Sound pieces between commas find, taken together, what each of them finds. -/
theorem queryAll_pieces (sound : ∀ piece ∈ pieces, Selector.IsSound (String.ofList piece))
    (roots : List Place) :
    queryAll (String.ofList (List.intercalate [','] pieces)) roots =
      pieces.flatMap fun piece => queryAll (String.ofList piece) roots := by
  induction pieces with
  | nil => rfl
  | cons first rest ih =>
      obtain ⟨soundFirst, soundRest⟩ := List.forall_mem_cons.mp sound
      by_cases last : rest = []
      · rw [last, List.intercalate_singleton, List.flatMap_singleton]
      · have soundJoined := Selector.isSound_pieces_iff.mpr soundRest
        rw [ofList_intercalate_cons first last, queryAll_comma _ _ soundFirst soundJoined,
          ih soundRest, List.flatMap_cons]

end Pieces

/-! ## Composition -/

/-- Taking one chain after another is taking the chain of all their steps. -/
theorem Chain.select_append (outer inner : Chain) (roots : List Place) :
    Chain.select (outer ++ inner) roots = inner.select (outer.select roots) := by
  induction outer generalizing roots with
  | nil => rfl
  | cons compound rest ih => exact ih (compound.select roots)

/-- Without roots nothing is found. -/
theorem Chain.select_no_roots (chain : Chain) : chain.select [] = [] := by
  induction chain with
  | nil => rfl
  | cons compound rest ih => exact ih

/-- More words look inside what the words before them find. -/
theorem queryWords_append (outer inner : List (List Char)) (roots : List Place) :
    queryWords (outer ++ inner) roots = queryWords inner (queryWords outer roots) := by
  simp only [queryWords, Chain.ofWords_eq_mapM, List.mapM_append]
  cases outer.mapM Compound.ofWord with
  | error failure =>
      -- Nothing is found by the outer words, and nothing inside of nothing.
      cases inner.mapM Compound.ofWord with
      | error _ => rfl
      | ok chain => exact (Chain.select_no_roots chain).symm
  | ok chain =>
      cases inner.mapM Compound.ofWord with
      | error failure => rfl
      | ok chain' => exact Chain.select_append chain chain' roots

/-- One word finds what its compound selects. -/
theorem queryWords_singleton {word : List Char} {compound : Compound}
    (reads : ReadsAs word compound) (roots : List Place) :
    queryWords [word] roots = compound.select roots := by
  have read : Chain.ofWords [word] = .ok [compound] :=
    Chain.ofWords_eq_ok_iff.mpr (List.Forall₂.cons reads List.Forall₂.nil)
  rw [queryWords, read]
  rfl

/-- Two texts of one chain each are one chain if white space stands between them. -/
theorem hasChains_space {first second : String} (whole : ',' ∉ first.toList)
    (whole' : ',' ∉ second.toList) (visible : Text.isBlank first.toList = false) :
    HasChains (first ++ " " ++ second).toList
      [Text.words first.toList ++ Text.words second.toList] := by
  have joined : (first ++ " " ++ second).toList = first.toList ++ ' ' :: second.toList := by simp
  have white : Text.isWhiteSpace ' ' = true := by decide
  rw [joined, ← Text.words_append_white white]
  apply hasChains_singleton
  · simp [whole, whole']
  · rw [Text.isBlank, List.all_append, ← Text.isBlank, visible, Bool.false_and]

/-- The laws of queries by text. A comma unites what its two sides find, provided each of
them is blank or a selector, and with any other side nothing at all is found. White space
between two texts without commas, which may be selectors or not, looks for the second one
inside what the first one finds. A text of one word finds what the compound selects that
it is read as. -/
theorem queryAll_unites_and_composes (roots : List Place) (first second : String) :
    (Selector.IsSound first ∧ Selector.IsSound second →
      queryAll (first ++ "," ++ second) roots = queryAll first roots ++ queryAll second roots) ∧
    (¬ Selector.IsSound first ∨ ¬ Selector.IsSound second →
      queryAll (first ++ "," ++ second) roots = []) ∧
    (',' ∉ first.toList → ',' ∉ second.toList →
      Text.isBlank first.toList = false → Text.isBlank second.toList = false →
      queryAll (first ++ " " ++ second) roots = queryAll second (queryAll first roots)) ∧
    ∀ word compound, HasChains first.toList [[word]] → ReadsAs word compound →
      queryAll first roots = compound.select roots := by
  refine ⟨?_, ?_, ?_, ?_⟩
  · rintro ⟨sound, sound'⟩
    exact queryAll_comma first second sound sound' roots
  · intro unsound
    apply queryAll_of_not_isSound
    rw [Selector.isSound_comma_iff]
    exact not_and_or.mpr unsound
  · intro whole whole' visible visible'
    rw [queryAll_singleton (hasChains_space whole whole' visible), queryWords_append,
      queryAll_singleton (hasChains_singleton whole visible),
      queryAll_singleton (hasChains_singleton whole' visible')]
  · intro word compound has reads
    rw [queryAll_singleton has, queryWords_singleton reads]

end Questionnaire
