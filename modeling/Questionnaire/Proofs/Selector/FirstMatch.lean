/-
# The first match of a query

The matches of a chain are neither in document order nor free of repeats, because they
are listed by the way on which they are reached. Their head is nevertheless the earliest
of them. It is reached through the first step that leads anywhere; a later step lies
either inside this one, and then all that is found below it is found here too, or behind
everything that is inside this one. A query of several alternatives takes the first match
of the first alternative that has any, which need not be the earliest match of all.
-/

import Questionnaire.Proofs.Selector.Query

namespace Questionnaire

open Html

/-- A place is the earliest one of a list: it is one of them, and in the document every
other one comes after it. -/
def Html.Place.IsEarliestOf (first : Place) (places : List Place) : Prop :=
  first ∈ places ∧ ∀ other ∈ places, other = first ∨ first.path < other.path

namespace Chain

variable {compound : Compound} {chain rest : Chain} {root place : Place}

/-- Root by root, a chain finds what it finds inside each of them. -/
theorem select_eq_flatMap_singleton (chain : Chain) (roots : List Place) :
    chain.select roots = roots.flatMap fun root => chain.select [root] := by
  simp only [select_eq_ends, List.flatMap_singleton]

/-- After its first step, a chain goes on inside each place of that step. -/
theorem select_cons_singleton (compound : Compound) (rest : Chain) (root : Place) :
    Chain.select (compound :: rest) [root] =
      (compound.select [root]).flatMap fun step => rest.select [step] := by
  rw [Chain.select, select_eq_flatMap_singleton]

theorem mem_select_cons_iff :
    place ∈ Chain.select (compound :: rest) [root] ↔
      ∃ step : Place, step.IsInside root ∧ compound.accepts step.element = true ∧
        place ∈ rest.select [step] := by
  simp only [select_cons_singleton, List.mem_flatMap, Compound.mem_select_singleton_iff,
    and_assoc]

/-- What a chain with steps finds inside a place, it finds inside every place around it. -/
theorem mem_select_of_isInside {inner outer : Place} (inside : inner.IsInside outer)
    (found : place ∈ Chain.select (compound :: rest) [inner]) :
    place ∈ Chain.select (compound :: rest) [outer] := by
  obtain ⟨step, below, accepted, found⟩ := mem_select_cons_iff.mp found
  exact mem_select_cons_iff.mpr ⟨step, below.trans inside, accepted, found⟩

/-- What a chain finds has a path that starts with the path of the root. -/
theorem path_prefix_of_mem_select (found : place ∈ chain.select [root]) :
    root.path <+: place.path := by
  induction chain generalizing root with
  | nil =>
      obtain rfl := List.mem_singleton.mp found
      exact List.prefix_refl place.path
  | cons compound rest ih =>
      obtain ⟨step, ⟨numbers, _, leads, _⟩, _, found⟩ := mem_select_cons_iff.mp found
      have below : root.path <+: step.path := leads ▸ List.prefix_append root.path numbers
      exact below.trans (ih found)

/-- What is found inside a later step comes after the earliest match inside an earlier one,
or is this match itself. -/
theorem earliest_before_later_step {step later first other : Place}
    (inside : step.IsInside root) (inside' : later.IsInside root)
    (before : step.path < later.path) (earliest : first.IsEarliestOf (chain.select [step]))
    (found : other ∈ chain.select [later]) : other = first ∨ first.path < other.path := by
  rcases Place.isInside_or_partsBelow inside inside' before with nested | apart
  · cases chain with
    | nil =>
        obtain rfl : first = step := List.mem_singleton.mp earliest.1
        obtain rfl : other = later := List.mem_singleton.mp found
        exact Or.inr before
    | cons compound rest => exact earliest.2 other (mem_select_of_isInside nested found)
  · right
    obtain ⟨numbers, leads⟩ := path_prefix_of_mem_select earliest.1
    obtain ⟨numbers', leads'⟩ := path_prefix_of_mem_select found
    rw [← leads, ← leads']
    exact (apart.append numbers numbers').lt

/-- The match of a chain that is listed first is the earliest one in the document. -/
theorem head_isEarliestOf {first : Place} (isHead : (chain.select [root]).head? = some first) :
    first.IsEarliestOf (chain.select [root]) := by
  -- The induction is on the steps. What is found is listed by the place of the first step,
  -- and the head is found inside the first of these places that leads anywhere.
  induction chain generalizing root with
  | nil =>
      obtain rfl : root = first := Option.some.inj isHead
      exact ⟨List.mem_singleton_self root, fun other found => Or.inl (List.mem_singleton.mp found)⟩
  | cons compound rest ih =>
      refine ⟨List.mem_of_head? isHead, ?_⟩
      intro other found
      have ascending := Compound.select_singleton_ascending compound root
      have inside : ∀ step ∈ compound.select [root], step.IsInside root :=
        fun step selected => (Compound.mem_select_singleton_iff.mp selected).1
      rw [select_cons_singleton] at isHead found
      rw [List.head?_flatMap, List.findSome?_eq_some_iff] at isHead
      obtain ⟨before, step, after, steps, isHead, nothing⟩ := isHead
      obtain ⟨step', selected, found⟩ := List.mem_flatMap.mp found
      have within := inside step' selected
      rw [steps] at selected ascending inside
      rcases List.mem_append.mp selected with earlier | selected
      · rw [List.head?_eq_none_iff.mp (nothing step' earlier)] at found
        exact absurd found List.not_mem_nil
      rcases List.mem_cons.mp selected with rfl | later
      · exact (ih isHead).2 other found
      · have order := List.rel_of_pairwise_cons (List.pairwise_append.mp ascending).2.1 later
        exact earliest_before_later_step (inside step (by simp)) within order (ih isHead) found

end Chain

/-! ## Queries -/

/-- The first match of words is the earliest one. -/
theorem queryWords_head_isEarliestOf {words : List (List Char)} {root first : Place}
    (isHead : (queryWords words [root]).head? = some first) :
    first.IsEarliestOf (queryWords words [root]) := by
  unfold queryWords at isHead ⊢
  split at isHead
  · exact Chain.head_isEarliestOf isHead
  · cases isHead

/-- Only one place is the earliest one. -/
theorem Html.Place.IsEarliestOf.unique {first other : Place} {places : List Place}
    (earliest : first.IsEarliestOf places) (earliest' : other.IsEarliestOf places) :
    first = other := by
  rcases earliest'.2 first earliest.1 with same | after
  · exact same
  · rcases earliest.2 other earliest'.1 with same | before
    · exact same.symm
    · exact absurd after (List.lt_asymm before)

/-- Without commas, the first match is the earliest one. -/
theorem head_queryAll_iff {source : String} (whole : ',' ∉ source.toList) {root first : Place} :
    (queryAll source [root]).head? = some first ↔ first.IsEarliestOf (queryAll source [root]) := by
  have earliest : ∀ {place}, (queryAll source [root]).head? = some place →
      place.IsEarliestOf (queryAll source [root]) := by
    intro place isHead
    by_cases blank : Text.isBlank source.toList = true
    · rw [queryAll_of_blank fun c member => Or.inr (List.all_eq_true.mp blank c member)] at isHead
      cases isHead
    · have has := hasChains_singleton whole (Bool.eq_false_iff.mpr blank)
      rw [queryAll_singleton has] at isHead ⊢
      exact queryWords_head_isEarliestOf isHead
  constructor
  · exact earliest
  · intro isEarliest
    obtain ⟨place, isHead⟩ := Option.isSome_iff_exists.mp
      (List.isSome_head?.mpr (List.ne_nil_of_mem isEarliest.1))
    rw [isHead, (earliest isHead).unique isEarliest]

/-- Of several pieces between commas, the first one that finds anything has the first
match. -/
theorem head_queryAll_pieces_iff {source : String} {pieces : List (List Char)}
    (split : Text.IsSplitAt ',' source.toList pieces)
    (sound : ∀ piece ∈ pieces, Selector.IsSound (String.ofList piece)) {root first : Place} :
    (queryAll source [root]).head? = some first ↔
      ∃ before piece after, pieces = before ++ piece :: after ∧
        (∀ earlier ∈ before, queryAll (String.ofList earlier) [root] = []) ∧
        first.IsEarliestOf (queryAll (String.ofList piece) [root]) := by
  have whole : ∀ piece ∈ pieces, ',' ∉ (String.ofList piece).toList := by
    intro piece member comma
    rw [String.toList_ofList] at comma
    exact split.whole piece member ',' comma rfl
  rw [← split.ofList_intercalate, queryAll_pieces sound, List.head?_flatMap,
    List.findSome?_eq_some_iff]
  simp only [List.head?_eq_none_iff]
  constructor
  · rintro ⟨before, piece, after, parts, isHead, nothing⟩
    have member : piece ∈ pieces := by simp [parts]
    exact ⟨before, piece, after, parts, nothing, (head_queryAll_iff (whole piece member)).mp isHead⟩
  · rintro ⟨before, piece, after, parts, nothing, earliest⟩
    have member : piece ∈ pieces := by simp [parts]
    exact ⟨before, piece, after, parts, (head_queryAll_iff (whole piece member)).mpr earliest,
      nothing⟩

/-- A page on which a chain finds one element in two ways, the second time behind an
element that comes later in the document. -/
def nestedPage : Element :=
  ⟨"html", [], [.element "div" []
    [.element "div" [] [.element "div" [] []], .element "div" [] []]]⟩

theorem paths_queryAll_nestedPage :
    (queryAll "div div" [nestedPage.asRoot]).map Place.path =
      [[0, 0], [0, 0, 0], [0, 1], [0, 0, 0]] := by
  decide +kernel

/-- The first match of a query inside one root. Without commas it is the earliest of all
matches in the document, although the matches are in general neither listed in document
order nor without repeats. With commas it is the earliest match of the first piece that
finds anything, and there is none where a piece is neither blank nor a selector. -/
theorem queryFirst?_is_earliest (root : Place) :
    (∀ source : String, ',' ∉ source.toList →
      (queryFirst? source [root] = none ↔ queryAll source [root] = []) ∧
      ∀ first, queryFirst? source [root] = some first ↔
        first.IsEarliestOf (queryAll source [root])) ∧
    (∀ (source : String) (pieces : List (List Char)), Text.IsSplitAt ',' source.toList pieces →
      ((∃ piece ∈ pieces, ¬ Selector.IsSound (String.ofList piece)) →
        queryFirst? source [root] = none) ∧
      ((∀ piece ∈ pieces, Selector.IsSound (String.ofList piece)) →
        ∀ first, queryFirst? source [root] = some first ↔
          ∃ before piece after, pieces = before ++ piece :: after ∧
            (∀ earlier ∈ before, queryAll (String.ofList earlier) [root] = []) ∧
            first.IsEarliestOf (queryAll (String.ofList piece) [root]))) ∧
    ∃ (source : String) (page : Element), ',' ∉ source.toList ∧
      ¬ ((queryAll source [page.asRoot]).map Place.path).Pairwise (· ≤ ·) ∧
      ¬ ((queryAll source [page.asRoot]).map Place.path).Nodup := by
  refine ⟨?_, ?_, "div div", nestedPage, by decide, ?_⟩
  · intro source whole
    exact ⟨List.head?_eq_none_iff, fun first => head_queryAll_iff whole⟩
  · intro source pieces split
    refine ⟨?_, fun sound first => head_queryAll_pieces_iff split sound⟩
    rintro ⟨piece, member, unsound⟩
    have void : ¬ Selector.IsSound source := by
      rw [← split.ofList_intercalate, Selector.isSound_pieces_iff]
      intro sound
      exact unsound (sound piece member)
    rw [queryFirst?, queryAll_of_not_isSound void]
    rfl
  · rw [paths_queryAll_nestedPage]
    decide

end Questionnaire
