/-
# Chains as descents

A chain is meant to find the elements that can be reached by going down: from a
root to a place inside it that passes the first compound, from there to a place
inside that one which passes the second, and so on. Such a way down is a descent,
and here descents are described without reference to how they are looked for. The
matches of a chain are the ends of its descents, one match for each descent, so
that an element which can be reached in several ways is listed as many times.
Roots may repeat and may lie inside each other.
-/

import Mathlib.Data.List.GetD
import Mathlib.Data.Set.Card
import Questionnaire.Proofs.Selector.Match

namespace Questionnaire

open Html

/-- A way down: the number of the root it starts from, and the places on it, one
for each compound of a chain. -/
structure Descent where
  /-- The number of the root. -/
  start : Nat
  /-- The places from the outermost to the innermost. -/
  places : List Place

/-- A chain leads down from a place along others: each lies properly inside the one
before it and passes the compound of its step. -/
inductive Chain.LeadsDown : Chain → Place → List Place → Prop
  | done {outer : Place} : LeadsDown [] outer []
  | step {compound : Compound} {rest : Chain} {outer place : Place} {places : List Place} :
    place.IsInside outer → compound.accepts place.element = true →
    LeadsDown rest place places → LeadsDown (compound :: rest) outer (place :: places)

namespace Descent

/-- A descent of a chain below roots. -/
def IsOf (descent : Descent) (chain : Chain) (roots : List Place) : Prop :=
  ∃ root, roots[descent.start]? = some root ∧ chain.LeadsDown root descent.places

/-- The place that a descent ends at. -/
def end? (descent : Descent) : Option Place :=
  descent.places.getLast?

/-- Lexicographic order: by the number of the root, and then by the document
positions of the places, the outermost of them first. -/
def Before (first second : Descent) : Prop :=
  first.start < second.start ∨ first.start = second.start ∧
    List.Lex (fun place other => place.path < other.path) first.places second.places

end Descent

namespace Chain

/-- The places along which a chain leads down from one place, in lexicographic
order. -/
def waysDown : Chain → Place → List (List Place)
  | [], _ => [[]]
  | compound :: rest, outer =>
    (compound.select [outer]).flatMap fun place =>
      (waysDown rest place).map fun places => place :: places

/-- The descents of a chain below roots, in lexicographic order. -/
def descents (chain : Chain) (roots : List Place) : List Descent :=
  roots.zipIdx.flatMap fun numbered =>
    (chain.waysDown numbered.1).map fun places => ⟨numbered.2, places⟩

theorem leadsDown_cons_iff {compound : Compound} {rest : Chain} {outer place : Place}
    {places : List Place} :
    LeadsDown (compound :: rest) outer (place :: places) ↔
      place ∈ compound.select [outer] ∧ rest.LeadsDown place places := by
  rw [Compound.mem_select_singleton_iff]
  constructor
  · rintro (_ | ⟨inside, accepted, below⟩)
    exact ⟨⟨inside, accepted⟩, below⟩
  · rintro ⟨⟨inside, accepted⟩, below⟩
    exact LeadsDown.step inside accepted below

theorem mem_waysDown_iff {chain : Chain} {outer : Place} {places : List Place} :
    places ∈ chain.waysDown outer ↔ chain.LeadsDown outer places := by
  induction chain generalizing outer places with
  | nil =>
      rw [waysDown, List.mem_singleton]
      constructor
      · rintro rfl
        exact LeadsDown.done
      · rintro ⟨⟩
        rfl
  | cons compound rest ih =>
      rw [waysDown]
      cases places with
      | nil =>
          simp only [List.mem_flatMap, List.mem_map, reduceCtorEq, and_false, exists_false,
            false_iff]
          rintro ⟨⟩
      | cons place places =>
          rw [leadsDown_cons_iff, ← ih]
          simp only [List.mem_flatMap, List.mem_map, List.cons.injEq]
          constructor
          · rintro ⟨_, selected, _, below, rfl, rfl⟩
            exact ⟨selected, below⟩
          · rintro ⟨selected, below⟩
            exact ⟨place, selected, places, below, rfl, rfl⟩

theorem waysDown_ascending (chain : Chain) (outer : Place) :
    (chain.waysDown outer).Pairwise
      (List.Lex fun place other => place.path < other.path) := by
  induction chain generalizing outer with
  | nil => exact List.pairwise_singleton _ _
  | cons compound rest ih =>
      rw [waysDown, List.pairwise_flatMap]
      constructor
      · intro place _
        rw [List.pairwise_map]
        exact (ih place).imp fun before => List.Lex.cons before
      · apply (Compound.select_singleton_ascending compound outer).imp
        intro place other before ways fromPlace ways' fromOther
        obtain ⟨places, _, rfl⟩ := List.mem_map.mp fromPlace
        obtain ⟨places', _, rfl⟩ := List.mem_map.mp fromOther
        exact List.Lex.rel before

theorem mem_descents_iff {chain : Chain} {roots : List Place} {descent : Descent} :
    descent ∈ chain.descents roots ↔ descent.IsOf chain roots := by
  obtain ⟨start, places⟩ := descent
  simp only [descents, List.mem_flatMap, List.mem_map, Descent.mk.injEq, Prod.exists,
    List.mem_zipIdx_iff_getElem?, mem_waysDown_iff, Descent.IsOf]
  constructor
  · rintro ⟨root, number, standing, ways, leads, rfl, rfl⟩
    exact ⟨root, standing, leads⟩
  · rintro ⟨root, standing, leads⟩
    exact ⟨root, start, standing, places, leads, rfl, rfl⟩

theorem descents_ascending (chain : Chain) (roots : List Place) :
    (chain.descents roots).Pairwise Descent.Before := by
  rw [descents, List.pairwise_flatMap]
  constructor
  · rintro ⟨root, number⟩ _
    rw [List.pairwise_map]
    exact (waysDown_ascending chain root).imp fun before => Or.inr ⟨rfl, before⟩
  · have numbered : roots.zipIdx.Pairwise fun first second => first.2 < second.2 := by
      rw [← List.pairwise_map, List.zipIdx_map_snd]
      exact List.pairwise_lt_range'
    apply numbered.imp
    intro first second before descent fromFirst other fromSecond
    obtain ⟨_, _, rfl⟩ := List.mem_map.mp fromFirst
    obtain ⟨_, _, rfl⟩ := List.mem_map.mp fromSecond
    exact Or.inl before

/-- No two descents of the list are the same one. -/
theorem descents_nodup (chain : Chain) (roots : List Place) : (chain.descents roots).Nodup := by
  apply (descents_ascending chain roots).imp
  rintro ⟨start, places⟩ _ before rfl
  rcases before with lower | ⟨_, lower⟩
  · exact Nat.lt_irrefl start lower
  · have differ : List.Lex (· ≠ ·) places places := by
      apply List.Lex.imp _ _ _ lower
      rintro place _ less rfl
      exact List.lt_irrefl place.path less
    exact differ.to_ne rfl

theorem select_eq_flatMap (compound : Compound) (roots : List Place) :
    compound.select roots = roots.flatMap fun root => compound.select [root] := by
  simp only [Compound.select, List.filter_flatMap, List.flatMap_singleton]

/-- Step by step, a chain finds the ends of the ways down from its roots. A chain
without steps leads nowhere and ends where it starts. -/
theorem select_eq_ends (chain : Chain) (roots : List Place) :
    chain.select roots =
      roots.flatMap fun root => (chain.waysDown root).map fun places => places.getLastD root := by
  induction chain generalizing roots with
  | nil => simp [Chain.select, waysDown]
  | cons compound rest ih =>
      rw [Chain.select, ih, select_eq_flatMap, List.flatMap_assoc]
      congr 1
      funext root
      simp only [waysDown, List.map_flatMap, List.map_map]
      congr 1
      funext place
      apply List.map_congr_left
      intro places _
      exact (List.getLastD_cons (a := root)).symm

/-- A chain with steps finds the ends of its descents, one for each of them. -/
theorem map_some_select (compound : Compound) (rest : Chain) (roots : List Place) :
    (Chain.select (compound :: rest) roots).map some =
      (descents (compound :: rest) roots).map Descent.end? := by
  have ends : ∀ root : Place,
      ((waysDown (compound :: rest) root).map fun places => some (places.getLastD root)) =
        (waysDown (compound :: rest) root).map List.getLast? := by
    intro root
    apply List.map_congr_left
    intro places member
    cases mem_waysDown_iff.mp member with
    | step => rw [List.getLast?_cons, List.getLastD_cons, List.getLastD_eq_getLast?]
  have numbered : roots = roots.zipIdx.map Prod.fst := (List.zipIdx_map_fst 0 roots).symm
  rw [select_eq_ends, descents, List.map_flatMap, List.map_flatMap]
  simp only [List.map_map, Function.comp_def, Descent.end?, ends]
  conv_lhs => rw [numbered, List.flatMap_map]

/-- As many descents end at a place as the list of descents has with this end. -/
theorem ncard_descents_to [DecidableEq Place] (chain : Chain) (roots : List Place)
    (place : Place) :
    {descent : Descent | descent.IsOf chain roots ∧ descent.end? = some place}.ncard =
      ((chain.descents roots).map Descent.end?).count (some place) := by
  classical
  have listed : {descent : Descent | descent.IsOf chain roots ∧ descent.end? = some place} =
      ((chain.descents roots).filter fun descent => descent.end? == some place).toFinset := by
    ext descent
    simp [mem_descents_iff]
  have distinct := (descents_nodup chain roots).filter fun descent => descent.end? == some place
  rw [listed, Set.ncard_coe_finset, List.toFinset_card_of_nodup distinct,
    List.count_eq_countP, List.countP_map, List.countP_eq_length_filter]
  rfl

/-- The matches of a chain are the ends of its descents in lexicographic order. An
element is found exactly where some descent ends at it, and as many times as descents
do. -/
theorem select_enumerates_descents [DecidableEq Place] (compound : Compound) (rest : Chain)
    (roots : List Place) :
    (∃ descents : List Descent,
      (∀ descent, descent ∈ descents ↔ descent.IsOf (compound :: rest) roots) ∧
      descents.Pairwise Descent.Before ∧
      (Chain.select (compound :: rest) roots).map some = descents.map Descent.end?) ∧
    ∀ place,
      (place ∈ Chain.select (compound :: rest) roots ↔
        ∃ descent : Descent, descent.IsOf (compound :: rest) roots ∧
          descent.end? = some place) ∧
      (Chain.select (compound :: rest) roots).count place =
        {descent : Descent | descent.IsOf (compound :: rest) roots ∧
          descent.end? = some place}.ncard := by
  have ends := map_some_select compound rest roots
  refine ⟨⟨_, fun _ => mem_descents_iff, descents_ascending _ roots, ends⟩, ?_⟩
  intro place
  constructor
  · calc place ∈ Chain.select (compound :: rest) roots
        ↔ some place ∈ (Chain.select (compound :: rest) roots).map some := by simp
      _ ↔ some place ∈ (descents (compound :: rest) roots).map Descent.end? := by rw [ends]
      _ ↔ _ := by simp only [List.mem_map, mem_descents_iff]
  · rw [ncard_descents_to, ← ends]
    exact (List.count_map_of_injective _ some (Option.some_injective _) place).symm

end Chain

end Questionnaire
