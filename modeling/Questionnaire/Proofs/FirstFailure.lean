/-
# Reading items up to the first failure

Several readers of the library read items one after the other and give up at the
first item that they cannot read. This is `List.mapM` with errors, and here it is
said what it does: it succeeds where every item can be read, and otherwise its error
is that of the first item that cannot. Groups of items make no difference to this.
Items that were written are all read back where each of them is.
-/

import Mathlib.Data.List.Forall2

namespace Questionnaire

variable {ε α β : Type} {read : α → Except ε β}

theorem mapM_cons_of_ok {item : α} {result : β} (isRead : read item = .ok result)
    (rest : List α) : (item :: rest).mapM read = (rest.mapM read).map (result :: ·) := by
  rw [List.mapM_cons, isRead]
  cases rest.mapM read <;> rfl

theorem mapM_cons_of_error {item : α} {failure : ε} (fails : read item = .error failure)
    (rest : List α) : (item :: rest).mapM read = .error failure := by
  rw [List.mapM_cons, fails]
  rfl

/-- Items have related results together if each of them has one. -/
theorem exists_forall₂_iff {related : α → β → Prop} {items : List α} :
    (∃ results, List.Forall₂ related items results) ↔
      ∀ item ∈ items, ∃ result, related item result := by
  induction items with
  | nil => simp
  | cons item rest ih =>
      rw [List.forall_mem_cons, ← ih]
      simp only [List.forall₂_cons_left_iff]
      constructor
      · rintro ⟨_, result, results, isResult, areResults, rfl⟩
        exact ⟨⟨result, isResult⟩, results, areResults⟩
      · rintro ⟨⟨result, isResult⟩, results, areResults⟩
        exact ⟨_, result, results, isResult, areResults, rfl⟩

/-- If an item has one result only, the results are what the items are mapped to. -/
theorem forall₂_iff_map_eq {related : α → β → Prop} {result : α → β}
    (only : ∀ item other, related item other ↔ result item = other) {items : List α}
    {results : List β} : List.Forall₂ related items results ↔ items.map result = results := by
  have graph : related = fun item other => result item = other := by
    funext item other
    exact propext (only item other)
  rw [graph, ← List.forall₂_map_left_iff, List.forall₂_eq_eq_eq]

/-- Every result belongs to an item. -/
theorem exists_mem_of_forall₂ {related : α → β → Prop} {items : List α} {results : List β}
    (areResults : List.Forall₂ related items results) {result : β} (member : result ∈ results) :
    ∃ item ∈ items, related item result := by
  induction areResults with
  | nil => exact absurd member List.not_mem_nil
  | @cons first _ rest _ isResult _ ih =>
      rcases List.mem_cons.mp member with rfl | below
      · exact ⟨first, List.mem_cons_self, isResult⟩
      · obtain ⟨item, isItem, isRelated⟩ := ih below
        exact ⟨item, List.mem_cons_of_mem first isItem, isRelated⟩

/-- Items are read if each of them is. -/
theorem mapM_eq_ok_iff {items : List α} {results : List β} :
    items.mapM read = .ok results ↔
      List.Forall₂ (fun item result => read item = .ok result) items results := by
  induction items generalizing results with
  | nil => cases results <;> simp [List.mapM_nil, pure, Except.pure]
  | cons item rest ih =>
      cases outcome : read item with
      | error failure =>
          rw [mapM_cons_of_error outcome]
          refine iff_of_false (by simp) ?_
          rintro (_ | ⟨isRead, _⟩)
          simp [outcome] at isRead
      | ok result =>
          rw [mapM_cons_of_ok outcome]
          cases results with
          | nil => cases rest.mapM read <;> simp [Except.map]
          | cons first others =>
              rw [List.forall₂_cons, ← ih, outcome]
              cases rest.mapM read <;> simp [Except.map]

/-- Items are read as what they are related to. -/
theorem mapM_eq_ok_iff_forall₂ {related : α → β → Prop}
    (means : ∀ item result, read item = .ok result ↔ related item result) {items : List α}
    {results : List β} :
    items.mapM read = .ok results ↔ List.Forall₂ related items results := by
  have graph : (fun item result => read item = .ok result) = related := by
    funext item result
    exact propext (means item result)
  rw [mapM_eq_ok_iff, graph]

/-- The error is that of the first item that cannot be read. -/
theorem mapM_eq_error_iff {items : List α} {failure : ε} :
    items.mapM read = .error failure ↔
      ∃ before item after, items = before ++ item :: after ∧
        (∀ earlier ∈ before, ∃ result, read earlier = .ok result) ∧
        read item = .error failure := by
  induction items with
  | nil => simp [List.mapM_nil, pure, Except.pure]
  | cons first rest ih =>
      cases outcome : read first with
      | error error =>
          rw [mapM_cons_of_error outcome]
          constructor
          · rintro ⟨⟩
            exact ⟨[], first, rest, rfl, by simp, outcome⟩
          · rintro ⟨_ | ⟨earlier, before⟩, item, after, parts, readable, fails⟩
            · obtain ⟨rfl, rfl⟩ := List.cons.inj parts
              rw [outcome] at fails
              cases fails
              rfl
            · obtain ⟨rfl, rfl⟩ := List.cons.inj parts
              obtain ⟨result, isRead⟩ := readable first List.mem_cons_self
              simp [outcome] at isRead
      | ok result =>
          have below : (first :: rest).mapM read = .error failure ↔
              rest.mapM read = .error failure := by
            rw [mapM_cons_of_ok outcome]
            cases rest.mapM read <;> simp [Except.map]
          rw [below, ih]
          constructor
          · rintro ⟨before, item, after, rfl, readable, fails⟩
            exact ⟨first :: before, item, after, rfl,
              List.forall_mem_cons.mpr ⟨⟨result, outcome⟩, readable⟩, fails⟩
          · rintro ⟨_ | ⟨earlier, before⟩, item, after, parts, readable, fails⟩
            · obtain ⟨rfl, rfl⟩ := List.cons.inj parts
              simp [outcome] at fails
            · obtain ⟨rfl, rfl⟩ := List.cons.inj parts
              exact ⟨before, item, after, rfl, (List.forall_mem_cons.mp readable).2, fails⟩

/-- If each item is read unless it has some failure, the items are read unless one of them
has, and the first failure of all counts. -/
theorem mapM_eq_elim {φ : Type} {failure? : α → Option φ} {result : α → β} {error : φ → ε}
    {items : List α}
    (each : ∀ item ∈ items,
      read item = (failure? item).elim (.ok (result item)) fun failure => .error (error failure)) :
    items.mapM read =
      (items.findSome? failure?).elim (.ok (items.map result))
        fun failure => .error (error failure) := by
  induction items with
  | nil => rfl
  | cons item rest ih =>
      obtain ⟨ofItem, ofRest⟩ := List.forall_mem_cons.mp each
      rw [List.findSome?_cons]
      cases failed : failure? item with
      | some failure =>
          rw [failed] at ofItem
          exact mapM_cons_of_error ofItem rest
      | none =>
          rw [failed] at ofItem
          rw [mapM_cons_of_ok ofItem, ih ofRest]
          cases rest.findSome? failure? <;> rfl

/-- Reading groups of items, group by group, is reading all items. -/
theorem mapM_flatten (groups : List (List α)) :
    groups.flatten.mapM read =
      (groups.mapM fun items : List α => items.mapM read).map List.flatten := by
  induction groups with
  | nil => rfl
  | cons items others ih =>
      rw [List.flatten_cons, List.mapM_append, ih, List.mapM_cons]
      cases items.mapM read with
      | error failure => rfl
      | ok results => cases others.mapM fun items : List α => items.mapM read <;> rfl

/-- A list is read back where each of its items is. -/
theorem mapM_map_of_undoes {read : β → Option α} {write : α → β}
    (undoes : ∀ item, read (write item) = some item) (items : List α) :
    (items.map write).mapM read = some items := by
  induction items with
  | nil => rfl
  | cons item rest ih => simp [undoes, ih]

end Questionnaire
