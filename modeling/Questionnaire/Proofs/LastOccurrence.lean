/-
# The last item with a key

Several parts of the library keep the last of the items that share a key: a
dictionary keeps the last value of a key, a name map the last field of a name, and
a form the last field of an id. `LastWith` says this once, on plain lists. Its
rules follow the growth of a list at its end, which is how items arrive.
-/

import Mathlib.Data.List.Induction

namespace Questionnaire

variable {α β : Type}

/-- In a list that is ordered throughout, an item stands before exactly the greater ones. -/
theorem mem_behind_iff_of_asymm {less : α → α → Prop} {item other : α} {before after : List α}
    (asymm : ∀ first second, less first second → ¬ less second first)
    (ordered : (before ++ item :: after).Pairwise less) :
    other ∈ after ↔ other ∈ before ++ item :: after ∧ less item other := by
  obtain ⟨_, behind, across⟩ := List.pairwise_append.mp ordered
  have greater := (List.pairwise_cons.mp behind).1
  constructor
  · intro member
    exact ⟨by simp [member], greater other member⟩
  · rintro ⟨member, after⟩
    rcases List.mem_append.mp member with earlier | notEarlier
    · exact absurd after (asymm other item (across other earlier item List.mem_cons_self))
    · rcases List.mem_cons.mp notEarlier with rfl | found
      · exact absurd after (asymm other other after)
      · exact found

/-- An item stands in a list, and nothing after it has its key. -/
def LastWith (key : α → β) (item : α) (items : List α) : Prop :=
  ∃ before after, items = before ++ item :: after ∧ ∀ later ∈ after, key later ≠ key item

namespace LastWith

variable {key : α → β} {item other : α} {items : List α}

theorem mem (last : LastWith key item items) : item ∈ items := by
  obtain ⟨before, after, rfl, _⟩ := last
  exact List.mem_append_right before List.mem_cons_self

/-- No list without items has a last one. -/
theorem not_nil : ¬ LastWith key item [] :=
  fun last => List.not_mem_nil last.mem

/-- A new item at the end is the last one with its key and leaves the last items
with other keys as they are. -/
theorem concat_iff {new : α} :
    LastWith key item (items ++ [new]) ↔
      item = new ∨ key new ≠ key item ∧ LastWith key item items := by
  constructor
  · rintro ⟨before, after, split, none⟩
    rcases List.eq_nil_or_concat after with rfl | ⟨front, final, rfl⟩
    · exact Or.inl (List.append_inj_right' split rfl |> List.singleton_inj.mp).symm
    · right
      have parts : items ++ [new] = (before ++ item :: front) ++ [final] := by
        simpa using split
      obtain ⟨rfl, same⟩ := List.append_inj' parts rfl
      obtain rfl := List.singleton_inj.mp same
      exact ⟨none new (by simp), before, front, rfl,
        fun later member => none later (by simp [member])⟩
  · rintro (rfl | ⟨different, before, after, rfl, none⟩)
    · exact ⟨items, [], rfl, by simp⟩
    · refine ⟨before, after ++ [new], by simp, ?_⟩
      intro later member
      rcases List.mem_append.mp member with inside | added
      · exact none later inside
      · exact List.mem_singleton.mp added ▸ different

/-- Two last items with one key are the same item. -/
theorem unique (first : LastWith key item items) (second : LastWith key other items)
    (same : key item = key other) : item = other := by
  induction items using List.reverseRecOn with
  | nil => exact absurd first not_nil
  | append_singleton items new ih =>
      rcases concat_iff.mp first with rfl | ⟨away, inside⟩
      · rcases concat_iff.mp second with found | ⟨away, _⟩
        · exact found.symm
        · exact absurd same away
      · rcases concat_iff.mp second with rfl | ⟨_, inside'⟩
        · exact absurd same.symm away
        · exact ih inside inside'

/-- Every key of a list has a last item. -/
theorem exists_of_mem (key : α → β) (member : item ∈ items) :
    ∃ last, LastWith key last items ∧ key last = key item := by
  classical
  induction items using List.reverseRecOn with
  | nil => exact absurd member List.not_mem_nil
  | append_singleton items new ih =>
      by_cases same : key new = key item
      · exact ⟨new, concat_iff.mpr (Or.inl rfl), same⟩
      · have inside : item ∈ items := by
          rcases List.mem_append.mp member with inside | added
          · exact inside
          · exact absurd (congrArg key (List.mem_singleton.mp added).symm) same
        obtain ⟨last, found, agrees⟩ := ih inside
        exact ⟨last, concat_iff.mpr (Or.inr ⟨agrees ▸ same, found⟩), agrees⟩

/-- Items with other keys can be left out. -/
theorem filter_iff {keeps : α → Bool} (kept : ∀ other, key other = key item → keeps other = true) :
    LastWith key item (items.filter keeps) ↔ LastWith key item items := by
  induction items using List.reverseRecOn with
  | nil => rfl
  | append_singleton items new ih =>
      rw [List.filter_append, concat_iff]
      by_cases isKept : keeps new = true
      · rw [List.filter_cons_of_pos isKept, List.filter_nil, concat_iff, ih]
      · have different : key new ≠ key item := fun same => isKept (kept new same)
        have other : item ≠ new := fun same => different (congrArg key same).symm
        rw [List.filter_cons_of_neg isKept, List.filter_nil, List.append_nil, ih]
        simp [different, other]

/-- The last items of a list whose items are made from others. -/
theorem map_iff {γ : Type} {key : β → γ} {item : β} {make : α → β} {items : List α} :
    LastWith key item (items.map make) ↔
      ∃ source, LastWith (key ∘ make) source items ∧ make source = item := by
  induction items using List.reverseRecOn with
  | nil => simp [not_nil]
  | append_singleton items new ih =>
      rw [List.map_append, List.map_singleton, concat_iff, ih]
      constructor
      · rintro (rfl | ⟨different, source, last, rfl⟩)
        · exact ⟨new, concat_iff.mpr (Or.inl rfl), rfl⟩
        · exact ⟨source, concat_iff.mpr (Or.inr ⟨different, last⟩), rfl⟩
      · rintro ⟨source, last, rfl⟩
        rcases concat_iff.mp last with rfl | ⟨different, inside⟩
        · exact Or.inl rfl
        · exact Or.inr ⟨different, source, inside, rfl⟩

/-- The last items of a list that some of others give are told by the last of these to give
an item with the key. -/
theorem filterMap_iff {γ : Type} {key : β → γ} {item : β} {give : α → Option β}
    {items : List α} :
    LastWith key item (items.filterMap give) ↔
      ∃ before source after, items = before ++ source :: after ∧ give source = some item ∧
        ∀ later ∈ after, ∀ other, give later = some other → key other ≠ key item := by
  constructor
  · rintro ⟨before, after, split, none⟩
    obtain ⟨front, back, rfl, _, moved⟩ := List.filterMap_eq_append_iff.mp split
    obtain ⟨skipped, source, rest, rfl, _, given, rfl⟩ := List.filterMap_eq_cons_iff.mp moved
    refine ⟨front ++ skipped, source, rest, by simp, given, ?_⟩
    intro later behind other given'
    exact none other (List.mem_filterMap.mpr ⟨later, behind, given'⟩)
  · rintro ⟨before, source, after, rfl, given, none⟩
    refine ⟨before.filterMap give, after.filterMap give, by simp [given], ?_⟩
    intro other member
    obtain ⟨later, behind, given'⟩ := List.mem_filterMap.mp member
    exact none later behind other given'

end LastWith

end Questionnaire
