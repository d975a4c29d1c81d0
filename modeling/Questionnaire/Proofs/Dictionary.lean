/-
# Looking up dictionary entries

Every operation of a dictionary is described by what it does to `get?`, so that
nothing outside this module depends on how the entries are kept in order. A
dictionary made from a list gives every key its last value in the list.
-/

import Questionnaire.Dictionary
import Questionnaire.Proofs.LastOccurrence

namespace Questionnaire.Dictionary

variable {α : Type} {key other : String} {value : α}

@[simp]
theorem get?_empty : (empty : Dictionary α).get? key = none := rfl

theorem lookup_cons_eq_ite (entries : List (String × α)) :
    ((key, value) :: entries).lookup other =
      if other = key then some value else entries.lookup other := by
  by_cases same : other = key
  · simp [same]
  · simp [List.lookup_cons, same, beq_eq_false_iff_ne.mpr same]

theorem lookup_insertEntry (entries : List (String × α)) :
    (insertEntry key value entries).lookup other =
      if other = key then some value else entries.lookup other := by
  induction entries with
  | nil => exact lookup_cons_eq_ite []
  | cons first rest ih =>
      obtain ⟨present, kept⟩ := first
      unfold insertEntry
      split
      · exact lookup_cons_eq_ite _
      · split
        · next equal =>
          subst equal
          by_cases same : other = key <;> simp [lookup_cons_eq_ite, same]
        · next different =>
          rw [lookup_cons_eq_ite, lookup_cons_eq_ite, ih]
          by_cases here : other = present
          · simp [here, Ne.symm different]
          · simp [here]

/-- Insertion changes the value of one key only. -/
@[simp]
theorem get?_insert (dictionary : Dictionary α) :
    (dictionary.insert key value).get? other =
      if other = key then some value else dictionary.get? other :=
  lookup_insertEntry dictionary.entries

/-- What holds of all entries and of one with a new key holds with this one put in. -/
theorem forall_get?_insert_iff {dictionary : Dictionary α} {holds : String → α → Prop}
    (isNew : dictionary.get? key = none) :
    (∀ other kept, (dictionary.insert key value).get? other = some kept → holds other kept) ↔
      (∀ other kept, dictionary.get? other = some kept → holds other kept) ∧ holds key value := by
  simp only [get?_insert]
  constructor
  · intro inserted
    refine ⟨?_, inserted key value (if_pos rfl)⟩
    intro other kept found
    have different : other ≠ key := by
      rintro rfl
      simp [isNew] at found
    exact inserted other kept (by rwa [if_neg different])
  · rintro ⟨before, holdsNew⟩ other kept found
    by_cases same : other = key
    · rw [if_pos same, Option.some.injEq] at found
      rwa [same, ← found]
    · rw [if_neg same] at found
      exact before other kept found

theorem lookup_eq_some_iff_mem {entries : List (String × α)}
    (ascending : entries.Pairwise (fun first second => first.1 < second.1)) :
    entries.lookup key = some value ↔ (key, value) ∈ entries := by
  induction entries with
  | nil => simp
  | cons first rest ih =>
      obtain ⟨present, kept⟩ := first
      have parts := List.pairwise_cons.mp ascending
      by_cases here : key = present
      · subst here
        have absent : (key, value) ∉ rest := fun member =>
          String.lt_irrefl key (parts.1 _ member)
        simp [absent, eq_comm]
      · simp [lookup_cons_eq_ite, here, ih parts.2]

/-- Behind an entry stand exactly the entries with greater keys. -/
theorem mem_behind_iff {before after : List (String × α)} {entry other : String × α}
    (ascending : (before ++ entry :: after).Pairwise (fun first second => first.1 < second.1)) :
    other ∈ after ↔ other ∈ before ++ entry :: after ∧ entry.1 < other.1 :=
  mem_behind_iff_of_asymm (fun _ _ => String.lt_asymm) ascending

/-- The entries are exactly the pairs of a key and its value. -/
theorem get?_eq_some_iff_mem (dictionary : Dictionary α) :
    dictionary.get? key = some value ↔ (key, value) ∈ dictionary.entries :=
  lookup_eq_some_iff_mem dictionary.ascending

/-- The last entry of a key is its only one. -/
theorem lastWith_entries_iff (dictionary : Dictionary α) :
    LastWith Prod.fst (key, value) dictionary.entries ↔ dictionary.get? key = some value := by
  constructor
  · intro last
    exact (get?_eq_some_iff_mem dictionary).mpr last.mem
  · intro found
    obtain ⟨⟨other, kept⟩, last, same⟩ :=
      LastWith.exists_of_mem Prod.fst ((get?_eq_some_iff_mem dictionary).mp found)
    obtain rfl : other = key := same
    have unique := (get?_eq_some_iff_mem dictionary).mpr last.mem
    rw [found] at unique
    cases unique
    exact last

/-- Dictionaries that give every key the same value are the same. -/
theorem ext_get? {first second : Dictionary α} (same : ∀ key, first.get? key = second.get? key) :
    first = second := by
  have nodup : ∀ dictionary : Dictionary α, dictionary.entries.Nodup := by
    intro dictionary
    apply dictionary.ascending.imp
    rintro entry _ less rfl
    exact String.lt_irrefl entry.1 less
  have entries : first.entries.Perm second.entries := by
    apply (List.perm_ext_iff_of_nodup (nodup first) (nodup second)).mpr
    rintro ⟨key, value⟩
    rw [← get?_eq_some_iff_mem, ← get?_eq_some_iff_mem, same]
  refine Dictionary.ext (entries.eq_of_pairwise ?_ first.ascending second.ascending)
  intro _ _ _ _ less greater
  exact absurd less (String.lt_asymm greater)

theorem ofList_concat (entries : List (String × α)) (entry : String × α) :
    ofList (entries ++ [entry]) = (ofList entries).insert entry.1 entry.2 := by
  simp [ofList, insertAll]

/-- In a dictionary made from a list, a key has its last value in the list. -/
theorem get?_ofList_eq_some_iff (entries : List (String × α)) :
    (ofList entries).get? key = some value ↔ LastWith Prod.fst (key, value) entries := by
  induction entries using List.reverseRecOn with
  | nil =>
      have missing : (ofList ([] : List (String × α))).get? key = none := get?_empty
      simp [missing, LastWith.not_nil]
  | append_singleton entries entry ih =>
      obtain ⟨present, kept⟩ := entry
      rw [ofList_concat, get?_insert, LastWith.concat_iff]
      by_cases here : key = present
      · simp [here, eq_comm]
      · simp [here, Ne.symm here, ih]

end Questionnaire.Dictionary
