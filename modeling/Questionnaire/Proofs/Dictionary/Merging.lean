/-
# Putting entries into a dictionary

Entries that are put into a dictionary override what is there, key by key, and among
themselves the last one of a key counts. So it makes no difference whether they are put in
one after the other or gathered in a dictionary of their own first. Replacing all values by
a function can be done before or after.
-/

import Questionnaire.Proofs.Dictionary

namespace Questionnaire.Dictionary

variable {α β : Type} {key : String}

theorem insertAll_concat (dictionary : Dictionary α) (entries : List (String × α))
    (entry : String × α) :
    dictionary.insertAll (entries ++ [entry]) =
      (dictionary.insertAll entries).insert entry.1 entry.2 := by
  simp [insertAll]

theorem ofList_append (entries others : List (String × α)) :
    ofList (entries ++ others) = (ofList entries).insertAll others := by
  simp [ofList, insertAll]

/-- Entries that are put in override the values of their keys and no others. -/
theorem get?_insertAll (dictionary : Dictionary α) (entries : List (String × α)) :
    (dictionary.insertAll entries).get? key =
      ((ofList entries).get? key).or (dictionary.get? key) := by
  induction entries using List.reverseRecOn with
  | nil => rfl
  | append_singleton entries entry ih =>
      rw [insertAll_concat, ofList_concat, get?_insert, get?_insert, ih]
      split <;> rfl

/-- A dictionary is made from its own entries. -/
@[simp]
theorem ofList_entries (dictionary : Dictionary α) : ofList dictionary.entries = dictionary := by
  apply ext_get?
  intro key
  ext value
  rw [get?_ofList_eq_some_iff, lastWith_entries_iff]

/-- Of entries that are put in, only the last one of each key counts. -/
theorem insertAll_ofList (dictionary : Dictionary α) (entries : List (String × α)) :
    dictionary.insertAll (ofList entries).entries = dictionary.insertAll entries := by
  apply ext_get?
  intro key
  rw [get?_insertAll, get?_insertAll, ofList_entries]

/-! ## Replacing values -/

/-- The dictionary with every value replaced. -/
def mapValues (change : α → β) (dictionary : Dictionary α) : Dictionary β :=
  ⟨dictionary.entries.map fun entry => (entry.1, change entry.2),
    List.pairwise_map.mpr dictionary.ascending⟩

theorem get?_mapValues (change : α → β) (dictionary : Dictionary α) :
    (dictionary.mapValues change).get? key = (dictionary.get? key).map change := by
  ext value
  rw [get?_eq_some_iff_mem, mapValues]
  simp [← get?_eq_some_iff_mem]

theorem mapValues_insertAll (change : α → β) (first second : Dictionary α) :
    (first.insertAll second.entries).mapValues change =
      (first.mapValues change).insertAll (second.mapValues change).entries := by
  apply ext_get?
  intro key
  simp only [get?_mapValues, get?_insertAll, ofList_entries]
  cases second.get? key <;> rfl

/-! ## The entries before one -/

/-- Before an entry stand exactly the entries with smaller keys. -/
theorem before_eq_filter (dictionary : Dictionary α) {before after : List (String × α)}
    {entry : String × α} (parts : dictionary.entries = before ++ entry :: after) :
    before = dictionary.entries.filter fun other => other.1 < entry.1 := by
  obtain ⟨_, behind, across⟩ := List.pairwise_append.mp (parts ▸ dictionary.ascending)
  have smaller : before.filter (fun other => decide (other.1 < entry.1)) = before := by
    apply List.filter_eq_self.mpr
    intro other inBefore
    exact decide_eq_true (across other inBefore entry List.mem_cons_self)
  have greater : (entry :: after).filter (fun other => decide (other.1 < entry.1)) = [] := by
    apply List.filter_eq_nil_iff.mpr
    intro other inRest
    rw [decide_eq_true_eq]
    rcases List.mem_cons.mp inRest with rfl | inAfter
    · exact String.lt_irrefl other.1
    · exact String.lt_asymm ((List.pairwise_cons.mp behind).1 other inAfter)
  rw [parts, List.filter_append, smaller, greater, List.append_nil]

end Questionnaire.Dictionary
