/-
# Keys, restriction and inversion

The keys of a dictionary as a set, the part of a dictionary that belongs to some of its
keys, and the dictionary that leads back from values to keys. The last of these undoes a
dictionary only if no value belongs to two keys, which is a hypothesis here and has to be
shown of the dictionaries that are inverted.
-/

import Mathlib.Data.Finset.Card
import Questionnaire.Proofs.Dictionary

namespace Questionnaire.Dictionary

variable {α : Type} {key : String} {value : α}

/-! ## Keys -/

/-- The keys that have a value. -/
def keys (dictionary : Dictionary α) : Finset String :=
  (dictionary.entries.map Prod.fst).toFinset

theorem mem_keys_iff {dictionary : Dictionary α} :
    key ∈ dictionary.keys ↔ ∃ value, dictionary.get? key = some value := by
  simp [keys, get?_eq_some_iff_mem]

/-- There are as many keys as entries. -/
theorem card_keys (dictionary : Dictionary α) : dictionary.keys.card = dictionary.size := by
  have distinct : (dictionary.entries.map Prod.fst).Nodup := by
    apply List.pairwise_map.mpr
    apply dictionary.ascending.imp
    intro first second before same
    exact String.lt_irrefl second.1 (same ▸ before)
  rw [keys, List.toFinset_card_of_nodup distinct, List.length_map, size]

/-- A dictionary made from a list has the keys of the list. -/
theorem keys_ofList (entries : List (String × α)) :
    (ofList entries).keys = (entries.map Prod.fst).toFinset := by
  ext key
  simp only [mem_keys_iff, get?_ofList_eq_some_iff, List.mem_toFinset]
  constructor
  · rintro ⟨value, last⟩
    exact List.mem_map.mpr ⟨(key, value), last.mem, rfl⟩
  · intro member
    obtain ⟨entry, inside, rfl⟩ := List.mem_map.mp member
    obtain ⟨⟨other, value⟩, last, same⟩ := LastWith.exists_of_mem Prod.fst inside
    obtain rfl : other = entry.1 := same
    exact ⟨value, last⟩

/-! ## Restriction -/

/-- The entries whose keys are kept. -/
def restrict (dictionary : Dictionary α) (keeps : String → Bool) : Dictionary α :=
  ⟨dictionary.entries.filter fun entry => keeps entry.1, dictionary.ascending.filter _⟩

theorem get?_restrict (dictionary : Dictionary α) (keeps : String → Bool) :
    (dictionary.restrict keeps).get? key = if keeps key then dictionary.get? key else none := by
  ext value
  rw [get?_eq_some_iff_mem, restrict, List.mem_filter, ← get?_eq_some_iff_mem]
  cases keeps key <;> simp

/-! ## Inversion -/

/-- No two keys have one value. -/
def IsInjective (dictionary : Dictionary α) : Prop :=
  ∀ first second value, dictionary.get? first = some value →
    dictionary.get? second = some value → first = second

/-- The keys by their values. -/
def inverse (dictionary : Dictionary String) : Dictionary String :=
  ofList (dictionary.entries.map Prod.swap)

/-- The inverse leads back from values to keys, if no two keys have one value. -/
theorem IsInjective.get?_inverse_iff {dictionary : Dictionary String} {value : String}
    (injective : dictionary.IsInjective) :
    dictionary.inverse.get? value = some key ↔ dictionary.get? key = some value := by
  have leads : ∀ {key}, LastWith Prod.fst (value, key) (dictionary.entries.map Prod.swap) →
      dictionary.get? key = some value := by
    intro key last
    obtain ⟨entry, member, same⟩ := List.mem_map.mp last.mem
    obtain ⟨rfl, rfl⟩ := Prod.mk.inj same
    exact (get?_eq_some_iff_mem dictionary).mpr member
  rw [inverse, get?_ofList_eq_some_iff]
  constructor
  · exact leads
  · intro found
    have member : (value, key) ∈ dictionary.entries.map Prod.swap :=
      List.mem_map.mpr ⟨(key, value), (get?_eq_some_iff_mem dictionary).mp found, rfl⟩
    obtain ⟨⟨other, key'⟩, last, same⟩ := LastWith.exists_of_mem Prod.fst member
    obtain rfl : other = value := same
    obtain rfl := injective key key' other found (leads last)
    exact last

end Questionnaire.Dictionary
