/-
# The collection of fields

The fields of a document arrive one by one. A field takes the place of the field
that has its id, and stands at the end where there is none. Whatever the pattern
of repeated ids, position is thus decided by the first field of an id and content
by the last one.
-/

import Questionnaire.Extraction
import Questionnaire.Proofs.LastOccurrence

namespace Questionnaire.Extraction

/-- Placing a field adds its id at the end, unless the id is there. -/
theorem map_id_place (fields : List Field) (field : Field) :
    (place fields field).map Field.id =
      if field.id ∈ fields.map Field.id then fields.map Field.id
      else fields.map Field.id ++ [field.id] := by
  induction fields with
  | nil => rfl
  | cons first rest ih =>
      rw [place]
      by_cases same : first.id = field.id
      · simp [same]
      · rw [if_neg same, List.map_cons, ih]
        by_cases present : field.id ∈ rest.map Field.id
        · simp [present]
        · simp [present, Ne.symm same]

/-- Among fields with distinct ids, placing a field puts out the field of its id and
no other one. -/
theorem mem_place_iff {fields : List Field} {field other : Field}
    (distinct : (fields.map Field.id).Nodup) :
    other ∈ place fields field ↔ other = field ∨ field.id ≠ other.id ∧ other ∈ fields := by
  induction fields with
  | nil => simp [place]
  | cons first rest ih =>
      rw [List.map_cons, List.nodup_cons] at distinct
      obtain ⟨fresh, distinct⟩ := distinct
      rw [place]
      by_cases same : first.id = field.id
      · have notBelow : other ∈ rest → field.id ≠ other.id := fun member equal =>
          fresh (same.trans equal ▸ List.mem_map_of_mem member)
        rw [if_pos same, List.mem_cons, List.mem_cons]
        constructor
        · rintro (here | below)
          · exact Or.inl here
          · exact Or.inr ⟨notBelow below, Or.inr below⟩
        · rintro (here | ⟨different, here | below⟩)
          · exact Or.inl here
          · exact absurd (here ▸ same.symm) different
          · exact Or.inr below
      · rw [if_neg same, List.mem_cons, List.mem_cons, ih distinct]
        constructor
        · rintro (here | here | ⟨different, below⟩)
          · exact Or.inr ⟨here ▸ Ne.symm same, Or.inl here⟩
          · exact Or.inl here
          · exact Or.inr ⟨different, Or.inr below⟩
        · rintro (here | ⟨different, here | below⟩)
          · exact Or.inr (Or.inl here)
          · exact Or.inl here
          · exact Or.inr (Or.inr ⟨different, below⟩)

/-- A new item at the end of a list is one more first occurrence, unless it is in the
list. -/
theorem eraseDups_concat (ids : List String) (id : String) :
    (ids ++ [id]).eraseDups = if id ∈ ids then ids.eraseDups else ids.eraseDups ++ [id] := by
  have fresh : [id].removeAll ids = if id ∈ ids then [] else [id] := by
    by_cases present : id ∈ ids <;> simp [List.removeAll, present]
  rw [List.eraseDups_append, fresh]
  split
  · exact List.append_nil _
  · rfl

/-- The ids of a collection are those of the fields that arrived, each one where it
arrived first. -/
theorem map_id_collect (found : List Field) :
    (found.foldl place []).map Field.id = (found.map Field.id).eraseDups := by
  induction found using List.reverseRecOn with
  | nil => rfl
  | append_singleton found field ih =>
      rw [List.foldl_append, List.foldl_cons, List.foldl_nil, map_id_place, ih, List.map_append,
        List.map_singleton, eraseDups_concat]
      simp only [List.mem_eraseDups]

/-- No two fields of a collection have one id. -/
theorem collect_distinct (found : List Field) :
    ((found.foldl place []).map Field.id).Nodup := by
  induction found using List.reverseRecOn with
  | nil => exact List.nodup_nil
  | append_singleton found field ih =>
      rw [List.foldl_append, List.foldl_cons, List.foldl_nil, map_id_place]
      split
      · exact ih
      · next absent =>
        refine List.nodup_append.mpr ⟨ih, List.pairwise_singleton _ field.id, ?_⟩
        rintro id inside _ added rfl
        exact absent (List.mem_singleton.mp added ▸ inside)

/-- A field is in the collection if it was the last one of its id to arrive. -/
theorem mem_collect_iff {found : List Field} {field : Field} :
    field ∈ found.foldl place [] ↔ LastWith Field.id field found := by
  induction found using List.reverseRecOn with
  | nil => simp [LastWith.not_nil]
  | append_singleton found new ih =>
      rw [List.foldl_append, List.foldl_cons, List.foldl_nil,
        mem_place_iff (collect_distinct found), ih, LastWith.concat_iff]

/-- What it means that fields are the collection of the fields that arrived. -/
structure IsCollectionOf (found fields : List Field) : Prop where
  /-- No two fields have one id. -/
  distinct : (fields.map Field.id).Nodup
  /-- The ids stand in the order of their first arrival. -/
  order : fields.map Field.id = (found.map Field.id).eraseDups
  /-- Each field is the last one of its id to arrive. -/
  latest : ∀ field ∈ fields, LastWith Field.id field found

/-- Fields that were the last ones of their ids to arrive are told apart by ids. -/
theorem eq_of_map_id_eq {found : List Field} :
    ∀ {first second : List Field}, first.map Field.id = second.map Field.id →
      (∀ field ∈ first, LastWith Field.id field found) →
      (∀ field ∈ second, LastWith Field.id field found) → first = second
  | [], [], _, _, _ => rfl
  | [], _ :: _, same, _, _ => by cases same
  | _ :: _, [], same, _, _ => by cases same
  | field :: first, other :: second, same, latest, latest' => by
      obtain ⟨head, tail⟩ := List.cons.inj same
      rw [List.forall_mem_cons] at latest latest'
      rw [latest.1.unique latest'.1 head, eq_of_map_id_eq tail latest.2 latest'.2]

/-- The collection of the fields that arrived is the only one there is. -/
theorem isCollectionOf_iff {found fields : List Field} :
    IsCollectionOf found fields ↔ fields = found.foldl place [] := by
  have collected : IsCollectionOf found (found.foldl place []) :=
    ⟨collect_distinct found, map_id_collect found, fun _ member => mem_collect_iff.mp member⟩
  constructor
  · intro given
    exact eq_of_map_id_eq (given.order.trans collected.order.symm) given.latest collected.latest
  · rintro rfl
    exact collected

/-- Among fields with distinct ids, looking for the id of one of them finds it. -/
theorem find?_id_of_mem {fields : List Field} (distinct : (fields.map Field.id).Nodup)
    {field : Field} (member : field ∈ fields) :
    fields.find? (fun other => other.id == field.id) = some field := by
  induction fields with
  | nil => cases member
  | cons first rest ih =>
      rw [List.map_cons, List.nodup_cons] at distinct
      rcases List.mem_cons.mp member with rfl | below
      · simp
      · have different : first.id ≠ field.id := fun same =>
          distinct.1 (same ▸ List.mem_map_of_mem below)
        simpa [different] using ih distinct.2 below

end Questionnaire.Extraction
