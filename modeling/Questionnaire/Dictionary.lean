/-
# Dictionaries with text keys

A dictionary holds at most one value for each key and lists its entries in
ascending order of the keys, character by character from the left, which is
also the order of their UTF-8 bytes. The order is part of the type, so two
dictionaries with the same entries are equal, whatever the order in which the
entries were put in.
-/

namespace Questionnaire

/-- Entries with strictly ascending keys. -/
@[ext]
structure Dictionary (α : Type) where
  /-- The entries in ascending order of their keys. -/
  entries : List (String × α)
  /-- No key occurs twice, and a smaller key comes first. -/
  ascending : entries.Pairwise (fun first second => first.1 < second.1)

namespace Dictionary

variable {α : Type}

/-- Put a value into a list of entries at the place of its key, over the value
that the key may have had. -/
def insertEntry (key : String) (value : α) : List (String × α) → List (String × α)
  | [] => [(key, value)]
  | (other, kept) :: rest =>
    if key < other then (key, value) :: (other, kept) :: rest
    else if key = other then (key, value) :: rest
    else (other, kept) :: insertEntry key value rest

/-- A key of the result is the new key or was there before. -/
theorem mem_insertEntry {key : String} {value : α} {entries : List (String × α)}
    {entry : String × α} (member : entry ∈ insertEntry key value entries) :
    entry = (key, value) ∨ entry ∈ entries := by
  induction entries with
  | nil => simpa [insertEntry] using member
  | cons first rest ih =>
    obtain ⟨other, kept⟩ := first
    unfold insertEntry at member
    split at member
    · simpa using member
    · split at member
      · rcases List.mem_cons.mp member with found | found
        · exact Or.inl found
        · exact Or.inr (List.mem_cons_of_mem _ found)
      · rcases List.mem_cons.mp member with found | found
        · exact Or.inr (found ▸ List.mem_cons_self)
        · exact (ih found).imp_right (List.mem_cons_of_mem _)

/-- Insertion keeps the keys strictly ascending. -/
theorem insertEntry_ascending (key : String) (value : α) {entries : List (String × α)}
    (ascending : entries.Pairwise (fun first second => first.1 < second.1)) :
    (insertEntry key value entries).Pairwise (fun first second => first.1 < second.1) := by
  induction entries with
  | nil => simp [insertEntry]
  | cons first rest ih =>
    obtain ⟨other, kept⟩ := first
    have parts := List.pairwise_cons.mp ascending
    unfold insertEntry
    split
    · next before =>
      refine List.pairwise_cons.mpr ⟨fun entry member => ?_, ascending⟩
      rcases List.mem_cons.mp member with found | found
      · exact found ▸ before
      · exact String.lt_trans before (parts.1 entry found)
    · next notBefore =>
      split
      · next same =>
        exact List.pairwise_cons.mpr ⟨fun entry member => same ▸ parts.1 entry member, parts.2⟩
      · next different =>
        refine List.pairwise_cons.mpr ⟨fun entry member => ?_, ih parts.2⟩
        rcases mem_insertEntry member with found | found
        · have after : other < key :=
            Classical.byContradiction fun notAfter =>
              different (String.le_antisymm notAfter notBefore)
          exact found ▸ after
        · exact parts.1 entry found

/-- The dictionary without entries. -/
def empty : Dictionary α := ⟨[], List.Pairwise.nil⟩

instance : Inhabited (Dictionary α) := ⟨empty⟩

instance : EmptyCollection (Dictionary α) := ⟨empty⟩

instance [DecidableEq α] : DecidableEq (Dictionary α) := fun first second =>
  if same : first.entries = second.entries then isTrue (Dictionary.ext same)
  else isFalse fun equal => same (congrArg entries equal)

instance [Repr α] : Repr (Dictionary α) :=
  ⟨fun dictionary depth => reprPrec dictionary.entries depth⟩

/-- Give a key a value, in place of the value that it had. -/
def insert (dictionary : Dictionary α) (key : String) (value : α) : Dictionary α :=
  ⟨insertEntry key value dictionary.entries,
    insertEntry_ascending key value dictionary.ascending⟩

/-- The value of a key. -/
def get? (dictionary : Dictionary α) (key : String) : Option α :=
  dictionary.entries.lookup key

/-- Insert the entries of a list from left to right, so that the last value
given to a key stays. -/
def insertAll (dictionary : Dictionary α) (entries : List (String × α)) : Dictionary α :=
  entries.foldl (fun result entry => result.insert entry.1 entry.2) dictionary

/-- The dictionary of a list of entries, in which the last value of a key
counts. -/
def ofList (entries : List (String × α)) : Dictionary α :=
  empty.insertAll entries

/-- The number of entries. -/
def size (dictionary : Dictionary α) : Nat :=
  dictionary.entries.length

/-- Whether there is no entry. -/
def isEmpty (dictionary : Dictionary α) : Bool :=
  dictionary.entries.isEmpty

end Dictionary

end Questionnaire
