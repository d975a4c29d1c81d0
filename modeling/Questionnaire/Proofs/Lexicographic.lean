/-
# Lexicographic order

Document order compares paths, and the order of texts compares characters or bytes;
both are lexicographic. A list comes before another one in one of two ways: it is a
beginning of the other, or the two part behind a common beginning. Only in the second
case does the order survive whatever is put behind the lists, so the cases are kept
apart here.
-/

namespace Questionnaire

variable {α : Type} [LT α]

/-- Two lists part behind a common beginning, and the first of them goes on with the
smaller item. -/
def PartsBelow (first second : List α) : Prop :=
  ∃ shared smaller greater rest rest', smaller < greater ∧
    first = shared ++ smaller :: rest ∧ second = shared ++ greater :: rest'

namespace PartsBelow

variable {first second : List α}

theorem lt (parts : PartsBelow first second) : first < second := by
  obtain ⟨shared, smaller, greater, rest, rest', less, rfl, rfl⟩ := parts
  exact List.append_left_lt (List.cons_lt_cons_iff.mpr (Or.inl less))

/-- Lists that have parted do not meet again. -/
theorem append (parts : PartsBelow first second) (behind behind' : List α) :
    PartsBelow (first ++ behind) (second ++ behind') := by
  obtain ⟨shared, smaller, greater, rest, rest', less, rfl, rfl⟩ := parts
  exact ⟨shared, smaller, greater, rest ++ behind, rest' ++ behind', less, by simp, by simp⟩

theorem append_left (front : List α) (parts : PartsBelow first second) :
    PartsBelow (front ++ first) (front ++ second) := by
  obtain ⟨shared, smaller, greater, rest, rest', less, rfl, rfl⟩ := parts
  exact ⟨front ++ shared, smaller, greater, rest, rest', less, by simp, by simp⟩

end PartsBelow

/-- A list that comes before another one is a beginning of it or parts from it. -/
theorem prefix_or_partsBelow {first second : List α} (before : first < second) :
    first <+: second ∨ PartsBelow first second := by
  induction first generalizing second with
  | nil => exact Or.inl List.nil_prefix
  | cons item rest ih =>
      cases second with
      | nil => exact absurd before (List.not_lt_nil _)
      | cons other others =>
          rcases List.cons_lt_cons_iff.mp before with less | ⟨rfl, below⟩
          · exact Or.inr ⟨[], item, other, rest, others, less, rfl, rfl⟩
          · exact (ih below).imp (List.prefix_cons_inj item).mpr (PartsBelow.append_left [item])

end Questionnaire
