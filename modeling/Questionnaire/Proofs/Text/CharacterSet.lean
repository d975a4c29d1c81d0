/-
# Members of combined sets

A walk over two ascending lists of changes gives the changes of the combined set, again in
ascending order. At every code point the number of changes passed so far decides membership, so
the walk is followed with the two flags that it carries: what they say together is kept, and a
change is listed where this answer turns. Unions, ranges and sets of single characters have the
members that their names promise.
-/

import Questionnaire.Text.CharacterSet

namespace Questionnaire.CharacterSet

/-! ## Lists of changes -/

/-- The changes come in ascending order. -/
def IsAscending (changes : List Nat) : Prop :=
  changes.Pairwise (· < ·)

section Changes

variable {codePoint change : Nat} {rest : List Nat}

/-- Below all changes is outside. -/
theorem inside_eq_false {changes : List Nat} (below : ∀ change ∈ changes, codePoint < change) :
    inside codePoint changes = false := by
  cases changes with
  | nil => rfl
  | cons change rest => exact if_neg (Nat.not_le.mpr (below change List.mem_cons_self))

/-- A change turns what a walk says from there on. -/
theorem xor_inside_cons (state : Bool) :
    (state ^^ inside codePoint (change :: rest)) =
      if change ≤ codePoint then (!state) ^^ inside codePoint rest else state := by
  rw [inside]
  split
  · rw [Bool.not_xor, Bool.xor_not]
  · rw [Bool.xor_false]

/-- Nothing turns before the first change. -/
theorem xor_inside_of_later (state : Bool) {changes : List Nat} (ahead : ¬change ≤ codePoint)
    (later : ∀ next ∈ changes, change < next) : (state ^^ inside codePoint changes) = state := by
  rw [inside_eq_false fun next member => Nat.lt_trans (Nat.lt_of_not_le ahead) (later next member),
    Bool.xor_false]

/-- A change that is listed only where the answer turns has the same effect. -/
theorem xor_inside_turn {before after : Bool} (later : ∀ next ∈ rest, change < next) :
    (before ^^ inside codePoint (turn before after change rest)) =
      if change ≤ codePoint then after ^^ inside codePoint rest else before := by
  unfold turn
  by_cases reached : change ≤ codePoint
  · rw [if_pos reached]
    split
    · next same => rw [same]
    · next turns =>
      rw [xor_inside_cons, if_pos reached, Bool.eq_not_of_ne (Ne.symm turns)]
  · rw [if_neg reached]
    split
    · exact xor_inside_of_later before reached later
    · rw [xor_inside_cons, if_neg reached]

theorem mem_of_mem_turn {before after : Bool} {next : Nat}
    (member : next ∈ turn before after change rest) : next = change ∨ next ∈ rest := by
  unfold turn at member
  split at member
  · exact Or.inr member
  · exact List.mem_cons.mp member

theorem isAscending_turn {before after : Bool} (later : ∀ next ∈ rest, change < next)
    (ascending : IsAscending rest) : IsAscending (turn before after change rest) := by
  unfold turn
  split
  · exact ascending
  · exact List.pairwise_cons.mpr ⟨later, ascending⟩

/-- What comes before the first change of an ascending list comes before all of them. -/
theorem later_cons {first : Nat} (less : change < first) (ascending : IsAscending (first :: rest)) :
    ∀ next ∈ first :: rest, change < next := by
  obtain ⟨later, _⟩ := List.pairwise_cons.mp ascending
  intro next member
  rcases List.mem_cons.mp member with rfl | behind
  · exact less
  · exact Nat.lt_trans less (later next behind)

end Changes

/-! ## The walk -/

section Walk

variable {keep : Bool → Bool → Bool} {inFirst inSecond : Bool} {first second : List Nat}

/-- The walk lists only changes of the two sets. -/
theorem mem_of_mem_combineFrom {change : Nat}
    (member : change ∈ combineFrom keep inFirst inSecond first second) :
    change ∈ first ∨ change ∈ second := by
  fun_induction combineFrom keep inFirst inSecond first second with
  | case1 => exact Or.inl member
  | case2 _ _ one first ih | case4 _ _ one first two second _ ih =>
      rcases mem_of_mem_turn member with rfl | behind
      · exact Or.inl List.mem_cons_self
      · exact (ih behind).imp_left (List.mem_cons_of_mem one)
  | case3 _ _ two second ih | case5 _ _ one first two second _ _ ih =>
      rcases mem_of_mem_turn member with rfl | behind
      · exact Or.inr List.mem_cons_self
      · exact (ih behind).imp_right (List.mem_cons_of_mem two)
  | case6 _ _ one first two second _ _ ih =>
      rcases mem_of_mem_turn member with rfl | behind
      · exact Or.inl List.mem_cons_self
      · exact (ih behind).imp (List.mem_cons_of_mem one) (List.mem_cons_of_mem two)

/-- What is later than both lists is later than the walk over them. -/
theorem later_combineFrom {change : Nat} (laterFirst : ∀ next ∈ first, change < next)
    (laterSecond : ∀ next ∈ second, change < next) :
    ∀ next ∈ combineFrom keep inFirst inSecond first second, change < next :=
  fun next member => (mem_of_mem_combineFrom member).elim (laterFirst next) (laterSecond next)

/-- A walk over ascending lists is ascending, and at every code point it says of both sets
together what the rule keeps. -/
theorem combineFrom_spec (ascendingFirst : IsAscending first) (ascendingSecond : IsAscending second)
    (codePoint : Nat) :
    IsAscending (combineFrom keep inFirst inSecond first second) ∧
      (keep inFirst inSecond ^^
          inside codePoint (combineFrom keep inFirst inSecond first second)) =
        keep (inFirst ^^ inside codePoint first) (inSecond ^^ inside codePoint second) := by
  fun_induction combineFrom keep inFirst inSecond first second with
  | case1 inFirst inSecond =>
      refine ⟨List.Pairwise.nil, ?_⟩
      rw [inside, Bool.xor_false, Bool.xor_false, Bool.xor_false]
  | case2 inFirst inSecond one first ih =>
      obtain ⟨laterFirst, ascendingFirst⟩ := List.pairwise_cons.mp ascendingFirst
      obtain ⟨ascending, answers⟩ := ih ascendingFirst ascendingSecond
      have later : ∀ next ∈ combineFrom keep (!inFirst) inSecond first [], one < next :=
        later_combineFrom laterFirst (by simp)
      refine ⟨isAscending_turn later ascending, ?_⟩
      rw [xor_inside_turn later, xor_inside_cons, answers]
      split <;> simp [inside]
  | case3 inFirst inSecond two second ih =>
      obtain ⟨laterSecond, ascendingSecond⟩ := List.pairwise_cons.mp ascendingSecond
      obtain ⟨ascending, answers⟩ := ih ascendingFirst ascendingSecond
      have later : ∀ next ∈ combineFrom keep inFirst (!inSecond) [] second, two < next :=
        later_combineFrom (by simp) laterSecond
      refine ⟨isAscending_turn later ascending, ?_⟩
      rw [xor_inside_turn later, xor_inside_cons, answers]
      split <;> simp [inside]
  | case4 inFirst inSecond one first two second less ih =>
      obtain ⟨laterFirst, ascendingFirst⟩ := List.pairwise_cons.mp ascendingFirst
      have laterSecond := later_cons less ascendingSecond
      obtain ⟨ascending, answers⟩ := ih ascendingFirst ascendingSecond
      have later : ∀ next ∈ combineFrom keep (!inFirst) inSecond first (two :: second),
          one < next := later_combineFrom laterFirst laterSecond
      refine ⟨isAscending_turn later ascending, ?_⟩
      rw [xor_inside_turn later, xor_inside_cons inFirst, answers]
      split
      · rfl
      · next ahead => rw [xor_inside_of_later inSecond ahead laterSecond]
  | case5 inFirst inSecond one first two second _ less ih =>
      obtain ⟨laterSecond, ascendingSecond⟩ := List.pairwise_cons.mp ascendingSecond
      have laterFirst := later_cons less ascendingFirst
      obtain ⟨ascending, answers⟩ := ih ascendingFirst ascendingSecond
      have later : ∀ next ∈ combineFrom keep inFirst (!inSecond) (one :: first) second,
          two < next := later_combineFrom laterFirst laterSecond
      refine ⟨isAscending_turn later ascending, ?_⟩
      rw [xor_inside_turn later, xor_inside_cons inSecond, answers]
      split
      · rfl
      · next ahead => rw [xor_inside_of_later inFirst ahead laterFirst]
  | case6 inFirst inSecond one first two second notLess notGreater ih =>
      obtain rfl := Nat.le_antisymm (Nat.le_of_not_lt notGreater) (Nat.le_of_not_lt notLess)
      obtain ⟨laterFirst, ascendingFirst⟩ := List.pairwise_cons.mp ascendingFirst
      obtain ⟨laterSecond, ascendingSecond⟩ := List.pairwise_cons.mp ascendingSecond
      obtain ⟨ascending, answers⟩ := ih ascendingFirst ascendingSecond
      have later : ∀ next ∈ combineFrom keep (!inFirst) (!inSecond) first second, one < next :=
        later_combineFrom laterFirst laterSecond
      refine ⟨isAscending_turn later ascending, ?_⟩
      rw [xor_inside_turn later, xor_inside_cons inFirst, xor_inside_cons inSecond, answers]
      split <;> rfl

end Walk

/-! ## Sets -/

section Sets

variable {first second : CharacterSet} {c : Char}

/-- A combined set has the members that the rule keeps. -/
theorem contains_combine {keep : Bool → Bool → Bool} (keepsNothing : keep false false = false)
    (ascendingFirst : IsAscending first.changes) (ascendingSecond : IsAscending second.changes) :
    (combine keep first second).contains c = keep (first.contains c) (second.contains c) := by
  have answers : (keep false false ^^ (combine keep first second).contains c) =
      keep (false ^^ first.contains c) (false ^^ second.contains c) :=
    (combineFrom_spec ascendingFirst ascendingSecond c.toNat).2
  rwa [keepsNothing, Bool.false_xor, Bool.false_xor, Bool.false_xor] at answers

theorem isAscending_union (ascendingFirst : IsAscending first.changes)
    (ascendingSecond : IsAscending second.changes) :
    IsAscending (first.union second).changes :=
  (combineFrom_spec ascendingFirst ascendingSecond 0).1

theorem contains_union (ascendingFirst : IsAscending first.changes)
    (ascendingSecond : IsAscending second.changes) :
    (first.union second).contains c = (first.contains c || second.contains c) :=
  contains_combine rfl ascendingFirst ascendingSecond

theorem isAscending_range (first last : Nat) : IsAscending (range first last).changes := by
  unfold range
  split
  · next ordered =>
    refine List.pairwise_cons.mpr ⟨?_, List.pairwise_singleton _ _⟩
    intro next member
    obtain rfl := List.mem_singleton.mp member
    exact Nat.lt_succ_of_le ordered
  · exact List.Pairwise.nil

theorem contains_range {first last : Nat} :
    (range first last).contains c = true ↔ first ≤ c.toNat ∧ c.toNat ≤ last := by
  unfold range contains
  split
  · simp only [inside]
    split
    · split <;> simp <;> omega
    · simp
      omega
  · simp only [none, inside]
    simp
    omega

theorem contains_single {codePoint : Nat} :
    (single codePoint).contains c = true ↔ c.toNat = codePoint := by
  rw [single, contains_range, Nat.le_antisymm_iff, and_comm]

/-- The members of a union of many sets, with those that were there before. -/
theorem foldl_union_spec {sets : List CharacterSet} {start : CharacterSet}
    (ascendingStart : IsAscending start.changes)
    (ascending : ∀ set ∈ sets, IsAscending set.changes) :
    IsAscending (sets.foldl union start).changes ∧
      ∀ c, (sets.foldl union start).contains c = true ↔
        start.contains c = true ∨ ∃ set ∈ sets, set.contains c = true := by
  induction sets generalizing start with
  | nil => simpa using ascendingStart
  | cons set others ih =>
      obtain ⟨ascendingSet, ascendingOthers⟩ := List.forall_mem_cons.mp ascending
      obtain ⟨result, answers⟩ := ih (isAscending_union ascendingStart ascendingSet) ascendingOthers
      refine ⟨result, fun c => ?_⟩
      rw [List.foldl_cons, answers, contains_union ascendingStart ascendingSet, Bool.or_eq_true_iff,
        or_assoc]
      simp only [List.mem_cons, exists_eq_or_imp]

theorem isAscending_unionAll {sets : List CharacterSet}
    (ascending : ∀ set ∈ sets, IsAscending set.changes) :
    IsAscending (unionAll sets).changes :=
  (foldl_union_spec List.Pairwise.nil ascending).1

/-- A union has the members of its sets. -/
theorem contains_unionAll {sets : List CharacterSet}
    (ascending : ∀ set ∈ sets, IsAscending set.changes) :
    (unionAll sets).contains c = true ↔ ∃ set ∈ sets, set.contains c = true := by
  have outside : none.contains c = false := rfl
  have empty : IsAscending none.changes := List.Pairwise.nil
  rw [unionAll, (foldl_union_spec empty ascending).2, outside]
  simp

end Sets

end Questionnaire.CharacterSet
