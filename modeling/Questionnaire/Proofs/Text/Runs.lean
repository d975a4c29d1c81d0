/-
# Runs and words

A reader that goes as far as it can cuts a text into a run of characters of one
class and a rest that does not go on with this class. Such a cut is unique. Words
are runs of this kind: what is left of a text when its white space is taken as
gaps. Both are described here without a reader, and the readers of the library are
shown to find exactly what is described. Trimming drops the outer gaps.
-/

import Mathlib.Data.List.TakeWhile
import Questionnaire.Proofs.Text.Splitting

namespace Questionnaire.Text

/-! ## Runs of a class of characters -/

/-- A text does not go on with a class of characters: it is at its end, or its first
character is of another class. -/
def StopsAt (inClass : Char → Bool) (rest : List Char) : Prop :=
  ∀ c ∈ rest.head?, inClass c = false

section Runs

variable {inClass : Char → Bool} {run other rest remaining : List Char}

theorem stopsAt_nil : StopsAt inClass [] := by
  rintro _ ⟨⟩

theorem stopsAt_cons {c : Char} : StopsAt inClass (c :: rest) ↔ inClass c = false := by
  simp [StopsAt]

theorem stopsAt_dropWhile (cs : List Char) : StopsAt inClass (cs.dropWhile inClass) := by
  intro c first
  have outside := List.head?_dropWhile_not inClass cs
  rw [Option.mem_def.mp first] at outside
  exact outside

/-- Nothing is taken where a text does not go on with the class. -/
theorem takeWhile_of_stopsAt (stops : StopsAt inClass rest) : rest.takeWhile inClass = [] := by
  cases rest with
  | nil => rfl
  | cons c _ => rw [List.takeWhile_cons, stopsAt_cons.mp stops]; rfl

/-- Nothing is dropped there either. -/
theorem dropWhile_of_stopsAt (stops : StopsAt inClass rest) : rest.dropWhile inClass = rest := by
  cases rest with
  | nil => rfl
  | cons c _ => rw [List.dropWhile_cons, stopsAt_cons.mp stops]; rfl

/-- A run that is followed by no more of its class is all that is taken. -/
theorem takeWhile_run (inside : ∀ c ∈ run, inClass c = true) (stops : StopsAt inClass rest) :
    (run ++ rest).takeWhile inClass = run := by
  rw [List.takeWhile_append_of_pos inside, takeWhile_of_stopsAt stops, List.append_nil]

/-- Nothing behind such a run is dropped. -/
theorem dropWhile_run (inside : ∀ c ∈ run, inClass c = true) (stops : StopsAt inClass rest) :
    (run ++ rest).dropWhile inClass = rest := by
  rw [List.dropWhile_append_of_pos inside, dropWhile_of_stopsAt stops]

/-- Every text can be cut into a run and a rest that does not go on with it. -/
theorem exists_run (inClass : Char → Bool) (cs : List Char) :
    ∃ run rest, cs = run ++ rest ∧ (∀ c ∈ run, inClass c = true) ∧ StopsAt inClass rest :=
  ⟨cs.takeWhile inClass, cs.dropWhile inClass, List.takeWhile_append_dropWhile.symm,
    fun _ member => List.mem_takeWhile_imp member, stopsAt_dropWhile cs⟩

/-- A run that the text does not start with is empty. -/
theorem run_eq_nil (inside : ∀ c ∈ run, inClass c = true) (stops : StopsAt inClass (run ++ rest)) :
    run = [] := by
  cases run with
  | nil => rfl
  | cons c _ =>
      have outside := stopsAt_cons.mp stops
      rw [inside c List.mem_cons_self] at outside
      exact Bool.noConfusion outside

/-- There is one way to cut a text into a run and a rest that does not go on with it. -/
theorem run_unique (inside : ∀ c ∈ run, inClass c = true) (stops : StopsAt inClass rest)
    (inside' : ∀ c ∈ other, inClass c = true) (stops' : StopsAt inClass remaining)
    (same : run ++ rest = other ++ remaining) : run = other ∧ rest = remaining := by
  have sameRun : run = other := by
    rw [← takeWhile_run inside stops, same, takeWhile_run inside' stops']
  exact ⟨sameRun, List.append_cancel_left (sameRun ▸ same)⟩

end Runs

/-! ## Words -/

/-- A text consists of words in this order: between two of them, and perhaps before
and behind them, stands white space, and no word holds any. -/
inductive HasWords : List Char → List (List Char) → Prop
  | blank {gap : List Char} : (∀ c ∈ gap, isWhiteSpace c = true) → HasWords gap []
  | word {gap word rest : List Char} {others : List (List Char)} :
    (∀ c ∈ gap, isWhiteSpace c = true) →
    word ≠ [] → (∀ c ∈ word, isWhiteSpace c = false) → StopsAt (fun c => !isWhiteSpace c) rest →
    HasWords rest others → HasWords (gap ++ (word ++ rest)) (word :: others)

theorem words_cons_of_isWhiteSpace {c : Char} (white : isWhiteSpace c = true) (rest : List Char) :
    words (c :: rest) = words rest := by
  rw [words, splitAtEvery, if_pos white]
  rfl

theorem words_append_of_white {gap : List Char} (white : ∀ c ∈ gap, isWhiteSpace c = true)
    (rest : List Char) : words (gap ++ rest) = words rest := by
  induction gap with
  | nil => rfl
  | cons c others ih =>
      rw [List.cons_append, words_cons_of_isWhiteSpace (white c List.mem_cons_self),
        ih fun other member => white other (List.mem_cons_of_mem c member)]

/-- The first word goes up to the first white space. -/
theorem words_append {word rest : List Char} (nonempty : word ≠ [])
    (whole : ∀ c ∈ word, isWhiteSpace c = false) (stops : StopsAt (fun c => !isWhiteSpace c) rest) :
    words (word ++ rest) = word :: words rest := by
  cases rest with
  | nil => simp [words, splitAtEvery_of_none whole, splitAtEvery, nonempty]
  | cons c rest =>
      have white : isWhiteSpace c = true := by simpa using stopsAt_cons.mp stops
      rw [words_cons_of_isWhiteSpace white, words, splitAtEvery_append_cons whole white]
      simp [words, nonempty]

/-- White space between two texts keeps their words apart. -/
theorem words_append_white {c : Char} (white : isWhiteSpace c = true) (first second : List Char) :
    words (first ++ c :: second) = words first ++ words second := by
  rw [words, splitAtEvery_append white, List.filter_append]
  rfl

/-- Only the words that are read are the words of a text. -/
theorem HasWords.words_eq {cs : List Char} {found : List (List Char)} (has : HasWords cs found) :
    words cs = found := by
  induction has with
  | @blank gap white =>
      rw [← List.append_nil gap, words_append_of_white white]
      rfl
  | word white nonempty whole stops _ ih =>
      rw [words_append_of_white white, words_append nonempty whole stops, ih]

/-- Every text consists of words. -/
theorem exists_hasWords (cs : List Char) : ∃ found, HasWords cs found := by
  obtain ⟨gap, below, rfl, white, starts⟩ := exists_run isWhiteSpace cs
  by_cases ends : below = []
  · exact ⟨[], ends ▸ .blank (by simpa using white)⟩
  · obtain ⟨word, after, rfl, black, stops⟩ := exists_run (fun c => !isWhiteSpace c) below
    -- What stands behind the gap starts with a character of a word.
    have nonempty : word ≠ [] := by
      rintro rfl
      cases after with
      | nil => exact ends rfl
      | cons first _ =>
          have contradiction := stopsAt_cons.mp stops
          rw [stopsAt_cons.mp starts] at contradiction
          exact Bool.noConfusion contradiction
    have shorter : after.length < (gap ++ (word ++ after)).length := by
      have positive := List.length_pos_iff.mpr nonempty
      simp only [List.length_append]
      omega
    obtain ⟨others, has⟩ := exists_hasWords after
    exact ⟨word :: others,
      .word white nonempty (fun c member => by simpa using black c member) stops has⟩
termination_by cs.length

/-- Reading the words of a text finds the words that it consists of. -/
theorem hasWords_iff {cs : List Char} {found : List (List Char)} :
    HasWords cs found ↔ words cs = found := by
  refine ⟨HasWords.words_eq, ?_⟩
  rintro rfl
  obtain ⟨found, has⟩ := exists_hasWords cs
  rwa [has.words_eq]

/-- White space in front of a text adds no words. -/
theorem HasWords.cons {c : Char} {cs : List Char} {found : List (List Char)}
    (white : isWhiteSpace c = true) (has : HasWords cs found) : HasWords (c :: cs) found := by
  rw [hasWords_iff] at has ⊢
  rw [words_cons_of_isWhiteSpace white, has]

/-- Only a blank text has no words. -/
theorem HasWords.eq_nil_iff {cs : List Char} {found : List (List Char)} (has : HasWords cs found) :
    found = [] ↔ isBlank cs = true := by
  constructor
  · rintro rfl
    cases has with
    | blank white => exact List.all_eq_true.mpr white
  · intro blank
    rw [← has.words_eq, (HasWords.blank (List.all_eq_true.mp blank)).words_eq]

/-- Words are not empty and hold no white space. -/
theorem HasWords.of_mem {cs word : List Char} {found : List (List Char)} (has : HasWords cs found)
    (member : word ∈ found) :
    word ≠ [] ∧ ∀ c ∈ word, isWhiteSpace c = false ∧ c ∈ cs := by
  induction has with
  | blank => exact absurd member List.not_mem_nil
  | word white nonempty whole _ _ ih =>
      rcases List.mem_cons.mp member with rfl | below
      · exact ⟨nonempty, fun c inWord => ⟨whole c inWord, by simp [inWord]⟩⟩
      · obtain ⟨nonempty', whole'⟩ := ih below
        exact ⟨nonempty', fun c inWord => ⟨(whole' c inWord).1, by simp [(whole' c inWord).2]⟩⟩

/-! ## Trimming -/

/-- A text has no white space around it: none at its start and none at its end. -/
structure IsTrimmed (cs : List Char) : Prop where
  /-- The text does not start with white space. -/
  start : StopsAt isWhiteSpace cs
  /-- Read from its end, it does not start with white space either. -/
  ending : StopsAt isWhiteSpace cs.reverse

/-- A beginning of a text does not start with what the text does not start with. -/
theorem StopsAt.of_prefix {inClass : Char → Bool} {front cs : List Char}
    (stops : StopsAt inClass cs) (begins : front <+: cs) : StopsAt inClass front := by
  obtain ⟨behind, rfl⟩ := begins
  cases front with
  | nil => exact stopsAt_nil
  | cons c rest => exact stopsAt_cons.mpr (stopsAt_cons.mp stops)

/-- Trimming leaves no white space around a text. -/
theorem isTrimmed_trim (cs : List Char) : IsTrimmed (trim cs) := by
  constructor
  · have begins : trim cs <+: trimLeading cs := by
      rw [trim, trimTrailing, ← List.reverse_suffix, List.reverse_reverse]
      exact List.dropWhile_suffix isWhiteSpace
    exact StopsAt.of_prefix (stopsAt_dropWhile cs) begins
  · rw [trim, trimTrailing, List.reverse_reverse]
    exact stopsAt_dropWhile _

end Questionnaire.Text
