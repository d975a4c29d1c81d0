/-
# Splitting and joining

Splitting a text at separators undoes joining pieces with a separator, provided
the pieces hold no separator themselves and there is at least one of them. Joining
no pieces and joining one empty piece both give the empty text. What the pieces of a
text are is said by joining as well, without a reader that goes through the text.
-/

import Questionnaire.Text.WhiteSpace

namespace Questionnaire.Text

variable {separates : Char → Bool} {piece : List Char}

/-- A text without separators is its only piece. -/
theorem splitAtEvery_of_none (whole : ∀ c ∈ piece, separates c = false) :
    splitAtEvery separates piece = [piece] := by
  induction piece with
  | nil => rfl
  | cons c rest ih =>
      rw [splitAtEvery, whole c List.mem_cons_self,
        ih fun other member => whole other (List.mem_cons_of_mem c member)]
      rfl

/-- The first piece ends at the first separator. -/
theorem splitAtEvery_append_cons {separator : Char} (whole : ∀ c ∈ piece, separates c = false)
    (ends : separates separator = true) (rest : List Char) :
    splitAtEvery separates (piece ++ separator :: rest) = piece :: splitAtEvery separates rest := by
  induction piece with
  | nil => rw [List.nil_append, splitAtEvery, if_pos ends]
  | cons c others ih =>
      rw [List.cons_append, splitAtEvery, whole c List.mem_cons_self,
        ih fun other member => whole other (List.mem_cons_of_mem c member)]
      rfl

/-- There is always a piece. -/
theorem splitAtEvery_ne_nil (separates : Char → Bool) (cs : List Char) :
    splitAtEvery separates cs ≠ [] := by
  cases cs with
  | nil => exact List.cons_ne_nil _ _
  | cons c rest =>
      rw [splitAtEvery]
      split
      · exact List.cons_ne_nil _ _
      · split <;> exact List.cons_ne_nil _ _

/-- What stands before the first separator belongs to the first piece. -/
theorem splitAtEvery_append_of_none (whole : ∀ c ∈ piece, separates c = false)
    {cs first : List Char} {others : List (List Char)}
    (split : splitAtEvery separates cs = first :: others) :
    splitAtEvery separates (piece ++ cs) = (piece ++ first) :: others := by
  induction piece with
  | nil => exact split
  | cons c rest ih =>
      rw [List.cons_append, splitAtEvery, whole c List.mem_cons_self,
        ih fun other member => whole other (List.mem_cons_of_mem c member)]
      rfl

/-- A separator between two texts keeps their pieces apart. -/
theorem splitAtEvery_append {separator : Char} (ends : separates separator = true)
    (first second : List Char) :
    splitAtEvery separates (first ++ separator :: second) =
      splitAtEvery separates first ++ splitAtEvery separates second := by
  induction first with
  | nil => exact splitAtEvery_append_cons (by simp) ends second
  | cons c rest ih =>
      rw [List.cons_append, splitAtEvery, splitAtEvery, ih]
      split
      · rfl
      · obtain ⟨piece, pieces, found⟩ :=
          List.exists_cons_of_ne_nil (splitAtEvery_ne_nil separates rest)
        rw [found]
        rfl

/-- Splitting undoes joining. -/
theorem splitAtEvery_intercalate {separator : Char} (ends : separates separator = true)
    {pieces : List (List Char)} (nonempty : pieces ≠ [])
    (whole : ∀ piece ∈ pieces, ∀ c ∈ piece, separates c = false) :
    splitAtEvery separates (List.intercalate [separator] pieces) = pieces := by
  induction pieces with
  | nil => exact absurd rfl nonempty
  | cons first rest ih =>
      have firstWhole := whole first List.mem_cons_self
      cases rest with
      | nil => rw [List.intercalate_singleton, splitAtEvery_of_none firstWhole]
      | cons second others =>
          rw [List.intercalate_cons_cons, List.append_assoc, List.singleton_append,
            splitAtEvery_append_cons firstWhole ends,
            ih (List.cons_ne_nil second others) fun piece member =>
              whole piece (List.mem_cons_of_mem first member)]

/-- The second of two separators can be taken as the start of every later piece. -/
theorem intercalate_pair (outer inner : Char) (first : List Char) (others : List (List Char)) :
    List.intercalate [outer, inner] (first :: others) =
      List.intercalate [outer] (first :: others.map (inner :: ·)) := by
  induction others generalizing first with
  | nil => rw [List.map_nil, List.intercalate_singleton, List.intercalate_singleton]
  | cons second rest ih =>
      have moved : List.intercalate [outer] ((inner :: second) :: rest.map (inner :: ·)) =
          inner :: List.intercalate [outer] (second :: rest.map (inner :: ·)) := by
        cases rest <;> simp [List.intercalate_cons_cons]
      rw [List.map_cons, List.intercalate_cons_cons, List.intercalate_cons_cons, moved, ih]
      simp

/-- What is joined holds the separator and the characters of the pieces. -/
theorem mem_intercalate {separator c : Char} {pieces : List (List Char)}
    (member : c ∈ List.intercalate [separator] pieces) :
    c = separator ∨ ∃ piece ∈ pieces, c ∈ piece := by
  induction pieces with
  | nil => exact absurd member List.not_mem_nil
  | cons first rest ih =>
      by_cases last : rest = []
      · rw [last, List.intercalate_singleton] at member
        exact Or.inr ⟨first, List.mem_cons_self, member⟩
      · rw [List.intercalate_cons_of_ne_nil last, List.append_assoc] at member
        rcases List.mem_append.mp member with inFirst | behind
        · exact Or.inr ⟨first, List.mem_cons_self, inFirst⟩
        rcases List.mem_cons.mp behind with here | inRest
        · exact Or.inl here
        · exact (ih inRest).imp_right fun ⟨piece, member, inPiece⟩ =>
            ⟨piece, List.mem_cons_of_mem first member, inPiece⟩

/-- Joining keeps the characters of every piece. -/
theorem mem_intercalate_of_mem {separator c : Char} {pieces : List (List Char)}
    {piece : List Char} (member : piece ∈ pieces) (inPiece : c ∈ piece) :
    c ∈ List.intercalate [separator] pieces := by
  induction pieces with
  | nil => exact absurd member List.not_mem_nil
  | cons first rest ih =>
      by_cases last : rest = []
      · subst last
        rw [List.mem_singleton] at member
        rwa [List.intercalate_singleton, ← member]
      · rw [List.intercalate_cons_of_ne_nil last, List.append_assoc, List.mem_append]
        rcases List.mem_cons.mp member with rfl | inRest
        · exact Or.inl inPiece
        · exact Or.inr (List.mem_cons_of_mem separator (ih inRest))

/-- A text is cut at its last separator into what is before it and what is behind it. -/
structure IsCutAtLast (separator : Char) (cs before behind : List Char) : Prop where
  /-- The separator stands between the two. -/
  joined : before ++ separator :: behind = cs
  /-- No separator comes later. -/
  last : separator ∉ behind

/-- Behind the last separator stands what is read from the end up to a separator. -/
theorem IsCutAtLast.behind_eq {separator : Char} {cs before behind : List Char}
    (cut : IsCutAtLast separator cs before behind) :
    behind = (cs.reverse.takeWhile (· != separator)).reverse := by
  have whole : ∀ c ∈ behind.reverse, (c != separator) = true := by
    intro c member
    rw [bne_iff_ne]
    rintro rfl
    exact cut.last (List.mem_reverse.mp member)
  rw [← cut.joined, List.reverse_append, List.reverse_cons, List.append_assoc,
    List.takeWhile_append_of_pos whole]
  simp

/-- There is only one last separator. -/
theorem IsCutAtLast.unique {separator : Char} {cs before behind before' behind' : List Char}
    (cut : IsCutAtLast separator cs before behind)
    (cut' : IsCutAtLast separator cs before' behind') : before = before' ∧ behind = behind' := by
  obtain rfl : behind = behind' := cut.behind_eq.trans cut'.behind_eq.symm
  exact ⟨List.append_cancel_right (cut.joined.trans cut'.joined.symm), rfl⟩

/-- Pieces are what a separator cuts a text into. -/
structure IsSplitAt (separator : Char) (cs : List Char) (pieces : List (List Char)) : Prop where
  /-- Even the empty text is a piece. -/
  nonempty : pieces ≠ []
  /-- No piece could be cut further. -/
  whole : ∀ piece ∈ pieces, ∀ c ∈ piece, c ≠ separator
  /-- The pieces are all of the text. -/
  joined : List.intercalate [separator] pieces = cs

/-- The pieces that splitting finds are what the separator cuts the text into. -/
theorem isSplitAt_splitAtEvery (separator : Char) (cs : List Char) :
    IsSplitAt separator cs (splitAtEvery (fun c => c == separator) cs) := by
  induction cs with
  | nil =>
      rw [splitAtEvery]
      exact ⟨List.cons_ne_nil _ _, by simp, List.intercalate_singleton⟩
  | cons c rest ih =>
      rw [splitAtEvery]
      by_cases separates : c = separator
      · rw [if_pos (beq_iff_eq.mpr separates)]
        refine ⟨List.cons_ne_nil _ _, ?_, ?_⟩
        · simpa using ih.whole
        · rw [List.intercalate_cons_of_ne_nil ih.nonempty, ih.joined, separates]
          rfl
      · rw [if_neg (by simpa using separates)]
        obtain ⟨nonempty, whole, joined⟩ := ih
        cases found : splitAtEvery (fun c => c == separator) rest with
        | nil => exact absurd found nonempty
        | cons piece pieces =>
            rw [found] at whole joined
            have wholePiece : ∀ other ∈ c :: piece, other ≠ separator :=
              List.forall_mem_cons.mpr ⟨separates, whole piece List.mem_cons_self⟩
            refine ⟨List.cons_ne_nil _ _,
              List.forall_mem_cons.mpr ⟨wholePiece, (List.forall_mem_cons.mp whole).2⟩, ?_⟩
            rw [← joined]
            cases pieces with
            | nil => rw [List.intercalate_singleton, List.intercalate_singleton]
            | cons second others =>
                rw [List.intercalate_cons_cons, List.intercalate_cons_cons]
                rfl

/-- Pieces joined by their separator give the text back. -/
theorem IsSplitAt.ofList_intercalate {separator : Char} {source : String}
    {pieces : List (List Char)} (split : IsSplitAt separator source.toList pieces) :
    String.ofList (List.intercalate [separator] pieces) = source := by
  rw [split.joined, String.ofList_toList]

theorem isSplitAt_iff {separator : Char} {cs : List Char} {pieces : List (List Char)} :
    IsSplitAt separator cs pieces ↔ splitAtEvery (fun c => c == separator) cs = pieces := by
  constructor
  · rintro ⟨nonempty, whole, rfl⟩
    apply splitAtEvery_intercalate _ nonempty
    · intro piece member c inPiece
      exact beq_eq_false_iff_ne.mpr (whole piece member c inPiece)
    · exact beq_self_eq_true separator
  · rintro rfl
    exact isSplitAt_splitAtEvery separator cs

end Questionnaire.Text
