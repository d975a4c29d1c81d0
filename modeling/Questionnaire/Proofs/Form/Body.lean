/-
# What a body says

A body stands for its pairs and for nothing else. From the pairs the texts under every id
can be told, but not whether a text was given by itself or as a list of one, nor whether an
empty list was given at all. These are the only differences between parameters that a body
does not show. A body is made of few characters, whatever is submitted with it.
-/

import Questionnaire.Proofs.Form.Submission
import Questionnaire.Proofs.FormEncoding

namespace Questionnaire

/-! ## Characters -/

namespace FormEncoding

/-- The characters that bodies are made of. -/
def IsBodyCharacter (c : Char) : Prop :=
  Text.isAsciiLetter c = true ∨ Text.isAsciiDigit c = true ∨ c ∈ "*-._+%=&".toList

theorem isBodyCharacter_of_isPlain {c : Char} (plain : isPlain c = true) : IsBodyCharacter c := by
  simp only [isPlain, Text.isAsciiAlphanumeric, Bool.or_eq_true, beq_iff_eq] at plain
  rcases plain with ((((letter | digit) | rfl) | rfl) | rfl) | rfl
  · exact Or.inl letter
  · exact Or.inr (Or.inl digit)
  all_goals exact Or.inr (Or.inr (by decide))

theorem isBodyCharacter_of_mem_encodeText {text : String} {c : Char}
    (member : c ∈ encodeText text) : IsBodyCharacter c := by
  rcases mem_encodeText member with plain | rfl | rfl
  · exact isBodyCharacter_of_isPlain plain
  all_goals exact Or.inr (Or.inr (by decide))

theorem isBodyCharacter_of_mem_encodePairs {pairs : List (String × String)} {c : Char}
    (member : c ∈ (encodePairs pairs).toList) : IsBodyCharacter c := by
  rw [encodePairs, String.toList_ofList] at member
  rcases Text.mem_intercalate member with rfl | ⟨piece, written, inPiece⟩
  · exact Or.inr (Or.inr (by decide))
  obtain ⟨pair, _, rfl⟩ := List.mem_map.mp written
  rcases List.mem_append.mp inPiece with inName | rest
  · exact isBodyCharacter_of_mem_encodeText inName
  rcases List.mem_cons.mp rest with rfl | inValue
  · exact Or.inr (Or.inr (by decide))
  · exact isBodyCharacter_of_mem_encodeText inValue

/-- Different pairs are written differently. -/
theorem encodePairs_inj {first second : List (String × String)} :
    encodePairs first = encodePairs second ↔ first = second := by
  constructor
  · intro same
    have back := decodePairs?_encodePairs first
    rw [same, decodePairs?_encodePairs] at back
    exact (Option.some.inj back).symm
  · rintro rfl
    rfl

/-- Nothing is written only where there is no pair. -/
theorem encodePairs_eq_empty_iff {pairs : List (String × String)} :
    encodePairs pairs = "" ↔ pairs = [] := by
  have nothing : encodePairs [] = "" := rfl
  rw [← nothing, encodePairs_inj]

end FormEncoding

/-! ## Pairs -/

theorem valuesOf_cons (pair : String × String) (rest : List (String × String)) (key : String) :
    valuesOf (pair :: rest) key =
      if pair.1 = key then pair.2 :: valuesOf rest key else valuesOf rest key := by
  by_cases here : pair.1 = key <;> simp [valuesOf, here]

theorem valuesOf_cons_self (pair : String × String) (rest : List (String × String)) :
    valuesOf (pair :: rest) pair.1 = pair.2 :: valuesOf rest pair.1 := by
  rw [valuesOf_cons, if_pos rfl]

/-- No key that has a value comes before the key of the first pair. -/
theorem le_of_valuesOf_ne_nil {pair : String × String} {rest : List (String × String)}
    (ascending : (pair :: rest).Pairwise (fun first second => first.1 ≤ second.1)) {key : String}
    (given : valuesOf (pair :: rest) key ≠ []) : pair.1 ≤ key := by
  obtain ⟨value, member⟩ := List.exists_mem_of_ne_nil _ given
  obtain ⟨other, found, rfl⟩ := List.mem_map.mp member
  obtain ⟨present, isKey⟩ := List.mem_filter.mp found
  rw [beq_iff_eq] at isKey
  rcases List.mem_cons.mp present with rfl | behind
  · exact isKey ▸ String.le_refl _
  · exact isKey ▸ (List.pairwise_cons.mp ascending).1 other behind

/-- Pairs in ascending order of their keys are told by the values of all keys. -/
theorem eq_of_valuesOf_eq {first second : List (String × String)}
    (ascending : first.Pairwise (fun first second => first.1 ≤ second.1))
    (ascending' : second.Pairwise (fun first second => first.1 ≤ second.1))
    (same : ∀ key, valuesOf first key = valuesOf second key) : first = second := by
  induction first generalizing second with
  | nil =>
      cases second with
      | nil => rfl
      | cons pair rest =>
          have absent := same pair.1
          rw [valuesOf_cons_self] at absent
          cases absent
  | cons pair rest ih =>
      cases second with
      | nil =>
          have absent := same pair.1
          rw [valuesOf_cons_self] at absent
          cases absent
      | cons other others =>
          -- In both lists the key of the first pair is the least key that has a value.
          have sameKey : pair.1 = other.1 := by
            apply String.le_antisymm
            · apply le_of_valuesOf_ne_nil ascending
              rw [same, valuesOf_cons_self]
              exact List.cons_ne_nil _ _
            · apply le_of_valuesOf_ne_nil ascending'
              rw [← same, valuesOf_cons_self]
              exact List.cons_ne_nil _ _
          have values := same pair.1
          rw [valuesOf_cons_self, sameKey, valuesOf_cons_self] at values
          obtain rfl : pair = other := Prod.ext sameKey (List.cons.inj values).1
          have below : ∀ key, valuesOf rest key = valuesOf others key := by
            intro key
            have whole := same key
            rw [valuesOf_cons, valuesOf_cons] at whole
            split at whole
            · exact (List.cons.inj whole).2
            · exact whole
          rw [ih (List.pairwise_cons.mp ascending).2 (List.pairwise_cons.mp ascending').2 below]

namespace Parameters

variable {parameters first second : Parameters}

/-- What it means that pairs submit parameters. -/
structure AreSubmittedBy (parameters : Parameters) (pairs : List (String × String)) : Prop where
  /-- The ids come in ascending order. -/
  ascending : pairs.Pairwise (fun first second => first.1 ≤ second.1)
  /-- An id has one pair for a single text and one for each text of a list, in order. -/
  values : ∀ id, valuesOf pairs id =
    match parameters.get? id with
    | some (.single text) => [text]
    | some (.multiple texts) => texts
    | none => []

/-- Parameters are submitted by one list of pairs only. -/
theorem areSubmittedBy_iff {pairs : List (String × String)} :
    parameters.AreSubmittedBy pairs ↔ pairs = parameters.pairs := by
  have submitted : parameters.AreSubmittedBy parameters.pairs := by
    refine ⟨pairs_ascending parameters, ?_⟩
    intro id
    rw [valuesOf_pairs]
    cases parameters.get? id with
    | none => rfl
    | some answer => cases answer <;> rfl
  constructor
  · intro given
    apply eq_of_valuesOf_eq given.ascending submitted.ascending
    intro id
    rw [given.values, submitted.values]
  · rintro rfl
    exact submitted

theorem pairs_eq_nil_iff :
    parameters.pairs = [] ↔ ∀ id answer, parameters.get? id = some answer →
      answer = .multiple [] := by
  have empty : ∀ answer : Answer, answer.texts = [] ↔ answer = .multiple [] := by
    intro answer
    cases answer <;> simp [Answer.texts]
  simp only [pairs, List.flatMap_eq_nil_iff, List.map_eq_nil_iff, empty, Prod.forall,
    Dictionary.get?_eq_some_iff_mem]

end Parameters

/-! ## Bodies -/

/-- What may stand under one id of two parameters that are submitted alike. -/
inductive SubmittedAlike : Option Answer → Option Answer → Prop
  /-- The same answer, or none. -/
  | same (answer : Option Answer) : SubmittedAlike answer answer
  /-- A text, and the list of it alone. -/
  | listed (text : String) : SubmittedAlike (some (.single text)) (some (.multiple [text]))
  /-- The list of one text, and the text. -/
  | alone (text : String) : SubmittedAlike (some (.multiple [text])) (some (.single text))
  /-- No answer, and the empty list. -/
  | emptied : SubmittedAlike none (some (.multiple []))
  /-- The empty list, and no answer. -/
  | dropped : SubmittedAlike (some (.multiple [])) none

theorem submittedAlike_iff {first second : Option Answer} :
    SubmittedAlike first second ↔
      (first.map Answer.texts).getD [] = (second.map Answer.texts).getD [] := by
  constructor
  · rintro (_ | _ | _ | _ | _) <;> rfl
  · intro same
    rcases first with _ | text | texts <;> rcases second with _ | text' | texts'
    case none.none => exact .same none
    case none.some.multiple =>
      obtain rfl : [] = texts' := same
      exact .emptied
    case some.single.some.single =>
      obtain rfl : text = text' := List.singleton_inj.mp same
      exact .same _
    case some.single.some.multiple =>
      obtain rfl : [text] = texts' := same
      exact .listed text
    case some.multiple.none =>
      obtain rfl : texts = [] := same
      exact .dropped
    case some.multiple.some.single =>
      obtain rfl : texts = [text'] := same
      exact .alone text'
    case some.multiple.some.multiple =>
      obtain rfl : texts = texts' := same
      exact .same _
    all_goals cases same

theorem Parameters.pairs_eq_iff {first second : Parameters} :
    first.pairs = second.pairs ↔ ∀ id, SubmittedAlike (first.get? id) (second.get? id) := by
  simp only [submittedAlike_iff, ← valuesOf_pairs]
  constructor
  · intro same id
    rw [same]
  · exact eq_of_valuesOf_eq (pairs_ascending first) (pairs_ascending second)

/-- A body is one line. -/
theorem Parameters.newline_not_mem_body (parameters : Parameters) :
    '\n' ∉ parameters.body.toList := by
  intro member
  rcases FormEncoding.isBodyCharacter_of_mem_encodePairs member with letter | digit | mark
  · exact absurd letter (by decide)
  · exact absurd digit (by decide)
  · exact absurd mark (by decide)

/-- Whatever the parameters are, their body is read back as the one list of pairs that
submits them: in ascending order of the ids, one pair for a single text, one for each text
of a list, and none for an empty list. The body is empty only if there is nothing but empty
lists, and it is made of ASCII letters, digits and eight other characters. Two parameters
have one body exactly if they have the same pairs, and then they differ at most by single
texts against lists of one and by empty lists. -/
theorem Parameters.body_tells_pairs :
    (∀ parameters : Parameters,
      FormEncoding.decodePairs? parameters.body = some parameters.pairs ∧
      (∀ pairs, parameters.AreSubmittedBy pairs ↔ pairs = parameters.pairs) ∧
      (parameters.body = "" ↔
        ∀ id answer, parameters.get? id = some answer → answer = .multiple []) ∧
      ∀ c ∈ parameters.body.toList,
        Text.isAsciiLetter c = true ∨ Text.isAsciiDigit c = true ∨ c ∈ "*-._+%=&".toList) ∧
    ∀ first second : Parameters,
      (first.body = second.body ↔ first.pairs = second.pairs) ∧
      (first.body = second.body ↔
        ∀ id, SubmittedAlike (first.get? id) (second.get? id)) := by
  refine ⟨?_, ?_⟩
  · intro parameters
    refine ⟨FormEncoding.decodePairs?_encodePairs parameters.pairs,
      fun pairs => areSubmittedBy_iff, ?_, fun c => FormEncoding.isBodyCharacter_of_mem_encodePairs⟩
    rw [body, FormEncoding.encodePairs_eq_empty_iff, pairs_eq_nil_iff]
  · intro first second
    have bodies : first.body = second.body ↔ first.pairs = second.pairs :=
      FormEncoding.encodePairs_inj
    exact ⟨bodies, bodies.trans pairs_eq_iff⟩

example : Parameters.body (Dictionary.ofList [("1", .single "a&b"), ("2", .multiple [])]) =
    Parameters.body (Dictionary.ofList [("1", .multiple ["a&b"])]) := by
  decide +kernel

end Questionnaire
