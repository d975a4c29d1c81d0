/-
# The characters of selectors

Names and tags hold no white space and no commas, so writing them next to spaces and
commas keeps words and chains apart. Tags in lower case are described here as well:
putting a tag into lower case gives one, and changes nothing about one.
-/

import Questionnaire.Proofs.Selector.Grammar

namespace Questionnaire

/-- A character that may stand inside a word of a selector: neither white space nor a
comma. -/
def IsWordCharacter (c : Char) : Prop :=
  Text.isWhiteSpace c = false ∧ c ≠ ','

instance (c : Char) : Decidable (IsWordCharacter c) :=
  inferInstanceAs (Decidable (_ ∧ _))

/-- One character or more, none of which ends a word. -/
def IsWord (word : List Char) : Prop :=
  word ≠ [] ∧ ∀ c ∈ word, IsWordCharacter c

instance (word : List Char) : Decidable (IsWord word) :=
  decidable_of_iff (word ≠ [] ∧ word.all (fun c => decide (IsWordCharacter c)) = true)
    (and_congr_right fun _ => by simp)

/-- An ASCII letter in lower case, and then such letters, digits and dashes. -/
def IsLowerTagName (name : List Char) : Prop :=
  ∃ first rest, name = first :: rest ∧ ('a' ≤ first ∧ first ≤ 'z') ∧
    ∀ c ∈ rest, ('a' ≤ c ∧ c ≤ 'z') ∨ ('0' ≤ c ∧ c ≤ '9') ∨ c = '-'

/-- The code points of white space. -/
def whiteSpaceCodes : List Nat :=
  [0x09, 0x0A, 0x0B, 0x0C, 0x0D, 0x20, 0x85, 0xA0, 0x1680, 0x2000, 0x2001, 0x2002, 0x2003, 0x2004,
   0x2005, 0x2006, 0x2007, 0x2008, 0x2009, 0x200A, 0x2028, 0x2029, 0x202F, 0x205F, 0x3000]

theorem mem_whiteSpaceCodes {c : Char} (white : Text.isWhiteSpace c = true) :
    c.toNat ∈ whiteSpaceCodes := by
  simp only [Text.isWhiteSpace, Bool.or_eq_true, Bool.and_eq_true, decide_eq_true_eq,
    beq_iff_eq] at white
  simp only [whiteSpaceCodes, List.mem_cons, List.not_mem_nil]
  omega

/-- What holds of no white space and not of the comma holds of characters of words
only. -/
theorem isWordCharacter_of {inClass : Char → Bool}
    (white : ∀ n ∈ whiteSpaceCodes, inClass (Char.ofNat n) = false) (comma : inClass ',' = false)
    {c : Char} (inside : inClass c = true) : IsWordCharacter c := by
  constructor
  · apply Bool.eq_false_iff.mpr
    intro isWhite
    have outside := white c.toNat (mem_whiteSpaceCodes isWhite)
    rw [Char.ofNat_toNat, inside] at outside
    exact Bool.noConfusion outside
  · rintro rfl
    exact Bool.noConfusion (inside.symm.trans comma)

theorem isWordCharacter_of_identifier {c : Char} (inside : isIdentifierCharacter c = true) :
    IsWordCharacter c :=
  isWordCharacter_of (by decide +kernel) (by decide +kernel) inside

theorem isWordCharacter_of_tag {c : Char} (inside : isTagTextCharacter c = true) :
    IsWordCharacter c :=
  isWordCharacter_of (by decide +kernel) (by decide) inside

/-! ## Lower case -/

/-- The characters up to the last letter are few. -/
theorem exists_code_of_le {c : Char} (least : c ≤ 'z') : ∃ n < 128, Char.ofNat n = c :=
  ⟨c.toNat, Nat.lt_of_le_of_lt (UInt32.le_iff_toNat_le.mp least) (by decide), c.ofNat_toNat⟩

theorem le_of_isTagCharacter {c : Char} (inside : isTagCharacter c = true) : c ≤ 'z' := by
  simp only [isTagCharacter, Text.isAsciiAlphanumeric, Text.isAsciiLetter, Text.isAsciiDigit,
    Bool.or_eq_true, Bool.and_eq_true, decide_eq_true_eq, beq_iff_eq] at inside
  rcases inside with ((lower | upper) | digit) | rfl
  · exact lower.2
  · exact Char.le_trans upper.2 (by decide)
  · exact Char.le_trans digit.2 (by decide)
  · decide

/-- Tags are put into lower case letter by letter. -/
theorem IsTagName.map_lowerLetter {name : List Char} (isTag : IsTagName name) :
    name.map lowerLetter = name.map Char.toLower := by
  have same : ∀ n < 128, lowerLetter (Char.ofNat n) = (Char.ofNat n).toLower := by decide +kernel
  apply List.map_congr_left
  intro c member
  obtain ⟨n, small, rfl⟩ := exists_code_of_le (le_of_isTagCharacter (isTag.all c member))
  exact same n small

/-- A tag in lower case. -/
theorem IsTagName.lower {name : List Char} (isTag : IsTagName name) :
    IsLowerTagName (name.map lowerLetter) := by
  have letters : ∀ n < 128, Text.isAsciiLetter (Char.ofNat n) = true →
      'a' ≤ lowerLetter (Char.ofNat n) ∧ lowerLetter (Char.ofNat n) ≤ 'z' := by decide +kernel
  have others : ∀ n < 128, isTagCharacter (Char.ofNat n) = true →
      ('a' ≤ lowerLetter (Char.ofNat n) ∧ lowerLetter (Char.ofNat n) ≤ 'z') ∨
        ('0' ≤ lowerLetter (Char.ofNat n) ∧ lowerLetter (Char.ofNat n) ≤ '9') ∨
        lowerLetter (Char.ofNat n) = '-' := by decide +kernel
  have inName := isTag.all
  obtain ⟨first, rest, rfl, letter, inside⟩ := isTag
  refine ⟨lowerLetter first, rest.map lowerLetter, rfl, ?_, ?_⟩
  · obtain ⟨n, small, rfl⟩ :=
      exists_code_of_le (le_of_isTagCharacter (inName first List.mem_cons_self))
    exact letters n small letter
  · intro _ member
    obtain ⟨c, isRest, rfl⟩ := List.mem_map.mp member
    obtain ⟨n, small, rfl⟩ := exists_code_of_le (le_of_isTagCharacter (inside c isRest))
    exact others n small (inside _ isRest)

theorem IsLowerTagName.isTagName {name : List Char} (isLower : IsLowerTagName name) :
    IsTagName name := by
  obtain ⟨first, rest, rfl, letter, inside⟩ := isLower
  refine ⟨first, rest, rfl, by simp [Text.isAsciiLetter, letter], ?_⟩
  intro c member
  simp only [isTagCharacter, Text.isAsciiAlphanumeric, Text.isAsciiLetter, Text.isAsciiDigit,
    Bool.or_eq_true, Bool.and_eq_true, decide_eq_true_eq, beq_iff_eq]
  rcases inside c member with lower | digit | dash
  · exact Or.inl (Or.inl (Or.inl lower))
  · exact Or.inl (Or.inr digit)
  · exact Or.inr dash

/-- A tag in lower case stays as it is. -/
theorem IsLowerTagName.map_lowerLetter {name : List Char} (isLower : IsLowerTagName name) :
    name.map lowerLetter = name := by
  have unchanged : ∀ n < 128, ('a' ≤ Char.ofNat n ∧ Char.ofNat n ≤ 'z') ∨
      ('0' ≤ Char.ofNat n ∧ Char.ofNat n ≤ '9') ∨ Char.ofNat n = '-' →
      lowerLetter (Char.ofNat n) = Char.ofNat n := by decide +kernel
  have inName := isLower.isTagName.all
  obtain ⟨first, rest, rfl, letter, inside⟩ := isLower
  have allowed : ∀ c ∈ first :: rest,
      ('a' ≤ c ∧ c ≤ 'z') ∨ ('0' ≤ c ∧ c ≤ '9') ∨ c = '-' :=
    List.forall_mem_cons.mpr ⟨Or.inl letter, inside⟩
  conv_rhs => rw [← List.map_id (first :: rest)]
  apply List.map_congr_left
  intro c member
  obtain ⟨n, small, rfl⟩ := exists_code_of_le (le_of_isTagCharacter (inName c member))
  exact unchanged n small (allowed _ member)

end Questionnaire
