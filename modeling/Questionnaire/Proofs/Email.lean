/-
# The language of e-mail addresses

The pattern for addresses is full of optional and repeated parts, and there are many ways in
which it could describe a text. What comes out is a rule without patterns: one at sign, a name
of plain characters before it, and behind it two or more labels with dots between them. The
bound of 63 characters for a label is the sum of the two ends, which stand by themselves, and
the 61 characters between them. The pattern is usually written as a text, and reading that
text gives a pattern that is found in the same texts.
-/

import Questionnaire.Email
import Questionnaire.Pattern.Parser
import Questionnaire.Proofs.Pattern.Match
import Questionnaire.Proofs.Text.CharacterSet
import Questionnaire.Proofs.Text.Splitting
import Questionnaire.Text.Ascii

namespace Questionnaire

/-! ## Classes of characters -/

namespace Email

open CharacterSet TextPattern

theorem isAscending_setOf (characters : String) : IsAscending (setOf characters).changes := by
  apply isAscending_unionAll
  intro set member
  obtain ⟨c, _, rfl⟩ := List.mem_map.mp member
  exact isAscending_range _ _

/-- The set of some characters holds these characters. -/
theorem contains_setOf {characters : String} {c : Char} :
    (setOf characters).contains c = true ↔ c ∈ characters.toList := by
  have ascending : ∀ set ∈ characters.toList.map (fun c => single c.toNat),
      IsAscending set.changes := by
    intro set member
    obtain ⟨c, _, rfl⟩ := List.mem_map.mp member
    exact isAscending_range _ _
  rw [setOf, contains_unionAll ascending]
  constructor
  · rintro ⟨set, member, inside⟩
    obtain ⟨d, isOne, rfl⟩ := List.mem_map.mp member
    rwa [Char.toNat_inj.mp (contains_single.mp inside)]
  · intro isOne
    exact ⟨_, List.mem_map_of_mem isOne, contains_single.mpr rfl⟩

/-- The set of a single character. -/
theorem contains_setOf_iff_eq {characters : String} {only c : Char}
    (single : characters.toList = [only]) :
    (setOf characters).contains c = true ↔ c = only := by
  rw [contains_setOf, single, List.mem_singleton]

theorem isAscending_alphanumerics : IsAscending alphanumerics.changes :=
  isAscending_union (isAscending_union (isAscending_range _ _) (isAscending_range _ _))
    (isAscending_range _ _)

theorem contains_alphanumerics {c : Char} :
    alphanumerics.contains c = true ↔ Text.isAsciiAlphanumeric c = true := by
  have digits : IsAscending asciiDigits.changes := isAscending_range _ _
  have lower := isAscending_range 'a'.toNat 'z'.toNat
  have upper := isAscending_range 'A'.toNat 'Z'.toNat
  rw [alphanumerics, contains_union (isAscending_union digits lower) upper,
    contains_union digits lower, Text.isAsciiAlphanumeric, Text.isAsciiLetter, Text.isAsciiDigit]
  simp only [Bool.or_eq_true_iff, Bool.and_eq_true_iff, decide_eq_true_iff, asciiDigits,
    contains_range]
  constructor
  · rintro ((isDigit | isLower) | isUpper)
    · exact Or.inr isDigit
    · exact Or.inl (Or.inl isLower)
    · exact Or.inl (Or.inr isUpper)
  · rintro ((isLower | isUpper) | isDigit)
    · exact Or.inl (Or.inr isLower)
    · exact Or.inr isUpper
    · exact Or.inl (Or.inl isDigit)

/-- The characters other than letters and digits that stand before the at sign. -/
def nameMarks : List Char :=
  ".!#$%&'*+/=?^_`\x7b|\x7d~-".toList

/-- The characters that stand before the at sign. -/
def IsNameCharacter (c : Char) : Prop :=
  Text.isAsciiAlphanumeric c = true ∨ c ∈ nameMarks

/-- The characters of labels. -/
def IsLabelCharacter (c : Char) : Prop :=
  Text.isAsciiAlphanumeric c = true ∨ c = '-'

theorem contains_localCharacters {c : Char} :
    localCharacters.contains c = true ↔ IsNameCharacter c := by
  rw [localCharacters, contains_union isAscending_alphanumerics (isAscending_setOf _),
    Bool.or_eq_true_iff, contains_alphanumerics, contains_setOf]
  rfl

theorem contains_labelCharacters {c : Char} :
    labelCharacters.contains c = true ↔ IsLabelCharacter c := by
  rw [labelCharacters, contains_union isAscending_alphanumerics (isAscending_setOf _),
    Bool.or_eq_true_iff, contains_alphanumerics, IsLabelCharacter]
  exact or_congr_right (contains_setOf_iff_eq rfl)

/-! ## Labels -/

/-- A label of a host. -/
structure IsLabel (label : List Char) : Prop where
  /-- It is not empty. -/
  nonempty : label ≠ []
  /-- It has at most 63 characters. -/
  short : label.length ≤ 63
  /-- They are letters, digits and hyphens. -/
  characters : ∀ c ∈ label, IsLabelCharacter c
  /-- It starts with no hyphen. -/
  first : label.head? ≠ some '-'
  /-- It ends with no hyphen. -/
  last : label.getLast? ≠ some '-'

/-- A hyphen is no letter and no digit. -/
theorem ne_hyphen {c : Char} (plain : Text.isAsciiAlphanumeric c = true) : c ≠ '-' := by
  rintro rfl
  exact absurd plain (by decide)

/-- The ends of a label are letters or digits, and so is its only character. -/
theorem isLabel_iff {piece : List Char} :
    IsLabel piece ↔
      ∃ first rest, piece = first :: rest ∧ Text.isAsciiAlphanumeric first = true ∧
        (rest = [] ∨ ∃ inner last, rest = inner ++ [last] ∧ inner.length ≤ 61 ∧
          (∀ c ∈ inner, IsLabelCharacter c) ∧ Text.isAsciiAlphanumeric last = true) := by
  constructor
  · rintro ⟨nonempty, short, characters, notFirst, notLast⟩
    obtain ⟨first, rest, rfl⟩ := List.exists_cons_of_ne_nil nonempty
    obtain ⟨isFirst, restCharacters⟩ := List.forall_mem_cons.mp characters
    refine ⟨first, rest, rfl, isFirst.resolve_right (by simpa using notFirst), ?_⟩
    rcases List.eq_nil_or_concat rest with empty | ⟨inner, last, whole⟩
    · exact Or.inl empty
    · obtain rfl := whole.trans List.concat_eq_append
      refine Or.inr ⟨inner, last, rfl, ?_, ?_, ?_⟩
      · rw [List.length_cons, List.length_append, List.length_singleton] at short
        omega
      · exact fun c member => restCharacters c (List.mem_append_left _ member)
      · have isLast : (first :: (inner ++ [last])).getLast? = some last := by
          rw [List.getLast?_cons, List.getLast?_append]
          rfl
        rw [isLast] at notLast
        have member : last ∈ inner ++ [last] := List.mem_append_right _ (List.mem_singleton_self _)
        exact (restCharacters last member).resolve_right fun same => notLast (congrArg some same)
  · rintro ⟨first, rest, rfl, isFirst, rfl | ⟨inner, last, rfl, short, characters, isLast⟩⟩
    · refine ⟨List.cons_ne_nil _ _, by simp, List.forall_mem_singleton.mpr (Or.inl isFirst), ?_, ?_⟩
      · simpa using ne_hyphen isFirst
      · simpa using ne_hyphen isFirst
    · refine ⟨List.cons_ne_nil _ _, ?_, ?_, ?_, ?_⟩
      · rw [List.length_cons, List.length_append, List.length_singleton]
        omega
      · rw [List.forall_mem_cons, List.forall_mem_append, List.forall_mem_singleton]
        exact ⟨Or.inl isFirst, characters, Or.inl isLast⟩
      · simpa using ne_hyphen isFirst
      · rw [List.getLast?_cons, List.getLast?_append]
        simpa using ne_hyphen isLast

/-- The pattern for labels describes labels, whatever stands around them. -/
theorem stands_label (before piece after : List Char) :
    Stands label before piece after ↔ IsLabel piece := by
  rw [isLabel_iff]
  constructor
  · rintro ⟨_, rest, rfl, ⟨first, rfl, isFirst⟩, behind⟩
    refine ⟨first, rest, rfl, contains_alphanumerics.mp isFirst, ?_⟩
    rcases stands_optional.mp behind with empty | ⟨inner, _, rfl, isInner, last, rfl, isLast⟩
    · exact Or.inl empty
    · obtain ⟨⟨_, few⟩, areMembers⟩ := stands_repeated_one.mp isInner
      exact Or.inr ⟨inner, last, rfl, by simpa using few 61 rfl,
        fun c member => contains_labelCharacters.mp (areMembers c member),
        contains_alphanumerics.mp isLast⟩
  · rintro ⟨first, rest, rfl, isFirst, behind⟩
    refine ⟨[first], rest, rfl, ⟨first, rfl, contains_alphanumerics.mpr isFirst⟩, ?_⟩
    refine stands_optional.mpr (behind.imp_right ?_)
    rintro ⟨inner, last, rfl, short, characters, isLast⟩
    refine ⟨inner, [last], rfl, stands_repeated_one.mpr ⟨⟨Nat.zero_le _, ?_⟩, ?_⟩,
      last, rfl, contains_alphanumerics.mpr isLast⟩
    · rintro bound ⟨⟩
      simpa using short
    · exact fun c member => contains_labelCharacters.mpr (characters c member)

/-- A label with the dot before it. -/
theorem stands_dotted (before piece after : List Char) :
    Stands (.sequence (.one (setOf ".")) label) before piece after ↔
      ∃ label, piece = '.' :: label ∧ IsLabel label := by
  constructor
  · rintro ⟨_, rest, rfl, ⟨c, rfl, isDot⟩, isLabel⟩
    obtain rfl : c = '.' := (contains_setOf_iff_eq rfl).mp isDot
    exact ⟨rest, rfl, (stands_label _ _ _).mp isLabel⟩
  · rintro ⟨rest, rfl, isLabel⟩
    exact ⟨['.'], rest, rfl, ⟨'.', rfl, (contains_setOf_iff_eq rfl).mpr rfl⟩,
      (stands_label _ _ _).mpr isLabel⟩

/-! ## Addresses -/

/-- What it means that a text is a host: labels with dots between them, at least two. -/
def IsHost (host : List Char) : Prop :=
  ∃ labels, Text.IsSplitAt '.' host labels ∧ 2 ≤ labels.length ∧ ∀ label ∈ labels, IsLabel label

/-- A first piece and others with a separator before each of them are joined pieces. -/
theorem append_flatten_eq_intercalate (separator : Char) (first : List Char)
    (others : List (List Char)) :
    first ++ (others.map (separator :: ·)).flatten =
      List.intercalate [separator] (first :: others) := by
  induction others generalizing first with
  | nil => rw [List.intercalate_singleton]; exact List.append_nil first
  | cons second rest ih =>
      rw [List.map_cons, List.flatten_cons, List.cons_append, ih, List.intercalate_cons_cons,
        List.append_assoc, List.singleton_append]

theorem IsLabelCharacter.ne_dot {c : Char} (isCharacter : IsLabelCharacter c) : c ≠ '.' := by
  rintro rfl
  rcases isCharacter with plain | hyphen
  · exact absurd plain (by decide)
  · exact absurd hyphen (by decide)

/-- Pieces that are labels with a dot before each are given by the labels. -/
theorem exists_labels {dotted : List (List Char)}
    (areDotted : ∀ part ∈ dotted, ∃ label, part = '.' :: label ∧ IsLabel label) :
    ∃ labels : List (List Char), dotted = labels.map ('.' :: ·) ∧
      ∀ label ∈ labels, IsLabel label := by
  induction dotted with
  | nil => exact ⟨[], rfl, by simp⟩
  | cons part rest ih =>
      obtain ⟨⟨label, rfl, isLabel⟩, restDotted⟩ := List.forall_mem_cons.mp areDotted
      obtain ⟨labels, rfl, areLabels⟩ := ih restDotted
      exact ⟨label :: labels, rfl, List.forall_mem_cons.mpr ⟨isLabel, areLabels⟩⟩

theorem isHost_iff {host : List Char} :
    IsHost host ↔
      ∃ label others, host = label ++ (others.map ('.' :: ·)).flatten ∧ IsLabel label ∧
        others ≠ [] ∧ ∀ other ∈ others, IsLabel other := by
  constructor
  · rintro ⟨labels, ⟨_, _, rfl⟩, enough, areLabels⟩
    match labels, enough with
    | label :: second :: rest, _ =>
      obtain ⟨isLabel, areLabels⟩ := List.forall_mem_cons.mp areLabels
      exact ⟨label, second :: rest, (append_flatten_eq_intercalate _ _ _).symm, isLabel,
        List.cons_ne_nil _ _, areLabels⟩
  · rintro ⟨label, others, rfl, isLabel, nonempty, areLabels⟩
    have all := List.forall_mem_cons.mpr ⟨isLabel, areLabels⟩
    have positive := List.length_pos_iff.mpr nonempty
    refine ⟨label :: others, ⟨List.cons_ne_nil _ _, ?_, ?_⟩, Nat.succ_le_succ positive, all⟩
    · exact fun piece member c inside => ((all piece member).characters c inside).ne_dot
    · exact (append_flatten_eq_intercalate _ _ _).symm

/-- The pattern for addresses describes whole texts only. -/
theorem stands_address {before piece after : List Char} :
    Stands address before piece after ↔
      before = [] ∧ after = [] ∧
        ∃ name host, piece = name ++ '@' :: host ∧ name ≠ [] ∧
          (∀ c ∈ name, IsNameCharacter c) ∧ IsHost host := by
  constructor
  · rintro ⟨_, _, rfl, ⟨rfl, atStart⟩, name, _, rfl, isName, _, _, rfl, ⟨c, rfl, isAt⟩, label, _,
      rfl, isLabel, others, _, rfl, areOthers, rfl, atEnd⟩
    obtain ⟨⟨enough, _⟩, areMembers⟩ := stands_repeated_one.mp isName
    obtain rfl : c = '@' := (contains_setOf_iff_eq rfl).mp isAt
    obtain ⟨dotted, nonempty, rfl, areDotted⟩ := (stands_oneOrMore stands_dotted).mp areOthers
    obtain ⟨labels, rfl, areLabels⟩ := exists_labels areDotted
    refine ⟨by simpa [PlaceCondition.holds] using atStart,
      by simpa [PlaceCondition.holds] using atEnd, name, _, ?_, List.length_pos_iff.mp enough,
      fun c member => contains_localCharacters.mp (areMembers c member),
      isHost_iff.mpr ⟨label, labels, rfl, (stands_label _ _ _).mp isLabel, by simpa using nonempty,
        areLabels⟩⟩
    simp
  · rintro ⟨rfl, rfl, name, host, rfl, nonempty, characters, isHost⟩
    obtain ⟨label, labels, rfl, isLabel, others, areLabels⟩ := isHost_iff.mp isHost
    have areDotted : ∀ part ∈ labels.map ('.' :: ·), ∃ label, part = '.' :: label ∧ IsLabel label :=
      List.forall_mem_map.mpr fun other member => ⟨other, rfl, areLabels other member⟩
    refine ⟨[], _, rfl, ⟨rfl, rfl⟩, name, _, rfl, stands_repeated_one.mpr ⟨⟨?_, by simp⟩, ?_⟩,
      ['@'], _, rfl, ⟨'@', rfl, (contains_setOf_iff_eq rfl).mpr rfl⟩, label, _, rfl,
      (stands_label _ _ _).mpr isLabel, _, [], (List.append_nil _).symm,
      (stands_oneOrMore stands_dotted).mpr ⟨_, by simpa using others, rfl, areDotted⟩, rfl, ?_⟩
    · exact List.length_pos_iff.mpr nonempty
    · exact fun c member => contains_localCharacters.mpr (characters c member)
    · rfl

theorem isAddress_iff {text : String} :
    isAddress text = true ↔
      ∃ name host, text.toList = name ++ '@' :: host ∧ name ≠ [] ∧
        (∀ c ∈ name, IsNameCharacter c) ∧ IsHost host := by
  rw [isAddress, occursIn_iff]
  constructor
  · rintro ⟨before, piece, after, whole, stands⟩
    obtain ⟨rfl, rfl, name, host, rfl, parts⟩ := stands_address.mp stands
    exact ⟨name, host, by simpa using whole, parts⟩
  · rintro ⟨name, host, whole, parts⟩
    exact ⟨[], name ++ '@' :: host, [], by simpa using whole,
      stands_address.mpr ⟨rfl, rfl, name, host, rfl, parts⟩⟩

/-! ## The pattern as a text -/

/-- The text that the pattern for addresses is written as. -/
def source : String :=
  "^[a-zA-Z0-9.!#$%&'*+/=?^_`\x7b|\x7d~-]+@[a-zA-Z0-9](?:[a-zA-Z0-9-]\x7b0,61\x7d[a-zA-Z0-9])?" ++
    "(?:\\.[a-zA-Z0-9](?:[a-zA-Z0-9-]\x7b0,61\x7d[a-zA-Z0-9])?)+$"

/-- What may follow the first character of a label. -/
def labelTail : TextPattern :=
  .optional (.sequence (.repeated (.one labelCharacters) 0 (some 61)) (.one alphanumerics))

/-- A label is no part of its own when the text is read: its first character and what may
follow it stand in a row with their neighbours. -/
theorem parse?_source :
    TextPattern.parse? source =
      some (.sequenceOf [
        .place .textStart,
        .oneOrMore (.one localCharacters),
        .one (setOf "@"),
        .one alphanumerics,
        labelTail,
        .oneOrMore (.sequenceOf [.one (setOf "."), .one alphanumerics, labelTail]),
        .place .textEnd]) := by
  decide +kernel

/-- The text of the pattern describes addresses. -/
theorem occurs_source (text : String) : TextPattern.occurs source text = isAddress text := by
  rw [TextPattern.occurs, parse?_source]
  refine occursIn_congr ?_ text
  simp only [address, label, labelTail, Pattern.sequenceOf, Pattern.oneOrMore, Stands,
    Standing.andThen_assoc]

/-! ## The characters of an address -/

/-- ASCII characters that leave a mark, apart from the at sign. -/
def IsVisible (c : Char) : Prop :=
  '!'.toNat ≤ c.toNat ∧ c.toNat ≤ '~'.toNat ∧ c ≠ '@'

instance (c : Char) : Decidable (IsVisible c) :=
  inferInstanceAs (Decidable (_ ∧ _ ∧ _))

theorem isVisible_of_isAsciiAlphanumeric {c : Char} (plain : Text.isAsciiAlphanumeric c = true) :
    IsVisible c := by
  have notAt : c ≠ '@' := by
    rintro rfl
    exact absurd plain (by decide)
  rw [Text.isAsciiAlphanumeric, Text.isAsciiLetter, Text.isAsciiDigit] at plain
  simp only [Bool.or_eq_true_iff, Bool.and_eq_true_iff, decide_eq_true_iff] at plain
  rcases plain with (⟨least, most⟩ | ⟨least, most⟩) | ⟨least, most⟩
  · exact ⟨Nat.le_trans (by decide : '!'.toNat ≤ 'a'.toNat) least,
      Nat.le_trans most (by decide : 'z'.toNat ≤ '~'.toNat), notAt⟩
  · exact ⟨Nat.le_trans (by decide : '!'.toNat ≤ 'A'.toNat) least,
      Nat.le_trans most (by decide : 'Z'.toNat ≤ '~'.toNat), notAt⟩
  · exact ⟨Nat.le_trans (by decide : '!'.toNat ≤ '0'.toNat) least,
      Nat.le_trans most (by decide : '9'.toNat ≤ '~'.toNat), notAt⟩

theorem IsNameCharacter.isVisible {c : Char} (isCharacter : IsNameCharacter c) : IsVisible c := by
  have marks : nameMarks.all (fun mark => decide (IsVisible mark)) = true := by decide
  rcases isCharacter with plain | isMark
  · exact isVisible_of_isAsciiAlphanumeric plain
  · exact of_decide_eq_true (List.all_eq_true.mp marks c isMark)

theorem IsLabelCharacter.isVisible {c : Char} (isCharacter : IsLabelCharacter c) :
    IsVisible c := by
  rcases isCharacter with plain | rfl
  · exact isVisible_of_isAsciiAlphanumeric plain
  · decide

theorem IsHost.isVisible {host : List Char} (isHost : IsHost host) :
    ∀ c ∈ host, IsVisible c := by
  obtain ⟨labels, ⟨_, _, rfl⟩, _, areLabels⟩ := isHost
  intro c member
  rcases Text.mem_intercalate member with rfl | ⟨label, isOne, inside⟩
  · decide
  · exact ((areLabels label isOne).characters c inside).isVisible

/-- What leaves a mark is no white space. -/
theorem IsVisible.not_blank {c : Char} (visible : IsVisible c) : Text.isWhiteSpace c = false := by
  obtain ⟨least, most, _⟩ := visible
  have least : 33 ≤ c.toNat := least
  have most : c.toNat ≤ 126 := most
  simp [Text.isWhiteSpace]
  omega

/-- A text is an address exactly if it has one at sign, a name of plain characters before it,
and behind it at least two labels with dots between them. All characters of an address are
ASCII and none is white space, not even at the end. -/
theorem isAddress_exactly (text : String) :
    (isAddress text = true ↔
      text.toList.count '@' = 1 ∧
        ∃ name host, text.toList = name ++ '@' :: host ∧ name ≠ [] ∧
          (∀ c ∈ name, IsNameCharacter c) ∧
            ∃ labels, Text.IsSplitAt '.' host labels ∧ 2 ≤ labels.length ∧
              ∀ label ∈ labels, IsLabel label) ∧
    (isAddress text = true →
      ∀ c ∈ text.toList, c.toNat < 128 ∧ Text.isWhiteSpace c = false) := by
  constructor
  · rw [isAddress_iff]
    constructor
    · rintro ⟨name, host, whole, nonempty, characters, isHost⟩
      have beforeAt : name.count '@' = 0 :=
        List.count_eq_zero.mpr fun member => (characters '@' member).isVisible.2.2 rfl
      have behindAt : host.count '@' = 0 :=
        List.count_eq_zero.mpr fun member => (isHost.isVisible '@' member).2.2 rfl
      refine ⟨?_, name, host, whole, nonempty, characters, isHost⟩
      rw [whole, List.count_append, List.count_cons_self, beforeAt, behindAt]
    · rintro ⟨_, name, host, whole, nonempty, characters, isHost⟩
      exact ⟨name, host, whole, nonempty, characters, isHost⟩
  · intro accepted
    obtain ⟨name, host, whole, _, characters, isHost⟩ := isAddress_iff.mp accepted
    have visible : ∀ c ∈ text.toList, IsVisible c ∨ c = '@' := by
      rw [whole]
      intro c member
      rcases List.mem_append.mp member with inName | behind
      · exact Or.inl (characters c inName).isVisible
      · rcases List.mem_cons.mp behind with rfl | inHost
        · exact Or.inr rfl
        · exact Or.inl (isHost.isVisible c inHost)
    intro c member
    rcases visible c member with visible | rfl
    · exact ⟨Nat.lt_of_le_of_lt visible.2.1 (by decide), visible.not_blank⟩
    · decide

/-- An address with a plus sign and three labels, one of them with a hyphen. -/
theorem isAddress_exactly_threeLabels :
    isAddress "jo+x@a.ex-ample.org" = true ∧
      ∀ c ∈ "jo+x@a.ex-ample.org".toList, c.toNat < 128 ∧ Text.isWhiteSpace c = false := by
  have accepted : isAddress "jo+x@a.ex-ample.org" = true := by decide +kernel
  exact ⟨accepted, (isAddress_exactly "jo+x@a.ex-ample.org").2 accepted⟩

end Email

end Questionnaire
