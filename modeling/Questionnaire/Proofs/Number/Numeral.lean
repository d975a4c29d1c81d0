/-
# Numerals and what they denote

A numeral is an optional sign, digits with an optional point among or around them, and an
optional power of ten. Its shape leaves no room for anything that is not a number, so it says
which texts are numbers without a reader. The reader of number fields reads every numeral, and
reads nothing else. It forgets the sign and the point, which the denoted magnitude does not
need.
-/

import Mathlib.Algebra.Order.Field.Power
import Mathlib.Algebra.Order.Field.Rat
import Mathlib.Tactic.Positivity
import Mathlib.Tactic.Ring
import Questionnaire.Number.Decimal
import Questionnaire.Proofs.Text.Runs

namespace Questionnaire

/-! ## Digits -/

/-- A decimal digit. -/
abbrev Digit := Fin 10

namespace Digit

/-- The character of a digit. -/
def character (digit : Digit) : Char :=
  Char.ofNat ('0'.toNat + digit)

/-- Digits as they are written. -/
def written (digits : List Digit) : List Char :=
  digits.map character

/-- The whole number that digits denote. -/
def natural (digits : List Digit) : Nat :=
  digits.foldl (fun value digit => 10 * value + digit.val) 0

theorem isAsciiDigit_character : ∀ digit : Digit, Text.isAsciiDigit digit.character = true := by
  decide

theorem toNat_character : ∀ digit : Digit, digit.character.toNat - '0'.toNat = digit := by
  decide

theorem isAsciiDigit_of_mem_written (digits : List Digit) :
    ∀ c ∈ written digits, Text.isAsciiDigit c = true := by
  intro c member
  obtain ⟨digit, _, rfl⟩ := List.mem_map.mp member
  exact isAsciiDigit_character digit

theorem exists_character {c : Char} (isDigit : Text.isAsciiDigit c = true) :
    ∃ digit : Digit, digit.character = c := by
  obtain ⟨least, most⟩ := (Bool.and_eq_true_iff).mp isDigit
  have least : '0'.toNat ≤ c.toNat := of_decide_eq_true least
  have most : c.toNat ≤ '9'.toNat := of_decide_eq_true most
  refine ⟨⟨c.toNat - '0'.toNat, ?_⟩, ?_⟩
  · have : '9'.toNat = '0'.toNat + 9 := rfl
    omega
  · rw [character, Nat.add_sub_cancel' least, Char.ofNat_toNat]

/-- Characters that are digits are written digits. -/
theorem exists_written {cs : List Char} (areDigits : ∀ c ∈ cs, Text.isAsciiDigit c = true) :
    ∃ digits, written digits = cs := by
  induction cs with
  | nil => exact ⟨[], rfl⟩
  | cons c rest ih =>
      obtain ⟨isDigit, restDigits⟩ := List.forall_mem_cons.mp areDigits
      obtain ⟨digit, rfl⟩ := exists_character isDigit
      obtain ⟨digits, rfl⟩ := ih restDigits
      exact ⟨digit :: digits, rfl⟩

/-- Written digits are read as the number that they denote. -/
theorem decimalValue_written (digits : List Digit) :
    Text.decimalValue (written digits) = natural digits := by
  rw [Text.decimalValue, written, natural, List.foldl_map]
  simp only [toNat_character]

theorem foldl_eq (digits : List Digit) (start : Nat) :
    digits.foldl (fun value digit => 10 * value + digit.val) start =
      start * 10 ^ digits.length + natural digits := by
  unfold natural
  induction digits generalizing start with
  | nil => simp
  | cons digit others ih =>
      rw [List.foldl_cons, List.foldl_cons, ih, ih (10 * 0 + digit), List.length_cons, pow_succ]
      ring

/-- Further digits shift a number and are added to it. -/
theorem natural_append (front back : List Digit) :
    natural (front ++ back) = natural front * 10 ^ back.length + natural back := by
  rw [natural, List.foldl_append, foldl_eq]
  rfl

end Digit

/-- One digit or more. -/
structure DigitRun where
  /-- The first digit. -/
  first : Digit
  /-- The digits after it. -/
  others : List Digit
  deriving Repr, DecidableEq

namespace DigitRun

/-- The digits of a run. -/
def digits (run : DigitRun) : List Digit :=
  run.first :: run.others

/-- Characters that are digits, and at least one, are a written run. -/
theorem exists_written {cs : List Char} (nonempty : cs ≠ [])
    (areDigits : ∀ c ∈ cs, Text.isAsciiDigit c = true) :
    ∃ run : DigitRun, Digit.written run.digits = cs := by
  obtain ⟨digits, rfl⟩ := Digit.exists_written areDigits
  cases digits with
  | nil => exact absurd rfl nonempty
  | cons first others => exact ⟨⟨first, others⟩, rfl⟩

end DigitRun

/-! ## Numerals -/

/-- The sign of a numeral, which may be left out. -/
inductive NumeralSign where
  | unsigned
  | plus
  | minus
  deriving Repr, DecidableEq

namespace NumeralSign

/-- The sign as it is written. -/
def text : NumeralSign → List Char
  | .unsigned => []
  | .plus => ['+']
  | .minus => ['-']

/-- Whether the sign is a minus. -/
def isMinus : NumeralSign → Bool
  | .minus => true
  | _ => false

end NumeralSign

/-- The digits of a numeral and its point, if it has one. -/
inductive Figures where
  /-- Digits without a point. -/
  | whole (run : DigitRun)
  /-- Digits, a point and maybe more digits. -/
  | mixed (run : DigitRun) (behind : List Digit)
  /-- A point and digits. -/
  | fraction (run : DigitRun)
  deriving Repr, DecidableEq

namespace Figures

/-- The figures as they are written. -/
def text : Figures → List Char
  | .whole run => Digit.written run.digits
  | .mixed run behind => Digit.written run.digits ++ '.' :: Digit.written behind
  | .fraction run => '.' :: Digit.written run.digits

/-- The digits before the point. -/
def front : Figures → List Digit
  | .whole run => run.digits
  | .mixed run _ => run.digits
  | .fraction _ => []

/-- The digits behind the point. -/
def back : Figures → List Digit
  | .whole _ => []
  | .mixed _ behind => behind
  | .fraction run => run.digits

/-- The number that figures denote. -/
def value (figures : Figures) : ℚ :=
  Digit.natural figures.front + Digit.natural figures.back / 10 ^ figures.back.length

end Figures

/-- A power of ten at the end of a numeral. -/
structure Power where
  /-- Whether its letter is in upper case. -/
  isUpper : Bool
  /-- Its sign. -/
  sign : NumeralSign
  /-- Its digits. -/
  run : DigitRun
  deriving Repr, DecidableEq

namespace Power

/-- The power of ten as it is written. -/
def text (power : Power) : List Char :=
  (if power.isUpper then 'E' else 'e') :: (power.sign.text ++ Digit.written power.run.digits)

/-- The absolute value of the exponent. -/
def size (power : Power) : Nat :=
  Digit.natural power.run.digits

/-- The exponent. -/
def exponent (power : Power) : Int :=
  if power.sign.isMinus then -power.size else power.size

end Power

/-- A number as it can be written. -/
structure Numeral where
  /-- Its sign. -/
  sign : NumeralSign
  /-- Its digits and its point. -/
  figures : Figures
  /-- The power of ten, if there is one. -/
  power : Option Power
  deriving Repr, DecidableEq

namespace Numeral

/-- The power of ten as it is written, or nothing. -/
def powerText (numeral : Numeral) : List Char :=
  numeral.power.elim [] Power.text

/-- The numeral without its sign. -/
def unsignedText (numeral : Numeral) : List Char :=
  numeral.figures.text ++ numeral.powerText

/-- The numeral as it is written. -/
def text (numeral : Numeral) : List Char :=
  numeral.sign.text ++ numeral.unsignedText

/-- The exponent of the power of ten, which is zero if there is none. -/
def exponent (numeral : Numeral) : Int :=
  numeral.power.elim 0 Power.exponent

/-- The magnitude of the number that a numeral denotes. -/
def magnitude (numeral : Numeral) : ℚ :=
  numeral.figures.value * 10 ^ numeral.exponent

/-- The number that a numeral denotes. -/
def value (numeral : Numeral) : ℚ :=
  if numeral.sign.isMinus then -numeral.magnitude else numeral.magnitude

/-- The power of ten, if there is one, is below `65536` in absolute value. -/
def IsModerate (numeral : Numeral) : Prop :=
  ∀ power ∈ numeral.power, power.size < 65536

/-- What the reader keeps of a numeral. -/
def kept (numeral : Numeral) : DecimalText :=
  ⟨Digit.written numeral.figures.front, Digit.written numeral.figures.back,
    numeral.power.map fun power => (power.sign.isMinus, Digit.written power.run.digits)⟩

theorem magnitude_nonneg (numeral : Numeral) : 0 ≤ numeral.magnitude := by
  unfold magnitude Figures.value
  positivity

theorem abs_value (numeral : Numeral) : |numeral.value| = numeral.magnitude := by
  unfold value
  split
  · rw [abs_neg, abs_of_nonneg numeral.magnitude_nonneg]
  · exact abs_of_nonneg numeral.magnitude_nonneg

/-! ## Numerals are read -/

/-- The characters of signs. -/
def isSign (c : Char) : Bool :=
  c == '-' || c == '+'

theorem dropSign_text {rest : List Char} (stops : Text.StopsAt isSign rest)
    (sign : NumeralSign) : dropSign (sign.text ++ rest) = (sign.isMinus, rest) := by
  cases sign with
  | plus | minus => rfl
  | unsigned =>
      cases rest with
      | nil => rfl
      | cons c rest =>
          have notSign := Text.stopsAt_cons.mp stops
          rw [NumeralSign.text, List.nil_append]
          unfold dropSign
          split
          · next minus =>
            obtain ⟨rfl, -⟩ := List.cons.inj minus
            exact absurd notSign (by decide)
          · next plus =>
            obtain ⟨rfl, -⟩ := List.cons.inj plus
            exact absurd notSign (by decide)
          · rfl

theorem stopsAt_sign_of_digits {digits : List Digit} :
    Text.StopsAt isSign (Digit.written digits) := by
  have noSign : ∀ digit : Digit, isSign digit.character = false := by decide
  cases digits with
  | nil => exact Text.stopsAt_nil
  | cons digit others => exact Text.stopsAt_cons.mpr (noSign digit)

theorem readPower?_powerText (numeral : Numeral) :
    readPower? numeral.powerText = some numeral.kept.power := by
  unfold powerText kept
  cases numeral.power with
  | none => rfl
  | some power =>
      have digits := List.all_eq_true.mpr
        (Digit.isAsciiDigit_of_mem_written power.run.digits)
      have nonempty : (Digit.written power.run.digits).isEmpty = false := rfl
      have isMarker : ((if power.isUpper then 'E' else 'e') == 'e' ||
          (if power.isUpper then 'E' else 'e') == 'E') = true := by
        cases power.isUpper <;> rfl
      rw [Option.elim_some, Power.text, readPower?, if_pos isMarker,
        dropSign_text stopsAt_sign_of_digits]
      simp only [nonempty, digits, Bool.not_false, Bool.and_self, if_true, Option.map_some]

/-- Digits do not go on with the power of ten. -/
theorem stopsAt_powerText (numeral : Numeral) :
    Text.StopsAt Text.isAsciiDigit numeral.powerText := by
  unfold powerText
  cases numeral.power with
  | none => exact Text.stopsAt_nil
  | some power =>
      refine Text.stopsAt_cons.mpr ?_
      cases power.isUpper <;> rfl

/-- Nor do they go on with a point. -/
theorem stopsAt_point (rest : List Char) : Text.StopsAt Text.isAsciiDigit ('.' :: rest) :=
  Text.stopsAt_cons.mpr (by decide)

/-- Digits are cut off in front of whatever does not go on with them. -/
theorem cut_written (digits : List Digit) {rest : List Char}
    (stops : Text.StopsAt Text.isAsciiDigit rest) :
    (Digit.written digits ++ rest).takeWhile Text.isAsciiDigit = Digit.written digits ∧
      (Digit.written digits ++ rest).dropWhile Text.isAsciiDigit = rest :=
  ⟨Text.takeWhile_run (Digit.isAsciiDigit_of_mem_written digits) stops,
    Text.dropWhile_run (Digit.isAsciiDigit_of_mem_written digits) stops⟩

/-- Without a point nothing is cut off. -/
theorem cutFraction_powerText (numeral : Numeral) :
    cutFraction numeral.powerText = ([], numeral.powerText) := by
  unfold powerText
  cases numeral.power with
  | none => rfl
  | some power => obtain ⟨isUpper, _, _⟩ := power; cases isUpper <;> rfl

theorem ofUnsigned?_unsignedText (numeral : Numeral) :
    DecimalText.ofUnsigned? numeral.unsignedText = some numeral.kept := by
  have readsPower := numeral.readPower?_powerText
  have stops := numeral.stopsAt_powerText
  have noFraction := numeral.cutFraction_powerText
  unfold DecimalText.ofUnsigned? unsignedText
  cases shape : numeral.figures with
  | whole run =>
      obtain ⟨taken, dropped⟩ := cut_written run.digits stops
      have nonempty : (Digit.written run.digits).isEmpty = false := rfl
      rw [Figures.text, taken, dropped, noFraction]
      simp only [nonempty, Bool.false_and, readsPower, Option.map_some]
      rw [if_neg Bool.false_ne_true, kept, shape]
      rfl
  | mixed run behind =>
      obtain ⟨taken, dropped⟩ := cut_written run.digits
        (stopsAt_point (Digit.written behind ++ numeral.powerText))
      obtain ⟨taken', dropped'⟩ := cut_written behind stops
      have nonempty : (Digit.written run.digits).isEmpty = false := rfl
      rw [Figures.text, List.append_assoc, List.cons_append, taken, dropped, cutFraction]
      simp only [taken', dropped', nonempty, Bool.false_and, readsPower, Option.map_some]
      rw [if_neg Bool.false_ne_true, kept, shape]
      rfl
  | fraction run =>
      obtain ⟨taken, dropped⟩ := cut_written run.digits stops
      have nonempty : (Digit.written run.digits).isEmpty = false := rfl
      rw [Figures.text, List.cons_append, Text.takeWhile_of_stopsAt (stopsAt_point _),
        Text.dropWhile_of_stopsAt (stopsAt_point _), cutFraction]
      simp only [taken, dropped, nonempty, Bool.and_false, readsPower, Option.map_some]
      rw [if_neg Bool.false_ne_true, kept, shape]
      rfl

/-- A sign does not go on with the figures. -/
theorem stopsAt_unsignedText (numeral : Numeral) :
    Text.StopsAt isSign numeral.unsignedText := by
  have noSign : ∀ digit : Digit, isSign digit.character = false := by decide
  unfold unsignedText
  cases numeral.figures with
  | whole run | mixed run _ => exact Text.stopsAt_cons.mpr (noSign run.first)
  | fraction run => exact Text.stopsAt_cons.mpr (by decide)

/-- Every numeral is read. -/
theorem ofChars?_text (numeral : Numeral) :
    DecimalText.ofChars? numeral.text = some numeral.kept := by
  rw [DecimalText.ofChars?, text, dropSign_text numeral.stopsAt_unsignedText]
  exact numeral.ofUnsigned?_unsignedText

/-! ## Nothing else is read -/

/-- What stands in front of the rest of a text is no sign, or one sign. -/
theorem exists_sign (cs : List Char) : ∃ sign : NumeralSign, sign.text ++ (dropSign cs).2 = cs := by
  unfold dropSign
  split
  · exact ⟨.minus, rfl⟩
  · exact ⟨.plus, rfl⟩
  · exact ⟨.unsigned, rfl⟩

theorem exists_power {cs : List Char} {kept : Option (Bool × List Char)}
    (read : readPower? cs = some kept) : ∃ power : Option Power, power.elim [] Power.text = cs := by
  cases cs with
  | nil => exact ⟨none, rfl⟩
  | cons c rest =>
      rw [readPower?] at read
      split at read
      · next marker =>
        dsimp only at read
        split at read
        · next isRun =>
          obtain ⟨nonempty, digits⟩ := Bool.and_eq_true_iff.mp isRun
          obtain ⟨sign, signed⟩ := exists_sign rest
          obtain ⟨run, written⟩ :=
            DigitRun.exists_written (by simpa using nonempty) (List.all_eq_true.mp digits)
          rw [← written] at signed
          rcases Bool.or_eq_true_iff.mp marker with isLower | isUpper
          · obtain rfl := beq_iff_eq.mp isLower
            exact ⟨some ⟨false, sign, run⟩, congrArg _ signed⟩
          · obtain rfl := beq_iff_eq.mp isUpper
            exact ⟨some ⟨true, sign, run⟩, congrArg _ signed⟩
        · cases read
      · cases read

/-- Digits at the start of a text can be cut off. -/
theorem exists_cut (cs : List Char) :
    ∃ digits : List Digit, cs.takeWhile Text.isAsciiDigit = Digit.written digits ∧
      cs = Digit.written digits ++ cs.dropWhile Text.isAsciiDigit := by
  obtain ⟨digits, written⟩ :=
    Digit.exists_written fun c (member : c ∈ cs.takeWhile Text.isAsciiDigit) =>
      List.mem_takeWhile_imp member
  exact ⟨digits, written.symm, written ▸ List.takeWhile_append_dropWhile.symm⟩

/-- A fraction is a point and digits, or there is none. -/
theorem exists_fraction (cs : List Char) :
    (∃ digits rest, cs = '.' :: (Digit.written digits ++ rest) ∧
        cutFraction cs = (Digit.written digits, rest)) ∨
      cutFraction cs = ([], cs) := by
  unfold cutFraction
  split
  · next rest =>
    obtain ⟨digits, taken, whole⟩ := exists_cut rest
    exact Or.inl ⟨digits, _, congrArg _ whole, by rw [taken]⟩
  · exact Or.inr rfl

theorem exists_unsigned {cs : List Char} {kept : DecimalText}
    (read : DecimalText.ofUnsigned? cs = some kept) :
    ∃ (figures : Figures) (power : Option Power),
      figures.text ++ power.elim [] Power.text = cs := by
  obtain ⟨front, taken, whole⟩ := exists_cut cs
  rw [DecimalText.ofUnsigned?, taken] at read
  rcases exists_fraction (cs.dropWhile Text.isAsciiDigit) with ⟨back, rest, point, cut⟩ | cut
  · rw [cut] at read
    dsimp only at read
    split at read
    · cases read
    · next nonempty =>
      obtain ⟨_, readsPower, _⟩ := Option.map_eq_some_iff.mp read
      obtain ⟨power, rfl⟩ := exists_power readsPower
      rw [point] at whole
      cases front with
      | cons first others =>
          refine ⟨.mixed ⟨first, others⟩ back, power, ?_⟩
          rw [whole, Figures.text, List.append_assoc, List.cons_append]
          rfl
      | nil =>
          cases back with
          | cons first others => exact ⟨.fraction ⟨first, others⟩, power, whole.symm⟩
          | nil => exact absurd rfl nonempty
  · rw [cut] at read
    dsimp only at read
    split at read
    · cases read
    · next nonempty =>
      obtain ⟨_, readsPower, _⟩ := Option.map_eq_some_iff.mp read
      obtain ⟨power, written⟩ := exists_power readsPower
      rw [← written] at whole
      cases front with
      | cons first others => exact ⟨.whole ⟨first, others⟩, power, whole.symm⟩
      | nil => exact absurd rfl nonempty

/-- What is read is a numeral. -/
theorem exists_of_ofChars? {cs : List Char} {kept : DecimalText}
    (read : DecimalText.ofChars? cs = some kept) : ∃ numeral : Numeral, numeral.text = cs := by
  obtain ⟨sign, signed⟩ := exists_sign cs
  obtain ⟨figures, power, unsigned⟩ := exists_unsigned read
  exact ⟨⟨sign, figures, power⟩, by rw [← signed, ← unsigned]; rfl⟩

/-- The texts that are read are the numerals. -/
theorem ofChars?_eq_some_iff {cs : List Char} {kept : DecimalText} :
    DecimalText.ofChars? cs = some kept ↔
      ∃ numeral : Numeral, cs = numeral.text ∧ numeral.kept = kept := by
  constructor
  · intro read
    obtain ⟨numeral, rfl⟩ := exists_of_ofChars? read
    exact ⟨numeral, rfl, Option.some.inj (numeral.ofChars?_text.symm.trans read)⟩
  · rintro ⟨numeral, rfl, rfl⟩
    exact numeral.ofChars?_text

/-! ## A text denotes one number -/

section Unambiguous

variable {first second : Numeral}

theorem written_injective : Function.Injective Digit.written :=
  List.map_injective_iff.mpr (by decide)

theorem exponent_congr (same : first.kept.power = second.kept.power) :
    first.exponent = second.exponent := by
  unfold kept at same
  unfold exponent
  cases isFirst : first.power <;> cases isSecond : second.power <;>
    simp only [isFirst, isSecond, Option.map_some, Option.map_none, Option.some.injEq,
      Prod.mk.injEq, reduceCtorEq] at same
  · rfl
  · obtain ⟨sameSign, sameDigits⟩ := same
    rw [Option.elim_some, Option.elim_some, Power.exponent, Power.exponent, sameSign, Power.size,
      Power.size, written_injective sameDigits]

theorem magnitude_congr (same : first.kept = second.kept) :
    first.magnitude = second.magnitude := by
  have sameFront := written_injective (congrArg DecimalText.whole same)
  have sameBack := written_injective (congrArg DecimalText.fraction same)
  have sameExponent := exponent_congr (congrArg DecimalText.power same)
  rw [magnitude, magnitude, Figures.value, Figures.value, sameFront, sameBack, sameExponent]

/-- Two numerals that are written in the same way denote the same number. -/
theorem value_congr (same : first.text = second.text) : first.value = second.value := by
  have sameKept : first.kept = second.kept :=
    Option.some.inj (first.ofChars?_text.symm.trans (same ▸ second.ofChars?_text))
  have sameSign : first.sign.isMinus = second.sign.isMinus := by
    have signs := congrArg (fun cs => (dropSign cs).1) same
    simpa only [text, dropSign_text first.stopsAt_unsignedText,
      dropSign_text second.stopsAt_unsignedText] using signs
  rw [value, value, sameSign, magnitude_congr sameKept]

end Unambiguous

/-! ## The characters of a numeral -/

/-- The characters that numerals are made of. -/
def isCharacter (c : Char) : Bool :=
  Text.isAsciiDigit c || c == '.' || c == '+' || c == '-' || c == 'e' || c == 'E'

theorem isCharacter_of_mem_written {digits : List Digit} {c : Char}
    (member : c ∈ Digit.written digits) : isCharacter c = true := by
  rw [isCharacter, Digit.isAsciiDigit_of_mem_written digits c member]
  rfl

theorem isCharacter_of_mem_sign {sign : NumeralSign} {c : Char} (member : c ∈ sign.text) :
    isCharacter c = true := by
  cases sign with
  | unsigned => cases member
  | plus | minus => obtain rfl := List.mem_singleton.mp member; rfl

theorem isCharacter_of_mem_power {power : Power} {c : Char} (member : c ∈ power.text) :
    isCharacter c = true := by
  rcases List.mem_cons.mp member with rfl | behind
  · cases power.isUpper <;> rfl
  · rcases List.mem_append.mp behind with signed | digits
    · exact isCharacter_of_mem_sign signed
    · exact isCharacter_of_mem_written digits

theorem isCharacter_of_mem_figures {figures : Figures} {c : Char} (member : c ∈ figures.text) :
    isCharacter c = true := by
  cases figures with
  | whole run => exact isCharacter_of_mem_written member
  | mixed run behind =>
      rcases List.mem_append.mp member with front | back
      · exact isCharacter_of_mem_written front
      · rcases List.mem_cons.mp back with rfl | digits
        · rfl
        · exact isCharacter_of_mem_written digits
  | fraction run =>
      rcases List.mem_cons.mp member with rfl | digits
      · rfl
      · exact isCharacter_of_mem_written digits

theorem isCharacter_of_mem {numeral : Numeral} {c : Char} (member : c ∈ numeral.text) :
    isCharacter c = true := by
  rcases List.mem_append.mp member with signed | unsigned
  · exact isCharacter_of_mem_sign signed
  · rcases List.mem_append.mp unsigned with figures | powered
    · exact isCharacter_of_mem_figures figures
    · unfold powerText at powered
      cases isPower : numeral.power with
      | none =>
          rw [isPower] at powered
          cases powered
      | some power =>
          rw [isPower] at powered
          exact isCharacter_of_mem_power powered

theorem digit_or_mark_of_isCharacter {c : Char} (isCharacter : isCharacter c = true) :
    (∃ digit : Digit, digit.character = c) ∨ c ∈ ['.', '+', '-', 'e', 'E'] := by
  unfold Numeral.isCharacter at isCharacter
  simp only [Bool.or_eq_true_iff, beq_iff_eq] at isCharacter
  rcases isCharacter with ((((digit | rfl) | rfl) | rfl) | rfl) | rfl
  · exact Or.inl (Digit.exists_character digit)
  all_goals exact Or.inr (by decide)

/-- A numeral holds no white space. -/
theorem not_blank_of_mem {numeral : Numeral} {c : Char} (member : c ∈ numeral.text) :
    Text.isWhiteSpace c = false := by
  have digits : ∀ digit : Digit, Text.isWhiteSpace digit.character = false := by decide
  have marks : ['.', '+', '-', 'e', 'E'].all (fun mark => !Text.isWhiteSpace mark) = true := by
    decide
  rcases digit_or_mark_of_isCharacter (isCharacter_of_mem member) with ⟨digit, rfl⟩ | isMark
  · exact digits digit
  · simpa using List.all_eq_true.mp marks c isMark

/-- It does not hold the letter that the words for infinite numbers share, in any case. -/
theorem toLower_ne_of_mem {numeral : Numeral} {c : Char} (member : c ∈ numeral.text) :
    c.toLower ≠ 'n' := by
  have digits : ∀ digit : Digit, digit.character.toLower ≠ 'n' := by decide
  have marks : ['.', '+', '-', 'e', 'E'].all (fun mark => mark.toLower != 'n') = true := by decide
  rcases digit_or_mark_of_isCharacter (isCharacter_of_mem member) with ⟨digit, rfl⟩ | isMark
  · exact digits digit
  · exact bne_iff_ne.mp (List.all_eq_true.mp marks c isMark)

theorem text_ne_nil (numeral : Numeral) : numeral.text ≠ [] := by
  intro empty
  obtain ⟨_, unsigned⟩ := List.append_eq_nil_iff.mp empty
  obtain ⟨figures, _⟩ := List.append_eq_nil_iff.mp unsigned
  cases isFigures : numeral.figures <;> rw [isFigures] at figures <;> cases figures

/-- There is nothing to trim in front of a numeral. -/
theorem trimLeading_text (numeral : Numeral) :
    Text.trimLeading numeral.text = numeral.text := by
  apply Text.dropWhile_of_stopsAt
  intro c first
  exact not_blank_of_mem (List.mem_of_mem_head? first)

end Numeral

end Questionnaire
