/-
# What a number field takes

A text is taken exactly if what is left of it without the white space in front is a numeral
whose magnitude stays below the bound of the double format. Powers of ten have to be below
`65536`, because the reader stops counting there, and the value of a longer one is not known
to it. Nothing else about a numeral matters, and no other text is taken.
-/

import Mathlib.Tactic.FieldSimp
import Questionnaire.Proofs.Number.Numeral
import Questionnaire.Proofs.Number.Rounding

namespace Questionnaire

namespace Numeral

/-! ## The magnitude of a numeral is kept -/

/-- The reader counts to the end if it does not reach its cap. -/
theorem foldl_capped {digits : List Digit} {start : Nat}
    (small : digits.foldl (fun value digit => 10 * value + digit.val) start < 65536) :
    (Digit.written digits).foldl
        (fun value c => if value < 65536 then 10 * value + (c.toNat - '0'.toNat) else value) start =
      digits.foldl (fun value digit => 10 * value + digit.val) start := by
  induction digits generalizing start with
  | nil => rfl
  | cons digit others ih =>
      have grows : start ≤ (digit :: others).foldl
          (fun value digit => 10 * value + digit.val) start := by
        rw [Digit.foldl_eq]
        exact (Nat.le_mul_of_pos_right _ (Nat.pow_pos (by decide))).trans (Nat.le_add_right _ _)
      rw [Digit.written, List.map_cons, List.foldl_cons, if_pos (grows.trans_lt small),
        Digit.toNat_character]
      exact ih small

theorem cappedValue_written {digits : List Digit} (small : Digit.natural digits < 65536) :
    cappedValue (Digit.written digits) = Digit.natural digits :=
  foldl_capped small

theorem scale_kept {numeral : Numeral} (moderate : numeral.IsModerate) :
    numeral.kept.scale = numeral.exponent - numeral.figures.back.length := by
  have length : numeral.kept.fraction.length = numeral.figures.back.length := List.length_map _
  rw [DecimalText.scale, length]
  congr 1
  unfold kept exponent
  cases isPower : numeral.power with
  | none => rfl
  | some power =>
      have counted : cappedValue (Digit.written power.run.digits) = power.size :=
        cappedValue_written (moderate power isPower)
      simp only [Option.map_some, Option.elim_some, counted]
      rfl

theorem digits_kept (numeral : Numeral) :
    numeral.kept.digits = Digit.natural (numeral.figures.front ++ numeral.figures.back) := by
  rw [← Digit.decimalValue_written, DecimalText.digits, Digit.written, List.map_append]
  rfl

/-- Whether the power of ten is small can be seen from what is kept. -/
theorem isModerate_iff {numeral : Numeral} :
    numeral.IsModerate ↔ ∀ power ∈ numeral.kept.power, Text.decimalValue power.2 < 65536 := by
  unfold IsModerate kept
  cases numeral.power with
  | none => simp
  | some power =>
      simp only [Option.map_some, Option.mem_some, forall_eq', Digit.decimalValue_written]
      rfl

/-- The digits without a point, scaled by the power of ten that is left, are the magnitude. -/
theorem magnitude_eq {numeral : Numeral} (moderate : numeral.IsModerate) :
    numeral.magnitude = numeral.kept.digits * 10 ^ numeral.kept.scale := by
  rw [digits_kept, scale_kept moderate, Digit.natural_append, magnitude, Figures.value,
    zpow_sub₀ (by norm_num), zpow_natCast]
  push_cast
  field_simp

/-! ## Zeros in front -/

/-- The numeral with one more zero in front. -/
def padded (numeral : Numeral) : Numeral :=
  { numeral with
    figures :=
      match numeral.figures with
      | .whole run => .whole ⟨0, run.digits⟩
      | .mixed run behind => .mixed ⟨0, run.digits⟩ behind
      | .fraction run => .mixed ⟨0, []⟩ run.digits }

theorem unsignedText_padded (numeral : Numeral) :
    numeral.padded.unsignedText = '0' :: numeral.unsignedText := by
  obtain ⟨sign, figures, power⟩ := numeral
  cases figures <;> rfl

theorem digits_padded (numeral : Numeral) : numeral.padded.kept.digits = numeral.kept.digits := by
  rw [digits_kept, digits_kept]
  obtain ⟨sign, figures, power⟩ := numeral
  cases figures <;> rfl

theorem scale_padded (numeral : Numeral) : numeral.padded.kept.scale = numeral.kept.scale := by
  obtain ⟨sign, figures, power⟩ := numeral
  cases figures <;> rfl

end Numeral

/-! ## Texts that are taken -/

section Taken

variable {value : String} {numeral : Numeral}

theorem isNumeric_eq (written : Text.trimLeading value.toList = numeral.text) :
    isNumeric value = (Double.ofDecimal? numeral.kept.digits numeral.kept.scale).isSome := by
  rw [isNumeric, written, numeral.ofChars?_text]

theorem exists_numeral (taken : isNumeric value = true) :
    ∃ numeral : Numeral, Text.trimLeading value.toList = numeral.text := by
  unfold isNumeric at taken
  split at taken
  · cases taken
  · next read =>
    obtain ⟨numeral, written, _⟩ := Numeral.ofChars?_eq_some_iff.mp read
    exact ⟨numeral, written⟩

theorem isNumeric_iff_magnitude (written : Text.trimLeading value.toList = numeral.text)
    (moderate : numeral.IsModerate) :
    isNumeric value = true ↔ numeral.magnitude < Double.bound := by
  rw [isNumeric_eq written, Double.isSome_ofDecimal?_iff, Numeral.magnitude_eq moderate]

theorem isNumeric_iff_exists (moderate : ∀ numeral : Numeral,
      Text.trimLeading value.toList = numeral.text → numeral.IsModerate) :
    isNumeric value = true ↔
      ∃ numeral : Numeral, Text.trimLeading value.toList = numeral.text ∧
        numeral.magnitude < Double.bound := by
  constructor
  · intro taken
    obtain ⟨numeral, written⟩ := exists_numeral taken
    exact ⟨numeral, written, (isNumeric_iff_magnitude written (moderate numeral written)).mp taken⟩
  · rintro ⟨numeral, written, small⟩
    exact (isNumeric_iff_magnitude written (moderate numeral written)).mpr small

-- The bound lies between these two. Neither is a double.
example : isNumeric "1.7976931348623158e308" = true ∧
    isNumeric "1.7976931348623159e308" = false := by
  decide +kernel

/-- The text of a numeral has nothing in front that could be trimmed. -/
theorem trimLeading_ofList (numeral : Numeral) :
    Text.trimLeading (String.ofList numeral.text).toList = numeral.text := by
  rw [String.toList_ofList, numeral.trimLeading_text]

/-- Zeros in front of the digits do not matter, however many there are. -/
theorem isNumeric_replicate_zero (zeros : Nat) (numeral : Numeral) :
    isNumeric (String.ofList
        (numeral.sign.text ++ List.replicate zeros '0' ++ numeral.unsignedText)) =
      isNumeric (String.ofList numeral.text) := by
  induction zeros generalizing numeral with
  | zero =>
      rw [List.replicate_zero, List.append_nil]
      rfl
  | succ zeros ih =>
      have moved : numeral.sign.text ++ List.replicate (zeros + 1) '0' ++ numeral.unsignedText =
          numeral.padded.sign.text ++ List.replicate zeros '0' ++
            numeral.padded.unsignedText := by
        rw [List.replicate_succ', numeral.unsignedText_padded]
        simp only [List.append_assoc, List.singleton_append]
        rfl
      rw [moved, ih, isNumeric_eq (trimLeading_ofList numeral.padded), numeral.digits_padded,
        numeral.scale_padded, isNumeric_eq (trimLeading_ofList numeral)]

/-! ## Texts that are never taken -/

/-- White space at the end is not taken. -/
theorem not_isNumeric_push {c : Char} (blank : Text.isWhiteSpace c = true) :
    isNumeric (value.push c) = false := by
  rw [Bool.eq_false_iff]
  intro taken
  obtain ⟨numeral, written⟩ := exists_numeral taken
  rw [String.toList_push, Text.trimLeading, List.dropWhile_append] at written
  split at written
  · rw [List.dropWhile_cons, if_pos blank] at written
    exact numeral.text_ne_nil written.symm
  · have member : c ∈ numeral.text := written ▸ by simp
    exact Bool.false_ne_true ((Numeral.not_blank_of_mem member).symm.trans blank)

/-- The words for numbers that are not finite, in any case and with any sign. -/
theorem not_isNumeric_word {sign : NumeralSign} {word : List Char}
    (spelled : Text.trimLeading value.toList = sign.text ++ word)
    (isWord : word.map Char.toLower ∈ ["inf".toList, "infinity".toList, "nan".toList]) :
    isNumeric value = false := by
  rw [Bool.eq_false_iff]
  intro taken
  obtain ⟨numeral, written⟩ := exists_numeral taken
  have letter : 'n' ∈ word.map Char.toLower := by
    simp only [List.mem_cons, List.not_mem_nil, or_false] at isWord
    rcases isWord with isWord | isWord | isWord <;> rw [isWord] <;> decide
  obtain ⟨c, inWord, isLetter⟩ := List.mem_map.mp letter
  have member : c ∈ numeral.text := by
    rw [← written, spelled]
    exact List.mem_append_right _ inWord
  exact Numeral.toLower_ne_of_mem member isLetter

end Taken

/-- A text whose power of ten, if it has one, is below `65536` is taken exactly if it is a
numeral behind white space and denotes a number below `2 ^ 1024 - 2 ^ 970` in absolute value.
No other number can be read from it. In particular white space at its end and words for
infinite numbers are not taken, zeros in front do not matter, and of two numerals with the same
absolute value both are taken or none. -/
theorem numerals_are_numeric_below_bound :
    (∀ value : String,
      (∀ numeral : Numeral, Text.trimLeading value.toList = numeral.text → numeral.IsModerate) →
        (isNumeric value = true ↔
          ∃ numeral : Numeral, Text.trimLeading value.toList = numeral.text ∧
            |numeral.value| < 2 ^ 1024 - 2 ^ 970)) ∧
    (∀ first second : Numeral, first.text = second.text → first.value = second.value) ∧
    (∀ (value : String) (c : Char), Text.isWhiteSpace c = true →
      isNumeric (value.push c) = false) ∧
    (∀ (value : String) (sign : NumeralSign) (word : List Char),
      Text.trimLeading value.toList = sign.text ++ word →
        word.map Char.toLower ∈ ["inf".toList, "infinity".toList, "nan".toList] →
          isNumeric value = false) ∧
    (∀ (numeral : Numeral) (zeros : Nat),
      isNumeric (String.ofList
          (numeral.sign.text ++ List.replicate zeros '0' ++ numeral.unsignedText)) =
        isNumeric (String.ofList numeral.text)) ∧
    ∀ first second : Numeral, first.IsModerate → second.IsModerate →
      |first.value| = |second.value| →
        isNumeric (String.ofList first.text) = isNumeric (String.ofList second.text) := by
  refine ⟨?_, ?_, ?_, ?_, ?_, ?_⟩
  · intro value moderate
    simp only [Numeral.abs_value]
    exact isNumeric_iff_exists moderate
  · intro first second same
    exact Numeral.value_congr same
  · intro value c blank
    exact not_isNumeric_push blank
  · intro value sign word spelled isWord
    exact not_isNumeric_word spelled isWord
  · intro numeral zeros
    exact isNumeric_replicate_zero zeros numeral
  · intro first second moderate moderate' same
    rw [Numeral.abs_value, Numeral.abs_value] at same
    rw [Bool.eq_iff_iff, isNumeric_iff_magnitude (trimLeading_ofList first) moderate,
      isNumeric_iff_magnitude (trimLeading_ofList second) moderate', same]

/-- A price with a sign, a fraction and a power of ten behind a space, and the same price
written in two other ways. -/
theorem numerals_are_numeric_below_bound_price :
    (∃ numeral : Numeral, Text.trimLeading " -01.50E+3".toList = numeral.text ∧
      |numeral.value| < 2 ^ 1024 - 2 ^ 970) ∧
    isNumeric ("1.5e3".push ' ') = false ∧
    isNumeric " +Infinity" = false ∧
    isNumeric (String.ofList "1500".toList) = isNumeric (String.ofList "1.5e3".toList) := by
  obtain ⟨below, _, blank, word, _, same⟩ := numerals_are_numeric_below_bound
  refine ⟨(below " -01.50E+3" ?_).mp (by decide +kernel), blank "1.5e3" ' ' (by decide),
    word " +Infinity" .plus "Infinity".toList (by decide) (by decide),
    same ⟨.unsigned, .whole ⟨1, [5, 0, 0]⟩, none⟩
      ⟨.unsigned, .mixed ⟨1, []⟩ [5], some ⟨false, .unsigned, ⟨3, []⟩⟩⟩ ?_ ?_ ?_⟩
  · intro numeral written
    have read : DecimalText.ofChars? (Text.trimLeading " -01.50E+3".toList) =
        some ⟨['0', '1'], ['5', '0'], some (false, ['3'])⟩ := by decide +kernel
    rw [written, numeral.ofChars?_text] at read
    rw [Numeral.isModerate_iff, Option.some.inj read]
    rintro _ ⟨⟩
    decide
  · rintro _ ⟨⟩
  · rintro _ ⟨⟩
    decide
  · norm_num [Numeral.value, Numeral.magnitude, Numeral.exponent, Figures.value, Figures.front,
      Figures.back, Power.exponent, Power.size, DigitRun.digits, Digit.natural,
      NumeralSign.isMinus]

end Questionnaire
