/-
# Where rounding leaves the double format

A ratio rounds to a finite double exactly if it is below `2 ^ 1024 - 2 ^ 970`, half a unit of
the last place above the largest one. The boundary itself is a tie, which goes to the even
neighbour, and this is `2 ^ 1024`. All numbers are compared as rational numbers. The exponent
that rounding chooses is known by two bounds on the significand, and only the one exponent at
which the format ends needs more than them.
-/

import Mathlib.Algebra.Order.Field.Power
import Mathlib.Algebra.Order.Field.Rat
import Mathlib.Data.Nat.Cast.Order.Field
import Mathlib.Tactic.Linarith
import Mathlib.Tactic.NormNum
import Mathlib.Tactic.Positivity
import Mathlib.Tactic.Ring
import Questionnaire.Number.Double

namespace Questionnaire.Double

/-- The number that a magnitude stands for. -/
def toRat (value : Double) : ℚ :=
  value.mantissa * 2 ^ value.exponent

/-- The first number that does not round to a finite double. -/
def bound : ℚ :=
  2 ^ 1024 - 2 ^ 970

/-- The whole exponents are the natural numbers and their negatives. -/
theorem exists_natural (exponent : Int) :
    (∃ size : Nat, exponent = -(size : Int) ∧ exponent < 0) ∨
      ∃ size : Nat, exponent = size ∧ ¬exponent < 0 := by
  rcases lt_or_ge exponent 0 with negative | natural
  · exact Or.inl ⟨exponent.natAbs, by omega, negative⟩
  · exact Or.inr ⟨exponent.natAbs, by omega, natural.not_gt⟩

/-- The range of the format ends at `2 ^ 1024`. -/
theorem inRange_iff (value : Double) : value.inRange = true ↔ value.toRat < 2 ^ 1024 := by
  obtain ⟨mantissa, exponent⟩ := value
  have top : (2 : ℚ) ^ 1024 = (Nat.pow 2 1024 : Nat) := by
    simp only [Nat.pow_eq, Nat.cast_pow, Nat.cast_ofNat]
  rw [inRange, toRat, top]
  clear top
  generalize Nat.pow 2 1024 = limit
  rcases exists_natural exponent with ⟨size, rfl, negative⟩ | ⟨size, rfl, natural⟩
  · rw [if_pos negative, decide_eq_true_iff, zpow_neg, zpow_natCast, ← div_eq_mul_inv,
      div_lt_iff₀ (by positivity), Int.natAbs_neg, Int.natAbs_natCast]
    norm_cast
  · rw [if_neg natural, decide_eq_true_iff, zpow_natCast, Int.natAbs_natCast]
    norm_cast

/-! ## Ratios and exponents -/

section Ratio

variable (numerator : Nat) {denominator : Nat}

/-- A scaled ratio is the ratio divided by the power of two. -/
theorem scaledRatio_eq (denominator : Nat) (exponent : Int) :
    ((scaledRatio numerator denominator exponent).1 : ℚ) /
        (scaledRatio numerator denominator exponent).2 =
      (numerator / denominator : ℚ) / 2 ^ exponent := by
  unfold scaledRatio
  rcases exists_natural exponent with ⟨size, rfl, negative⟩ | ⟨size, rfl, natural⟩
  · rw [if_pos negative, zpow_neg, zpow_natCast, Int.natAbs_neg, Int.natAbs_natCast, Nat.pow_eq,
      div_inv_eq_mul, div_mul_eq_mul_div]
    push_cast
    rfl
  · rw [if_neg natural, zpow_natCast, Int.natAbs_natCast, Nat.pow_eq, div_div]
    push_cast
    rfl

theorem scaledRatio_pos (positive : 0 < denominator) (exponent : Int) :
    0 < (scaledRatio numerator denominator exponent).2 := by
  unfold scaledRatio
  split
  · exact positive
  · exact Nat.mul_pos positive (Nat.pow_pos Nat.two_pos)

/-- The whole part of a scaled ratio is below a number if the ratio is below its multiple. -/
theorem scaledRatio_div_lt_iff (positive : 0 < denominator) (exponent : Int) (limit : Nat) :
    (scaledRatio numerator denominator exponent).1 /
        (scaledRatio numerator denominator exponent).2 < limit ↔
      (numerator / denominator : ℚ) < limit * 2 ^ exponent := by
  have bottom := scaledRatio_pos numerator positive exponent
  rw [← div_lt_iff₀ (by positivity), ← scaledRatio_eq numerator denominator,
    div_lt_iff₀ (by exact_mod_cast bottom), Nat.div_lt_iff_lt_mul bottom]
  norm_cast

/-- The logarithms of a ratio bound it from above. -/
theorem ratio_lt_log2 (positive : 0 < denominator) :
    (numerator / denominator : ℚ) <
      2 ^ ((numerator.log2 : Int) - (denominator.log2 : Int) + 1) := by
  have above : (numerator : ℚ) < 2 ^ (numerator.log2 + 1) := by
    exact_mod_cast Nat.lt_log2_self
  have below : (2 ^ denominator.log2 : ℚ) ≤ denominator := by
    exact_mod_cast Nat.log2_self_le positive.ne'
  have product : ((2 : ℚ) ^ ((numerator.log2 : Int) - (denominator.log2 : Int) + 1)) *
      2 ^ denominator.log2 = 2 ^ (numerator.log2 + 1) := by
    rw [← zpow_natCast, ← zpow_natCast, ← zpow_add₀ two_ne_zero]
    congr 1
    push_cast
    omega
  rw [div_lt_iff₀ (by exact_mod_cast positive)]
  calc (numerator : ℚ) < 2 ^ (numerator.log2 + 1) := above
    _ = 2 ^ ((numerator.log2 : Int) - (denominator.log2 : Int) + 1) * 2 ^ denominator.log2 :=
        product.symm
    _ ≤ 2 ^ ((numerator.log2 : Int) - (denominator.log2 : Int) + 1) * denominator := by
        gcongr

/-- They also bound it from below. -/
theorem log2_le_ratio (positive : 0 < denominator) (nonzero : numerator ≠ 0) :
    (2 : ℚ) ^ ((numerator.log2 : Int) - (denominator.log2 : Int) - 1) ≤
      numerator / denominator := by
  have below : (2 ^ numerator.log2 : ℚ) ≤ numerator := by
    exact_mod_cast Nat.log2_self_le nonzero
  have above : (denominator : ℚ) ≤ 2 ^ (denominator.log2 + 1) := by
    exact_mod_cast (Nat.lt_log2_self (n := denominator)).le
  have product : ((2 : ℚ) ^ ((numerator.log2 : Int) - (denominator.log2 : Int) - 1)) *
      2 ^ (denominator.log2 + 1) = 2 ^ numerator.log2 := by
    rw [← zpow_natCast, ← zpow_natCast, ← zpow_add₀ two_ne_zero]
    congr 1
    push_cast
    omega
  rw [le_div_iff₀ (by exact_mod_cast positive)]
  calc (2 : ℚ) ^ ((numerator.log2 : Int) - (denominator.log2 : Int) - 1) * denominator
      ≤ 2 ^ ((numerator.log2 : Int) - (denominator.log2 : Int) - 1) *
          2 ^ (denominator.log2 + 1) := by gcongr
    _ = 2 ^ numerator.log2 := product
    _ ≤ numerator := below

/-- The exponent at which the search for a fitting one starts. -/
def guessedExponent (numerator denominator : Nat) : Int :=
  max ((numerator.log2 : Int) - (denominator.log2 : Int) - 53) leastExponent

theorem fittingExponent_eq (positive : 0 < denominator) :
    fittingExponent numerator denominator =
      if (numerator / denominator : ℚ) < 2 ^ 53 * 2 ^ guessedExponent numerator denominator
        then guessedExponent numerator denominator
        else guessedExponent numerator denominator + 1 := by
  have fits := scaledRatio_div_lt_iff numerator positive
    (guessedExponent numerator denominator) (2 ^ 53)
  push_cast at fits
  unfold fittingExponent
  exact if_congr fits rfl rfl

/-- At the fitting exponent the significand has at most 53 bits. -/
theorem lt_fittingExponent (positive : 0 < denominator) :
    (numerator / denominator : ℚ) < 2 ^ 53 * 2 ^ fittingExponent numerator denominator := by
  rw [fittingExponent_eq numerator positive]
  split
  · next fits => exact fits
  · have reaches : (numerator.log2 : Int) - (denominator.log2 : Int) + 1 ≤
        53 + (guessedExponent numerator denominator + 1) := by
      unfold guessedExponent
      omega
    calc (numerator / denominator : ℚ)
        < 2 ^ ((numerator.log2 : Int) - (denominator.log2 : Int) + 1) :=
          ratio_lt_log2 numerator positive
      _ ≤ 2 ^ (53 + (guessedExponent numerator denominator + 1)) :=
          zpow_le_zpow_right₀ one_le_two reaches
      _ = 2 ^ 53 * 2 ^ (guessedExponent numerator denominator + 1) := by
          rw [zpow_add₀ two_ne_zero]
          rfl

/-- Above the least exponent of the format it has no fewer bits, either. -/
theorem fittingExponent_le (positive : 0 < denominator) (nonzero : numerator ≠ 0)
    (above : leastExponent < fittingExponent numerator denominator) :
    (2 ^ 52 * 2 ^ fittingExponent numerator denominator : ℚ) ≤ numerator / denominator := by
  rw [fittingExponent_eq numerator positive] at above ⊢
  split at above
  · next fits =>
    rw [if_pos fits]
    have starts : (52 : Int) + guessedExponent numerator denominator =
        (numerator.log2 : Int) - (denominator.log2 : Int) - 1 := by
      unfold guessedExponent at above ⊢
      omega
    calc (2 : ℚ) ^ 52 * 2 ^ guessedExponent numerator denominator
        = 2 ^ ((52 : Int) + guessedExponent numerator denominator) := by
          rw [zpow_add₀ two_ne_zero]
          rfl
      _ ≤ numerator / denominator := starts ▸ log2_le_ratio numerator positive nonzero
  · next tooSmall =>
    rw [if_neg tooSmall]
    calc (2 : ℚ) ^ 52 * (2 : ℚ) ^ (guessedExponent numerator denominator + 1)
        = 2 ^ 53 * 2 ^ guessedExponent numerator denominator := by
          rw [zpow_add_one₀ two_ne_zero]
          ring
      _ ≤ (numerator / denominator : ℚ) := not_lt.mp tooSmall

end Ratio

/-! ## Rounding to a whole number -/

/-- Rounding does not go below the whole part. -/
theorem div_le_roundQuotient (top bottom : Nat) : top / bottom ≤ roundQuotient top bottom := by
  unfold roundQuotient
  dsimp only
  split
  · exact Nat.le_refl _
  · split
    · exact Nat.le_succ _
    · split
      · exact Nat.le_refl _
      · exact Nat.le_succ _

/-- Rounding does not go above the next whole number. -/
theorem roundQuotient_le (top bottom : Nat) : roundQuotient top bottom ≤ top / bottom + 1 := by
  unfold roundQuotient
  dsimp only
  split
  · exact Nat.le_succ _
  · split
    · exact Nat.le_refl _
    · split
      · exact Nat.le_succ _
      · exact Nat.le_refl _

/-- A quotient rounds below an even number exactly if it is nearer to a smaller number. At
the same distance from both it rounds to the even one. -/
theorem roundQuotient_lt_iff {top bottom even : Nat} (positive : 0 < bottom)
    (isEven : even % 2 = 0) :
    roundQuotient top bottom < even ↔ (top / bottom : ℚ) < even - 1 / 2 := by
  have doubled : (top / bottom : ℚ) < even - 1 / 2 ↔
      2 * top + bottom < 2 * (even * bottom) := by
    rw [div_lt_iff₀ (by exact_mod_cast positive), ← Nat.cast_lt (α := ℚ)]
    push_cast
    constructor <;> intro less <;> linarith
  rw [doubled]
  have whole : bottom * (top / bottom) + top % bottom = top := Nat.div_add_mod top bottom
  have part : top % bottom < bottom := Nat.mod_lt top positive
  have least := div_le_roundQuotient top bottom
  have most := roundQuotient_le top bottom
  rcases lt_trichotomy (top / bottom + 1) even with below | next | above
  · obtain ⟨gap, rfl⟩ := Nat.exists_eq_add_of_lt below
    refine iff_of_true (by omega) ?_
    have : (top / bottom + 1 + gap + 1) * bottom =
        bottom * (top / bottom) + bottom + gap * bottom + bottom := by ring
    omega
  · have odd : top / bottom % 2 ≠ 0 := by omega
    have product : even * bottom = bottom * (top / bottom) + bottom := by
      rw [← next]
      ring
    unfold roundQuotient
    dsimp only
    split
    · omega
    · split <;> omega
  · obtain ⟨gap, reaches⟩ := Nat.exists_eq_add_of_le (Nat.lt_succ_iff.mp above)
    refine iff_of_false (by omega) ?_
    have : bottom * (top / bottom) = even * bottom + gap * bottom := by
      rw [reaches]
      ring
    omega

/-! ## The boundary -/

/-- The end of the range of the format, with one factor set apart. -/
theorem end_eq : (2 : ℚ) ^ 1024 = 2 ^ 54 * 2 ^ 970 := by
  rw [← pow_add]

/-- The bound with the same factor set apart. -/
theorem bound_eq : bound = (2 ^ 54 - 1) * 2 ^ 970 := by
  rw [bound, end_eq, sub_one_mul]

section Boundary

variable (numerator : Nat) {denominator : Nat}

/-- The rounded significand of a ratio at its fitting exponent. -/
def significand (numerator denominator : Nat) : Nat :=
  roundQuotient (scaledRatio numerator denominator (fittingExponent numerator denominator)).1
    (scaledRatio numerator denominator (fittingExponent numerator denominator)).2

/-- Rounding succeeds exactly if the rounded number is in range. -/
theorem isSome_ofRatio?_iff_significand (denominator : Nat) :
    (ofRatio? numerator denominator).isSome = true ↔
      (significand numerator denominator * 2 ^ fittingExponent numerator denominator : ℚ) <
        2 ^ 1024 := by
  have inside := inRange_iff
    ⟨significand numerator denominator, fittingExponent numerator denominator⟩
  rw [toRat] at inside
  rw [← inside]
  unfold ofRatio?
  dsimp only [significand]
  split <;> simp_all

/-- A significand has at most 53 bits before it is rounded. -/
theorem significand_le (positive : 0 < denominator) :
    significand numerator denominator ≤ 2 ^ 53 := by
  have fits := (scaledRatio_div_lt_iff numerator positive
    (fittingExponent numerator denominator) (2 ^ 53)).mpr
      (by exact_mod_cast lt_fittingExponent numerator positive)
  exact (roundQuotient_le _ _).trans fits

/-- It has all of them if the exponent is not the least one. -/
theorem le_significand (positive : 0 < denominator) (nonzero : numerator ≠ 0)
    (above : leastExponent < fittingExponent numerator denominator) :
    2 ^ 52 ≤ significand numerator denominator := by
  have full := mt (scaledRatio_div_lt_iff numerator positive
    (fittingExponent numerator denominator) (2 ^ 52)).mp
      (by exact_mod_cast (fittingExponent_le numerator positive nonzero above).not_gt)
  exact (not_lt.mp full).trans (div_le_roundQuotient _ _)

/-- At the last exponent of the format a tie makes the significand too large. -/
theorem significand_lt_iff (positive : 0 < denominator)
    (last : fittingExponent numerator denominator = 971) :
    significand numerator denominator < 2 ^ 53 ↔ (numerator / denominator : ℚ) < bound := by
  have atLast := scaledRatio_eq numerator denominator 971
  rw [significand, last, roundQuotient_lt_iff (scaledRatio_pos numerator positive 971) rfl, atLast,
    div_lt_iff₀ (by positivity), bound_eq]
  have half : (2 : ℚ) ^ 971 = 2 * 2 ^ 970 := pow_succ' 2 970
  have product : (((2 ^ 53 : Nat) : ℚ) - 1 / 2) * (2 * 2 ^ 970) = (2 ^ 54 - 1) * 2 ^ 970 := by
    rw [← mul_assoc]
    congr 1
    norm_num
  rw [zpow_ofNat, half, product]

/-- Zero has its significand at an exponent far from the end of the format. -/
theorem fittingExponent_zero_le (positive : 0 < denominator) :
    fittingExponent 0 denominator ≤ -53 := by
  have fits : ((0 : Nat) / denominator : ℚ) < 2 ^ 53 * 2 ^ guessedExponent 0 denominator := by
    rw [Nat.cast_zero, zero_div]
    positivity
  have noBits : Nat.log2 0 = 0 := rfl
  rw [fittingExponent_eq 0 positive, if_pos fits, guessedExponent, leastExponent, noBits]
  omega

/-- Below the last exponent every ratio is in range. -/
theorem inside_of_fittingExponent_lt (positive : 0 < denominator)
    (below : fittingExponent numerator denominator < 971) :
    (significand numerator denominator * 2 ^ fittingExponent numerator denominator : ℚ) <
        2 ^ 1024 ∧
      (numerator / denominator : ℚ) < bound := by
  have unit_pos : (0 : ℚ) < 2 ^ 970 := pow_pos two_pos 970
  have power_le : (2 : ℚ) ^ fittingExponent numerator denominator ≤ 2 ^ (970 : Int) :=
    zpow_le_zpow_right₀ one_le_two (Int.le_of_lt_add_one below)
  rw [zpow_ofNat] at power_le
  have product_le : (2 ^ 53 * 2 ^ fittingExponent numerator denominator : ℚ) ≤
      2 ^ 53 * 2 ^ 970 := by gcongr
  have size_le : (significand numerator denominator : ℚ) ≤ 2 ^ 53 := by
    exact_mod_cast significand_le numerator positive
  constructor
  · calc (significand numerator denominator * 2 ^ fittingExponent numerator denominator : ℚ)
        ≤ 2 ^ 53 * 2 ^ fittingExponent numerator denominator := by gcongr
      _ ≤ 2 ^ 53 * 2 ^ 970 := product_le
      _ < 2 ^ 54 * 2 ^ 970 := mul_lt_mul_of_pos_right (by norm_num) unit_pos
      _ = 2 ^ 1024 := end_eq.symm
  · calc (numerator / denominator : ℚ)
        < 2 ^ 53 * 2 ^ fittingExponent numerator denominator :=
          lt_fittingExponent numerator positive
      _ ≤ 2 ^ 53 * 2 ^ 970 := product_le
      _ ≤ (2 ^ 54 - 1) * 2 ^ 970 := mul_le_mul_of_nonneg_right (by norm_num) unit_pos.le
      _ = bound := bound_eq.symm

/-- Above the last exponent no ratio is. -/
theorem outside_of_lt_fittingExponent (positive : 0 < denominator)
    (above : 971 < fittingExponent numerator denominator) :
    (2 : ℚ) ^ 1024 ≤
        significand numerator denominator * 2 ^ fittingExponent numerator denominator ∧
      bound ≤ numerator / denominator := by
  have unit_pos : (0 : ℚ) < 2 ^ 970 := pow_pos two_pos 970
  have nonzero : numerator ≠ 0 := by
    rintro rfl
    have := fittingExponent_zero_le positive
    omega
  have full : leastExponent < fittingExponent numerator denominator := by
    unfold leastExponent
    omega
  have power_le : (2 : ℚ) ^ (972 : Int) ≤ 2 ^ fittingExponent numerator denominator :=
    zpow_le_zpow_right₀ one_le_two (Int.add_one_le_of_lt above)
  rw [zpow_ofNat] at power_le
  have size_le : (2 ^ 52 : ℚ) ≤ significand numerator denominator := by
    exact_mod_cast le_significand numerator positive nonzero full
  have product_le : (2 : ℚ) ^ 1024 ≤ 2 ^ 52 * 2 ^ fittingExponent numerator denominator := by
    have ends : (2 : ℚ) ^ 1024 = 2 ^ 52 * 2 ^ 972 := by rw [← pow_add]
    rw [ends]
    gcongr
  constructor
  · calc (2 : ℚ) ^ 1024 ≤ 2 ^ 52 * 2 ^ fittingExponent numerator denominator := product_le
      _ ≤ significand numerator denominator * 2 ^ fittingExponent numerator denominator := by
        gcongr
  · calc bound ≤ 2 ^ 1024 := sub_le_self _ unit_pos.le
      _ ≤ 2 ^ 52 * 2 ^ fittingExponent numerator denominator := product_le
      _ ≤ numerator / denominator := fittingExponent_le numerator positive nonzero full

/-- A ratio rounds to a finite double exactly if it is below the bound. -/
theorem isSome_ofRatio?_iff (positive : 0 < denominator) :
    (ofRatio? numerator denominator).isSome = true ↔
      (numerator / denominator : ℚ) < bound := by
  rw [isSome_ofRatio?_iff_significand]
  rcases lt_trichotomy (fittingExponent numerator denominator) 971 with below | last | above
  · obtain ⟨rounded, exact⟩ := inside_of_fittingExponent_lt numerator positive below
    exact iff_of_true rounded exact
  · have ends : (2 : ℚ) ^ 1024 = 2 ^ 53 * 2 ^ (971 : Int) := by
      rw [zpow_ofNat, ← pow_add]
    rw [← significand_lt_iff numerator positive last, last, ends,
      mul_lt_mul_iff_left₀ (by positivity)]
    exact_mod_cast Iff.rfl
  · obtain ⟨rounded, exact⟩ := outside_of_lt_fittingExponent numerator positive above
    exact iff_of_false rounded.not_gt exact.not_gt

end Boundary

/-- A whole number times a power of ten rounds to a finite double exactly if it is below the
bound. -/
theorem isSome_ofDecimal?_iff (digits : Nat) (exponent : Int) :
    (ofDecimal? digits exponent).isSome = true ↔ (digits * 10 ^ exponent : ℚ) < bound := by
  unfold ofDecimal?
  rcases exists_natural exponent with ⟨size, rfl, negative⟩ | ⟨size, rfl, natural⟩
  · rw [if_pos negative, Nat.pow_eq, isSome_ofRatio?_iff digits (Nat.pow_pos (by decide)),
      zpow_neg, zpow_natCast, ← div_eq_mul_inv, Int.natAbs_neg, Int.natAbs_natCast,
      Nat.cast_pow, Nat.cast_ofNat]
  · rw [if_neg natural, isSome_ofRatio?_iff _ Nat.one_pos, zpow_natCast, Int.natAbs_natCast,
      Nat.pow_eq, Nat.cast_one, div_one, Nat.cast_mul, Nat.cast_pow, Nat.cast_ofNat]

end Questionnaire.Double
