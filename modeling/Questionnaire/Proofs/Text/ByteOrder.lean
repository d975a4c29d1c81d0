/-
# The order of texts and of their bytes

Texts are compared character by character. This is the order of their UTF-8 bytes: the
first byte of a character grows with the character, and where it is the same, so is the
number of bytes that follow, which hold the remaining digits to the base 64. Two
different characters therefore part within their bytes, and what follows them no longer
matters.
-/

import Mathlib.Algebra.Group.Nat.Defs
import Mathlib.Tactic.SplitIfs
import Questionnaire.Proofs.Lexicographic

namespace Questionnaire.Text

/-- The last digits of a number to the base 64, each as a byte that continues a
character. -/
def continuationBytes : Nat → Nat → List UInt8
  | 0, _ => []
  | count + 1, n => continuationBytes count (n / 64) ++ [UInt8.ofNat (n % 64 + 0x80)]

/-- The number of bytes after the first one of a character. -/
def continuationCount (n : Nat) : Nat :=
  if n ≤ 0x7F then 0 else if n ≤ 0x7FF then 1 else if n ≤ 0xFFFF then 2 else 3

/-- The first byte of a character. -/
def leadByte (n : Nat) : Nat :=
  if n ≤ 0x7F then n
  else if n ≤ 0x7FF then n / 64 + 0xC0
  else if n ≤ 0xFFFF then n / 4096 + 0xE0
  else n / 262144 + 0xF0

theorem code_lt (c : Char) : c.toNat < 0x110000 := by
  rcases c.valid with low | high
  · exact Nat.lt_trans low (by decide)
  · exact high.2

/-- The bytes of a character, by its code. -/
theorem utf8EncodeChar_eq (c : Char) :
    String.utf8EncodeChar c =
      UInt8.ofNat (leadByte c.toNat) :: continuationBytes (continuationCount c.toNat) c.toNat := by
  have bounded := code_lt c
  unfold String.utf8EncodeChar leadByte continuationCount
  rw [Char.toNat] at *
  generalize c.val.toNat = n at *
  dsimp only
  split_ifs with one two three
  · rfl
  · have digit : n / 64 % 32 = n / 64 := Nat.mod_eq_of_lt (by omega)
    rw [digit]
    rfl
  · have digit : n / 4096 % 16 = n / 4096 := Nat.mod_eq_of_lt (by omega)
    simp only [digit, continuationBytes]
    rfl
  · have digit : n / 262144 % 8 = n / 262144 := Nat.mod_eq_of_lt (by omega)
    simp only [digit, continuationBytes, Nat.div_div_eq_div_mul]
    rfl

theorem ofNat_lt_ofNat {n m : Nat} (less : n < m) (small : m < 256) :
    UInt8.ofNat n < UInt8.ofNat m := by
  rw [UInt8.lt_iff_toNat_lt, UInt8.toNat_ofNat', UInt8.toNat_ofNat',
    Nat.mod_eq_of_lt (Nat.lt_trans less small), Nat.mod_eq_of_lt small]
  exact less

theorem leadByte_lt {n : Nat} (bounded : n < 0x110000) : leadByte n < 256 := by
  unfold leadByte
  split_ifs <;> omega

/-- A greater character starts with a greater byte, or with the same one and then has as
many digits left. -/
theorem leadByte_lt_or_eq {n m : Nat} (less : n < m) :
    leadByte n < leadByte m ∨ leadByte n = leadByte m ∧
      continuationCount n = continuationCount m ∧
      n / 64 ^ continuationCount n = m / 64 ^ continuationCount m := by
  unfold leadByte continuationCount
  split_ifs <;> omega

/-- Digits are compared from the front. -/
theorem partsBelow_continuationBytes {count n m : Nat} (less : n < m)
    (same : n / 64 ^ count = m / 64 ^ count) :
    PartsBelow (continuationBytes count n) (continuationBytes count m) := by
  induction count generalizing n m with
  | zero =>
      rw [Nat.pow_zero, Nat.div_one, Nat.div_one] at same
      exact absurd same (Nat.ne_of_lt less)
  | succ count ih =>
      rw [Nat.pow_succ', ← Nat.div_div_eq_div_mul, ← Nat.div_div_eq_div_mul] at same
      rcases Nat.lt_or_eq_of_le (Nat.div_le_div_right (Nat.le_of_lt less)) with higher | equal
      · exact (ih higher same).append _ _
      · have digit : UInt8.ofNat (n % 64 + 0x80) < UInt8.ofNat (m % 64 + 0x80) :=
          ofNat_lt_ofNat (by omega) (by omega)
        rw [continuationBytes, continuationBytes, equal]
        exact PartsBelow.append_left _ ⟨[], _, _, [], [], digit, rfl, rfl⟩

/-- The bytes of two characters part, the smaller one first. -/
theorem partsBelow_utf8EncodeChar {first second : Char} (less : first < second) :
    PartsBelow (String.utf8EncodeChar first) (String.utf8EncodeChar second) := by
  have smaller : first.toNat < second.toNat := less
  rw [utf8EncodeChar_eq, utf8EncodeChar_eq]
  rcases leadByte_lt_or_eq smaller with lead | ⟨lead, count, digits⟩
  · have byte := ofNat_lt_ofNat lead (leadByte_lt (code_lt second))
    exact ⟨[], _, _, _, _, byte, rfl, rfl⟩
  · rw [count] at digits
    rw [lead, count]
    exact PartsBelow.append_left [_] (partsBelow_continuationBytes smaller digits)

/-- Smaller texts have smaller bytes. -/
theorem flatMap_utf8EncodeChar_lt {first second : List Char} (less : first < second) :
    first.flatMap String.utf8EncodeChar < second.flatMap String.utf8EncodeChar := by
  rcases prefix_or_partsBelow less with ⟨rest, rfl⟩ | parts
  · have nonempty : rest ≠ [] := by
      rintro rfl
      rw [List.append_nil] at less
      exact List.lt_irrefl first less
    obtain ⟨c, others, rfl⟩ := List.exists_cons_of_ne_nil nonempty
    rw [List.flatMap_append, List.flatMap_cons, utf8EncodeChar_eq]
    simpa using List.append_left_lt (List.nil_lt_cons _ _)
  · obtain ⟨shared, c, d, rest, rest', smaller, rfl, rfl⟩ := parts
    simp only [List.flatMap_append, List.flatMap_cons]
    exact (((partsBelow_utf8EncodeChar smaller).append _ _).append_left _).lt

theorem toUTF8_toList (text : String) :
    text.toUTF8.data.toList = text.toList.flatMap String.utf8EncodeChar := by
  rw [String.toUTF8, ← String.ofList_toList (s := text), String.toByteArray_ofList,
    String.toList_ofList, List.utf8Encode, List.toList_data_toByteArray]

/-- Texts are ordered as their UTF-8 bytes are. -/
theorem lt_iff_utf8_lt {first second : String} :
    first < second ↔ first.toUTF8.data.toList < second.toUTF8.data.toList := by
  have smaller : ∀ {first second : String}, first < second →
      first.toUTF8.data.toList < second.toUTF8.data.toList := by
    intro first second less
    rw [toUTF8_toList, toUTF8_toList]
    exact flatMap_utf8EncodeChar_lt less
  constructor
  · exact smaller
  · intro less
    apply Classical.byContradiction
    intro notLess
    by_cases greater : second < first
    · exact List.lt_asymm less (smaller greater)
    · obtain rfl : first = second := String.le_antisymm greater notLess
      exact List.lt_irrefl _ less

end Questionnaire.Text
