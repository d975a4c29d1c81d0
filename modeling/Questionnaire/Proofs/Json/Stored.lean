/-
# Numbers of JSON texts are kept as their kinds say

The type of JSON numbers leaves the size of whole numbers open. The reader does not: a whole
number that it keeps as one fits 64 bits, with or without sign, at any depth of the value
that is read. Nothing is said here about doubles.
-/

import Questionnaire.Json.Parser

namespace Questionnaire

/-- A number is kept as its kind says: whole numbers fit 64 bits, with or without sign. -/
def JsonNumber.IsStored : JsonNumber → Prop
  | .natural value => value < Nat.pow 2 64
  | .negative magnitude => 0 < magnitude ∧ magnitude ≤ Nat.pow 2 63
  | .floating _ _ => True

namespace Json

/-- Every number in a value is kept as its kind says. -/
inductive IsStored : Json → Prop
  /-- There is no number in `null`. -/
  | null : IsStored .null
  /-- There is none in a truth value. -/
  | boolean (value : Bool) : IsStored (.boolean value)
  /-- A number counts itself. -/
  | number {value : JsonNumber} : value.IsStored → IsStored (.number value)
  /-- There is no number in a string. -/
  | string (text : String) : IsStored (.string text)
  /-- In an array all items count. -/
  | array {items : List Json} : (∀ item ∈ items, IsStored item) → IsStored (.array items)
  /-- In an object all members count. -/
  | object {members : List (String × Json)} : (∀ member ∈ members, IsStored member.2) →
    IsStored (.object members)

/-! ## Numbers -/

theorem Significand.addWhole_fits {significand : Significand}
    (fits : significand.value < Nat.pow 2 64) (digit : Char) :
    (significand.addWhole digit).value < Nat.pow 2 64 := by
  unfold Significand.addWhole
  simp only
  split
  · exact fits
  · next small =>
    rw [Bool.or_eq_true, decide_eq_true_eq, not_or] at small
    exact Nat.lt_of_not_le small.2

theorem foldl_addWhole_fits (digits : List Char) {significand : Significand}
    (fits : significand.value < Nat.pow 2 64) :
    (digits.foldl Significand.addWhole significand).value < Nat.pow 2 64 := by
  induction digits generalizing significand with
  | nil => exact fits
  | cons digit rest ih => exact ih (significand.addWhole_fits fits digit)

theorem Significand.isStored_of_number? {significand : Significand} {negative isWhole : Bool}
    {number : JsonNumber} (fits : isWhole = true → significand.value < Nat.pow 2 64)
    (read : significand.number? negative isWhole = some number) : number.IsStored := by
  unfold Significand.number? at read
  split at read
  · next isNatural =>
    cases read
    simp only [Bool.and_eq_true] at isNatural
    exact fits isNatural.1.1
  · split at read
    · next isNegative =>
      cases read
      simp only [Bool.and_eq_true, decide_eq_true_eq] at isNegative
      exact ⟨isNegative.1.2, isNegative.2⟩
    · obtain ⟨value, _, read⟩ := Option.bind_eq_some_iff.mp read
      obtain ⟨magnitude, _, read⟩ := Option.bind_eq_some_iff.mp read
      cases read
      trivial

theorem Significand.isStored_of_readScaled? {significand : Significand} {negative isWhole : Bool}
    {cs rest : List Char} {number : JsonNumber}
    (fits : isWhole = true → significand.value < Nat.pow 2 64)
    (read : significand.readScaled? negative isWhole cs = some (number, rest)) :
    number.IsStored := by
  unfold Significand.readScaled? at read
  split at read
  case h_3 =>
    obtain ⟨read', found, same⟩ := Option.map_eq_some_iff.mp read
    cases same
    exact isStored_of_number? fits found
  all_goals
    obtain ⟨power, _, read⟩ := Option.bind_eq_some_iff.mp read
    obtain ⟨read', found, same⟩ := Option.bind_eq_some_iff.mp read
    cases same
    exact isStored_of_number? (by simp) found

/-- A number is read as a whole number only if all of its digits fit. -/
theorem isStored_of_readNumber? {cs rest : List Char} {number : JsonNumber}
    (read : readNumber? cs = some (number, rest)) : number.IsStored := by
  unfold readNumber? at read
  split at read
  next negative unsigned =>
  extract_lets whole afterWhole badStart significand at read
  have fits : significand.value < Nat.pow 2 64 := foldl_addWhole_fits whole (by decide)
  clear_value afterWhole
  cases bad : badStart with
  | true => simp [bad] at read
  | false =>
      rw [bad, if_neg Bool.false_ne_true] at read
      split at read
      · extract_lets fraction at read
        split at read
        · cases read
        · exact Significand.isStored_of_readScaled? (by simp) read
      · exact Significand.isStored_of_readScaled? (fun _ => fits) read

/-! ## Values -/

/-- Whatever is read keeps its numbers as their kinds say. -/
theorem isStored_of_fuel (fuel : Nat) :
    (∀ {cs rest value}, readValue? fuel cs = some (value, rest) → value.IsStored) ∧
    (∀ {cs rest items}, readItems? fuel cs = some (items, rest) → ∀ item ∈ items, item.IsStored) ∧
    ∀ {cs rest members}, readMembers? fuel cs = some (members, rest) →
      ∀ member ∈ members, member.2.IsStored := by
  induction fuel with
  | zero => simp [readValue?, readItems?, readMembers?]
  | succ fuel ih =>
      obtain ⟨ofValue, ofItems, ofMembers⟩ := ih
      refine ⟨?_, ?_, ?_⟩
      · intro cs rest value read
        cases cs with
        | nil => simp [readValue?] at read
        | cons c cs =>
          rw [readValue?] at read
          split at read
          · obtain ⟨⟨text, after⟩, _, same⟩ := Option.map_eq_some_iff.mp read
            cases same
            exact .string text
          split at read
          · split at read
            · cases read
              exact .array (by simp)
            · obtain ⟨⟨items, after⟩, readItems, same⟩ := Option.map_eq_some_iff.mp read
              cases same
              exact .array (ofItems readItems)
          split at read
          · split at read
            · cases read
              exact .object (by simp)
            · obtain ⟨⟨members, after⟩, readMembers, same⟩ := Option.map_eq_some_iff.mp read
              cases same
              exact .object (ofMembers readMembers)
          split at read
          · obtain ⟨after, _, same⟩ := Option.map_eq_some_iff.mp read
            cases same
            exact .boolean true
          split at read
          · obtain ⟨after, _, same⟩ := Option.map_eq_some_iff.mp read
            cases same
            exact .boolean false
          split at read
          · obtain ⟨after, _, same⟩ := Option.map_eq_some_iff.mp read
            cases same
            exact .null
          · obtain ⟨⟨number, after⟩, readNumber, same⟩ := Option.map_eq_some_iff.mp read
            cases same
            exact .number (isStored_of_readNumber? readNumber)
      · intro cs rest items read
        rw [readItems?] at read
        split at read
        · cases read
        next item afterItem readItem =>
        split at read
        · obtain ⟨⟨others, after⟩, readOthers, same⟩ := Option.map_eq_some_iff.mp read
          cases same
          exact List.forall_mem_cons.mpr ⟨ofValue readItem, ofItems readOthers⟩
        · cases read
          exact List.forall_mem_singleton.mpr (ofValue readItem)
        · cases read
      · intro cs rest members read
        rw [readMembers?] at read
        split at read
        · split at read
          · cases read
          split at read
          · split at read
            · cases read
            next value afterValue readValue =>
            split at read
            · obtain ⟨⟨others, after⟩, readOthers, same⟩ := Option.map_eq_some_iff.mp read
              cases same
              exact List.forall_mem_cons.mpr ⟨ofValue readValue, ofMembers readOthers⟩
            · cases read
              exact List.forall_mem_singleton.mpr (ofValue readValue)
            · cases read
          · cases read
        · cases read

/-- Every JSON text that is read keeps its numbers as their kinds say. -/
theorem isStored_of_parse? {source : String} {value : Json} (read : parse? source = some value) :
    value.IsStored := by
  unfold parse? at read
  extract_lets cs at read
  split at read
  · cases read
  · next found =>
    split at read
    · cases read
      exact (isStored_of_fuel _).1 found
    · cases read

end Json

end Questionnaire
