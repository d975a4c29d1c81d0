/-
# Normalization

Texts that look the same may be spelled in several ways: a letter with an accent
as one character or as two, and marks in different orders. The normal form takes
characters apart, puts the marks that stand together in the order of their
classes, and composes what can be composed. Characters that a normal form never
holds are not taken apart here, so a text must not hold them.
-/

import Questionnaire.Text.Composition

namespace Questionnaire.Text

/-- The syllables of Hangul are numbered from here. -/
def firstSyllable : Nat := 0xAC00

/-- The number of syllables of Hangul. -/
def syllableCount : Nat := 11172

/-- The parts of a syllable of Hangul. -/
def syllableParts (codePoint : Nat) : List Nat :=
  let number := codePoint - firstSyllable
  let parts := [0x1100 + number / 588, 0x1161 + number % 588 / 28]
  if number % 28 = 0 then parts else parts ++ [0x11A7 + number % 28]

/-- The parts of a code point. Characters are taken apart so often at most, which
is more than any character needs. -/
def decompose : Nat → Nat → List Nat
  | 0, codePoint => [codePoint]
  | depth + 1, codePoint =>
    if codePoint < 0xC0 then [codePoint]
    else if firstSyllable ≤ codePoint && codePoint < firstSyllable + syllableCount then
      syllableParts codePoint
    else
      match compositions.find? (fun entry => entry.composed == codePoint) with
      | some entry => decompose depth entry.base ++ [entry.mark]
      | none => [codePoint]

/-- Put a mark into a run of marks behind all marks whose class is not greater. -/
def insertMark (mark : Nat × Nat) : List (Nat × Nat) → List (Nat × Nat)
  | [] => [mark]
  | other :: rest =>
    if mark.2 < other.2 then mark :: other :: rest else other :: insertMark mark rest

/-- Order the marks that stand together, each given with its class. The run of
marks that has been read is given in order. -/
def orderMarks (run : List (Nat × Nat)) : List (Nat × Nat) → List (Nat × Nat)
  | [] => run
  | entry :: rest =>
    if entry.2 = 0 then run ++ entry :: orderMarks [] rest
    else orderMarks (insertMark entry run) rest

/-- The composed character of two code points, if there is one. -/
def composition? (first second : Nat) : Option Nat :=
  if 0x1100 ≤ first && first < 0x1113 && 0x1161 ≤ second && second < 0x1176 then
    some (firstSyllable + ((first - 0x1100) * 21 + (second - 0x1161)) * 28)
  else if firstSyllable ≤ first && first < firstSyllable + syllableCount &&
      (first - firstSyllable) % 28 == 0 && 0x11A7 < second && second < 0x11C3 then
    some (first + (second - 0x11A7))
  else
    (compositions.find? (fun entry => entry.base == first && entry.mark == second)).map
      Composition.composed

/-- Compose a base with the code points after it. The marks that were not
composed are kept in reverse with the class of the last of them. -/
def composeFrom (base : Nat) (marks : List Nat) (lastClass : Nat) :
    List (Nat × Nat) → List Nat
  | [] => base :: marks.reverse
  | (codePoint, markClass) :: rest =>
    let reaches := marks.isEmpty || lastClass < markClass
    match if reaches then composition? base codePoint else none with
    | some composed => composeFrom composed marks lastClass rest
    | none =>
      if markClass = 0 then base :: marks.reverse ++ composeFrom codePoint [] 0 rest
      else composeFrom base (codePoint :: marks) markClass rest

/-- Compose what can be composed. Marks before the first base stay as they are. -/
def composeAll : List (Nat × Nat) → List Nat
  | [] => []
  | (codePoint, markClass) :: rest =>
    if markClass = 0 then composeFrom codePoint [] 0 rest else codePoint :: composeAll rest

/-- The normal form of a text. -/
def normalForm (text : List Char) : List Char :=
  let parts := text.flatMap (fun c => decompose 4 c.toNat)
  let ordered := orderMarks [] (parts.map (fun codePoint => (codePoint, combiningClass codePoint)))
  (composeAll ordered).map Char.ofNat

end Questionnaire.Text
