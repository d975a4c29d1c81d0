/-
# Sets of characters

A set of characters is kept as the ascending list of the code points at which
membership changes: a code point belongs to the set when an odd number of
changes lie at or below it. One walk over two such lists gives every Boolean
combination of two sets. Sets range over all code points below `0x110000`;
those that are no characters are never asked for.
-/

import Questionnaire.Text.CaseFolding
import Questionnaire.Text.WhiteSpace
import Questionnaire.Text.WordCharacter

namespace Questionnaire

/-- A set of characters. -/
structure CharacterSet where
  /-- The code points at which membership changes, in ascending order. -/
  changes : List Nat
  deriving Repr, DecidableEq, Inhabited

namespace CharacterSet

/-- The number of code points. -/
def codePoints : Nat := 0x110000

/-- Whether an odd number of changes lie at or below a code point. -/
def inside (codePoint : Nat) : List Nat → Bool
  | [] => false
  | change :: rest => if change ≤ codePoint then !inside codePoint rest else false

/-- Whether a character belongs to a set. -/
def contains (set : CharacterSet) (c : Char) : Bool :=
  inside c.toNat set.changes

/-- The set without members. -/
def none : CharacterSet := ⟨[]⟩

/-- The set of all characters. -/
def all : CharacterSet := ⟨[0, codePoints]⟩

/-- The code points from the first to the last one. -/
def range (first last : Nat) : CharacterSet :=
  if first ≤ last then ⟨[first, last + 1]⟩ else none

/-- The set of one code point. -/
def single (codePoint : Nat) : CharacterSet := range codePoint codePoint

/-- The set of ascending closed ranges that do not overlap. -/
def ofRanges (ranges : List (Nat × Nat)) : CharacterSet :=
  ⟨ranges.flatMap (fun bounds => [bounds.1, bounds.2 + 1])⟩

/-- The changes with one more in front if the answer turns there. -/
def turn (before after : Bool) (change : Nat) (rest : List Nat) : List Nat :=
  if before = after then rest else change :: rest

/-- Walk over two lists of changes and list the changes of a combination. The
flags say whether the walk is inside the first and the second set. -/
def combineFrom (keep : Bool → Bool → Bool) (inFirst inSecond : Bool) :
    List Nat → List Nat → List Nat
  | [], [] => []
  | change :: first, [] =>
    turn (keep inFirst inSecond) (keep (!inFirst) inSecond) change
      (combineFrom keep (!inFirst) inSecond first [])
  | [], change :: second =>
    turn (keep inFirst inSecond) (keep inFirst (!inSecond)) change
      (combineFrom keep inFirst (!inSecond) [] second)
  | one :: first, two :: second =>
    if one < two then
      turn (keep inFirst inSecond) (keep (!inFirst) inSecond) one
        (combineFrom keep (!inFirst) inSecond first (two :: second))
    else if two < one then
      turn (keep inFirst inSecond) (keep inFirst (!inSecond)) two
        (combineFrom keep inFirst (!inSecond) (one :: first) second)
    else
      turn (keep inFirst inSecond) (keep (!inFirst) (!inSecond)) one
        (combineFrom keep (!inFirst) (!inSecond) first second)
  termination_by first second => first.length + second.length

/-- The set of the characters that a rule keeps, given whether they belong to
the first and to the second set. The rule keeps nothing that is in neither. -/
def combine (keep : Bool → Bool → Bool) (first second : CharacterSet) : CharacterSet :=
  ⟨combineFrom keep false false first.changes second.changes⟩

/-- The members of either set. -/
def union (first second : CharacterSet) : CharacterSet :=
  combine (fun one two => one || two) first second

/-- The members of both sets. -/
def intersection (first second : CharacterSet) : CharacterSet :=
  combine (fun one two => one && two) first second

/-- The members of the first set that are not in the second one. -/
def difference (first second : CharacterSet) : CharacterSet :=
  combine (fun one two => one && !two) first second

/-- The members of exactly one of the sets. -/
def symmetricDifference (first second : CharacterSet) : CharacterSet :=
  combine (fun one two => one != two) first second

/-- All characters that are not in the set. -/
def complement (set : CharacterSet) : CharacterSet :=
  all.difference set

/-- The members of any of the sets. -/
def unionAll (sets : List CharacterSet) : CharacterSet :=
  sets.foldl union none

/-- The closed ranges of the set, in ascending order. -/
def ranges (set : CharacterSet) : List (Nat × Nat) :=
  pairs set.changes
where
  /-- Pairs of neighbouring changes. -/
  pairs : List Nat → List (Nat × Nat)
    | first :: next :: rest =>
      if first < next then (first, next - 1) :: pairs rest else pairs rest
    | [first] => [(first, codePoints - 1)]
    | [] => []

/-- Whether all members are ASCII characters. -/
def isAscii (set : CharacterSet) : Bool :=
  set.ranges.all (fun bounds => bounds.2 < 0x80)

/-- The set with everything that equals a member up to case. -/
def caseClosure (set : CharacterSet) : CharacterSet :=
  let touched := Text.allCaseFamilies.filter
    (fun family => family.any (fun codePoint => inside codePoint set.changes))
  let members := touched.flatten.mergeSort (fun one two => one ≤ two)
  set.union (ofRanges (members.map (fun codePoint => (codePoint, codePoint))))

/-- The set with the ASCII letters that equal a member up to case. -/
def asciiCaseClosure (set : CharacterSet) : CharacterSet :=
  let lower := set.intersection (range 'a'.toNat 'z'.toNat)
  let upper := set.intersection (range 'A'.toNat 'Z'.toNat)
  (set.union ⟨lower.changes.map (fun change => change - 32)⟩).union
    ⟨upper.changes.map (fun change => change + 32)⟩

/-- Decimal digits of any script. -/
def digits : CharacterSet := ofRanges Text.digitRanges

/-- Characters of words. -/
def wordCharacters : CharacterSet :=
  ((ofRanges Text.alphabeticRanges).union digits).union (ofRanges Text.wordMarkRanges)

/-- White space. -/
def whiteSpace : CharacterSet :=
  ofRanges [(0x09, 0x0D), (0x20, 0x20), (0x85, 0x85), (0xA0, 0xA0), (0x1680, 0x1680),
    (0x2000, 0x200A), (0x2028, 0x2029), (0x202F, 0x202F), (0x205F, 0x205F), (0x3000, 0x3000)]

/-- The ASCII digits. -/
def asciiDigits : CharacterSet := range '0'.toNat '9'.toNat

/-- The ASCII letters, digits and the underscore. -/
def asciiWordCharacters : CharacterSet :=
  ofRanges [('0'.toNat, '9'.toNat), ('A'.toNat, 'Z'.toNat), ('_'.toNat, '_'.toNat),
    ('a'.toNat, 'z'.toNat)]

/-- The ASCII white space. -/
def asciiWhiteSpace : CharacterSet := ofRanges [(0x09, 0x0D), (0x20, 0x20)]

/-- The named classes of ASCII characters. -/
def asciiClass? (name : String) : Option CharacterSet :=
  match name with
  | "alnum" => some (ofRanges [(0x30, 0x39), (0x41, 0x5A), (0x61, 0x7A)])
  | "alpha" => some (ofRanges [(0x41, 0x5A), (0x61, 0x7A)])
  | "ascii" => some (range 0x00 0x7F)
  | "blank" => some (ofRanges [(0x09, 0x09), (0x20, 0x20)])
  | "cntrl" => some (ofRanges [(0x00, 0x1F), (0x7F, 0x7F)])
  | "digit" => some asciiDigits
  | "graph" => some (range 0x21 0x7E)
  | "lower" => some (range 0x61 0x7A)
  | "print" => some (range 0x20 0x7E)
  | "punct" => some (ofRanges [(0x21, 0x2F), (0x3A, 0x40), (0x5B, 0x60), (0x7B, 0x7E)])
  | "space" => some asciiWhiteSpace
  | "upper" => some (range 0x41 0x5A)
  | "word" => some asciiWordCharacters
  | "xdigit" => some (ofRanges [(0x30, 0x39), (0x41, 0x46), (0x61, 0x66)])
  | _ => Option.none

end CharacterSet

end Questionnaire
