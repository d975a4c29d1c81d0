/-
# The size of a pattern

A pattern is only used when the machine that looks for it, byte by byte in
UTF-8, fits into ten mebibytes, forwards as well as backwards. The size is
counted in bytes from the shape of the pattern: a state takes 32 of them, counted
repetitions take their body so often, and a class outside ASCII takes a tree of
byte ranges. Only the machine that reads forwards remembers groups, and it
shares the ends of byte sequences, which saves about three fifths of a class.
-/

import Questionnaire.Pattern.Basic

namespace Questionnaire

namespace CharacterSet

/-- The bytes of a code point in UTF-8. -/
def utf8Bytes (codePoint : Nat) : List Nat :=
  if codePoint < 0x80 then [codePoint]
  else if codePoint < 0x800 then [0xC0 + codePoint / 64, 0x80 + codePoint % 64]
  else if codePoint < 0x10000 then
    [0xE0 + codePoint / 4096, 0x80 + codePoint / 64 % 64, 0x80 + codePoint % 64]
  else
    [0xF0 + codePoint / 262144, 0x80 + codePoint / 4096 % 64, 0x80 + codePoint / 64 % 64,
      0x80 + codePoint % 64]

/-- A place at which a range of code points has to be cut, if there is one, so
that the bytes of the parts are ranges at every position: where the number of
bytes changes, and where a block of later bytes is not covered as a whole. The
result is the last code point of the first part. -/
def cut? (first last : Nat) : Option Nat :=
  let atLength := [0x7F, 0x7FF, 0xFFFF].find? (fun bound => first ≤ bound && bound < last)
  let atBlock := [64, 4096, 262144].findSome? fun block =>
    if first / block = last / block then Option.none
    else if first % block ≠ 0 then some (first / block * block + (block - 1))
    else if last % block ≠ block - 1 then some (last / block * block - 1)
    else Option.none
  atLength <|> (if last < 0x80 then Option.none else atBlock)

/-- The sequences of byte ranges of a range of code points. No range is cut more
than so many times in a row. -/
def byteSequences : Nat → Nat → Nat → List (List (Nat × Nat))
  | 0, _, _ => []
  | cuts + 1, first, last =>
    match cut? first last with
    | some bound => byteSequences cuts first bound ++ byteSequences cuts (bound + 1) last
    | Option.none => [(utf8Bytes first).zip (utf8Bytes last)]

/-- The length of the longest common start of two sequences. -/
def commonLength : List (Nat × Nat) → List (Nat × Nat) → Nat
  | one :: first, two :: second => if one = two then commonLength first second + 1 else 0
  | _, _ => 0

/-- The number of nodes in the tree of some ascending sequences. -/
def treeNodes (previous : List (Nat × Nat)) : List (List (Nat × Nat)) → Nat
  | [] => 0
  | sequence :: rest =>
    sequence.length - commonLength previous sequence + treeNodes sequence rest

/-- The size of the states for one character of the set. -/
def size (set : CharacterSet) (forwards : Bool) : Nat :=
  let characters := set.difference (range 0xD800 0xDFFF)
  match characters.ranges with
  | [] => 32
  | [(first, last)] =>
    if first = last then 32 * (utf8Bytes first).length
    else if last < 0x80 then 64
    else treeSize characters
  | ranges =>
    if characters.isAscii then 64 + 8 * ranges.length else treeSize characters
where
  /-- The size of a tree of byte ranges. -/
  treeSize (characters : CharacterSet) : Nat :=
    let sequences := characters.ranges.flatMap
      (fun bounds => byteSequences 32 bounds.1 bounds.2)
    let bytes := 32 * (2 + treeNodes [] sequences) + 4 * sequences.length
    if forwards then 2 * bytes / 5 else bytes

end CharacterSet

namespace TextPattern

/-- Whether a pattern has no piece but the empty one. -/
def isOnlyEmpty : TextPattern → Bool
  | .empty => true
  | .one _ => false
  | .place _ => true
  | .sequence first second => isOnlyEmpty first && isOnlyEmpty second
  | .choice first second => isOnlyEmpty first && isOnlyEmpty second
  | .repeated body _ most => most == some 0 || isOnlyEmpty body
  | .group body => isOnlyEmpty body

/-- Whether the empty piece may be one of the pattern's pieces. -/
def mayBeEmpty : TextPattern → Bool
  | .empty => true
  | .one _ => false
  | .place _ => true
  | .sequence first second => mayBeEmpty first && mayBeEmpty second
  | .choice first second => mayBeEmpty first || mayBeEmpty second
  | .repeated body least _ => least == 0 || mayBeEmpty body
  | .group body => mayBeEmpty body

/-- The size of a repetition whose body has a given size. -/
def repetitionSize (bodySize : Nat) (bodyMayBeEmpty : Bool) (least : Nat) : Option Nat → Nat
  | none =>
    if least = 0 then bodySize + (if bodyMayBeEmpty then 112 else 40)
    else least * bodySize + 40
  | some most =>
    if most = 0 then 32
    else if least = most then least * bodySize
    else (if least = 0 then 32 else least * bodySize) + 32 + (most - least) * (bodySize + 40)

/-- The size of the states of a pattern. -/
def size (forwards : Bool) : TextPattern → Nat
  | .empty => 32
  | .one set => set.size forwards
  | .place _ => 32
  | .sequence first second => size forwards first + size forwards second
  | .choice first second =>
    let rest := size forwards second
    match second with
    | .choice _ _ => size forwards first + rest + 4
    | _ => size forwards first + rest + 72
  | .repeated body least most =>
    let bodySize := size forwards body
    if isOnlyEmpty body then
      repetitionSize bodySize true (min least 1) (some ((most.map (min 1)).getD 1))
    else repetitionSize bodySize (mayBeEmpty body) least most
  | .group body => size forwards body + (if forwards then 64 else 0)

/-- The greatest size of a pattern. -/
def sizeLimit : Nat := 10 * Nat.pow 2 20

/-- Whether a pattern is small enough in both directions. -/
def fits (pattern : TextPattern) : Bool :=
  size true pattern + 200 ≤ sizeLimit && size false pattern + 200 ≤ sizeLimit

end TextPattern

end Questionnaire
