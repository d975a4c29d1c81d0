/-
# Punycode

Labels of domain names that hold other characters than ASCII are written in
ASCII: first their ASCII characters, then a hyphen, and then for every other
character how far it is from the one before, counting through all code points
and all positions. Distances are numbers with digits of changing weight. Reading
goes through the digits once.
-/

import Questionnaire.Text.Ascii

namespace Questionnaire.Punycode

/-- The value of a digit. -/
def digitValue? (c : Char) : Option Nat :=
  if 'a' ≤ c && c ≤ 'z' then some (c.toNat - 'a'.toNat)
  else if 'A' ≤ c && c ≤ 'Z' then some (c.toNat - 'A'.toNat)
  else if Text.isAsciiDigit c then some (c.toNat - '0'.toNat + 26)
  else none

/-- The least value of a digit at a position that does not end a number. -/
def threshold (position bias : Nat) : Nat :=
  if position ≤ bias then 1 else if bias + 26 ≤ position then 26 else position - bias

/-- Divide a distance down for the next bias. -/
def scaleDown (distance steps : Nat) : Nat :=
  if 455 < distance then scaleDown (distance / 35) (steps + 36)
  else steps + 36 * distance / (distance + 38)
  termination_by distance
  decreasing_by exact Nat.div_lt_self (by omega) (by omega)

/-- The bias after a distance. -/
def adapt (distance count : Nat) (isFirst : Bool) : Nat :=
  let halved := if isFirst then distance / 700 else distance / 2
  scaleDown (halved + halved / count) 0

/-- The values that numbers may reach. -/
def valueLimit : Nat := Nat.pow 2 32

/-- What has been read: the characters so far, the code point and the position
of the last one that was put in, and the bias. -/
structure Progress where
  /-- The characters so far. -/
  characters : List Char
  /-- The last code point that was put in. -/
  codePoint : Nat
  /-- The position at which the next character would go. -/
  position : Nat
  /-- The bias of the digits. -/
  bias : Nat
  /-- Whether no character was put in yet. -/
  isFirst : Bool
  deriving Repr

/-- Put in the character that lies a distance further on. -/
def Progress.insert (progress : Progress) (distance : Nat) : Option Progress :=
  let count := progress.characters.length + 1
  let total := progress.position + distance
  let codePoint := progress.codePoint + total / count
  let position := total % count
  if codePoint.isValidChar then
    some {
      characters := progress.characters.insertIdx position (Char.ofNat codePoint),
      codePoint, position := position + 1,
      bias := adapt distance count progress.isFirst, isFirst := false }
  else none

/-- Read distances. The distance that is being read is given with its value so
far, the weight of the next digit and the number of that digit times 36. -/
def readDistances (progress : Progress) (value weight digit : Nat) :
    List Char → Option (List Char)
  | [] => if digit = 36 then some progress.characters else none
  | c :: rest =>
    match digitValue? c with
    | none => none
    | some number =>
      let total := value + number * weight
      let bound := threshold digit progress.bias
      if total ≥ valueLimit then none
      else if number < bound then
        match progress.insert total with
        | none => none
        | some next => readDistances next 0 1 36 rest
      else readDistances progress total (weight * (36 - bound)) (digit + 36) rest

/-- The label that is written in ASCII, if it is one. The last hyphen ends the
ASCII characters, of which there must be one then. -/
def decode (label : List Char) : Option (List Char) :=
  let reversed := label.reverse
  let tail := (reversed.takeWhile (· != '-')).reverse
  let head := ((reversed.dropWhile (· != '-')).drop 1).reverse
  if head.all (fun c => c.toNat < 0x80) then
    readDistances ⟨head, 128, 0, 72, true⟩ 0 1 36 (if head.isEmpty then label else tail)
  else none

end Questionnaire.Punycode
