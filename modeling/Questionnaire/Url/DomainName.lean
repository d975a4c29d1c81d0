/-
# Domain names

A domain name is a text of labels with dots between them. Its characters are
mapped first, and labels that are written in ASCII for other characters are
read. A label must not start with a mark, its joiners must stand where they
change something, and a name with letters written from right to left must keep
both directions apart in every label.
-/

import Questionnaire.Text.Normalization
import Questionnaire.Url.NameClasses
import Questionnaire.Url.NameMapping
import Questionnaire.Url.Punycode

namespace Questionnaire.DomainName

/-- The ASCII characters that cannot stand in a domain name of an address. -/
def isForbidden (c : Char) : Bool :=
  c.toNat ≤ 0x20 || c.toNat == 0x7F ||
    ['%', '#', '/', ':', '<', '>', '?', '@', '[', '\\', ']', '^', '|'].contains c

/-- The mapped characters of a name in normal form. -/
def mapped (text : List Char) : Option (List Char) := do
  let pieces ← text.mapM mapCharacter
  let characters := pieces.flatten
  if characters.all (fun c => c.toNat < 0x80) then some characters
  else some (Text.normalForm characters)

/-- Whether a letter before a non-joiner joins to it: the nearest character that
joining does not look through does. -/
def joinsForward : List Char → Bool
  | [] => false
  | c :: before =>
    if transparentJoining.contains c then joinsForward before
    else leftJoining.contains c || dualJoining.contains c

/-- Whether a letter after a non-joiner joins to it. -/
def joinsBackward : List Char → Bool
  | [] => false
  | c :: after =>
    if transparentJoining.contains c then joinsBackward after
    else rightJoining.contains c || dualJoining.contains c

/-- Whether all joiners of a label change something. The characters before are
given in reverse. -/
def joinersFit (before : List Char) : List Char → Bool
  | [] => true
  | c :: after =>
    let follows := before.head?.any (fun previous => Text.combiningClass previous.toNat == 9)
    let fits :=
      if c.toNat = 0x200C then follows || (joinsForward before && joinsBackward after)
      else if c.toNat = 0x200D then follows
      else true
    fits && joinersFit (c :: before) after

/-- The direction in which a character is written. -/
inductive Direction where
  /-- From left to right. -/
  | left
  /-- From right to left. -/
  | right
  /-- A European number. -/
  | european
  /-- An Arabic number. -/
  | arabic
  /-- No direction of its own. -/
  | neutral
  /-- A mark on the character before. -/
  | mark
  deriving Repr, DecidableEq

/-- The direction of a character. -/
def directionOf (c : Char) : Direction :=
  if europeanNumbers.contains c then .european
  else if neutrals.contains c then .neutral
  else if c.toNat < 0x80 then .left
  else if nonspacingMarks.contains c then .mark
  else if rightToLeft.contains c then .right
  else if arabicNumbers.contains c then .arabic
  else .left

/-- Whether a label keeps its directions apart. An empty label does. -/
def directionsFit (label : List Char) : Bool :=
  let directions := label.map directionOf
  let ending := (directions.reverse.dropWhile (fun direction => direction = .mark)).head?
  match directions with
  | [] => true
  | .left :: _ =>
    directions.all (fun direction => direction ≠ .right ∧ direction ≠ .arabic) &&
      (ending == some .left || ending == some .european)
  | .right :: _ =>
    directions.all (fun direction => direction ≠ .left) &&
      (ending == some .right || ending == some .european || ending == some .arabic) &&
      !(directions.contains .european && directions.contains .arabic)
  | _ => false

/-- Whether a name has characters written from right to left. -/
def hasRightToLeft (labels : List (List Char)) : Bool :=
  labels.any (fun label => label.any (fun c =>
    directionOf c == .right || directionOf c == .arabic))

/-- The greatest number of characters of a label that is written in ASCII. -/
def encodedLimit : Nat := 2000

/-- The greatest number of characters of a label that has to be written in ASCII. -/
def decodedLimit : Nat := 1000

/-- The marker of labels that are written in ASCII. -/
def marker : List Char := ['x', 'n', '-', '-']

/-- Whether the characters of a label may stand there. -/
def isWellFormed (label : List Char) : Bool :=
  !(label.head?.any marks.contains) && joinersFit [] label

/-- Read a label. One that is written in ASCII must hold other characters, and
they must be such as the mapping leaves. -/
def readLabel (label : List Char) : Option (List Char) :=
  if marker.isPrefixOf label then
    let encoded := label.drop marker.length
    if encoded.getLast? = some '-' || encoded.isEmpty || encoded.length > encodedLimit then none
    else do
      let decoded ← Punycode.decode encoded
      if mapped decoded = some decoded && !decoded.contains '.' && isWellFormed decoded then
        some decoded
      else none
  else if label.all (fun c => c.toNat < 0x80) then some label
  else if label.length ≤ decodedLimit && isWellFormed label then some label
  else none

/-- The labels of a domain name, if the text is one. -/
def labels? (text : List Char) : Option (List (List Char)) := do
  let characters ← mapped text
  if characters.any isForbidden then none
  else
    let labels ← (Text.splitAtEvery (· == '.') characters).mapM readLabel
    if hasRightToLeft labels && !labels.all directionsFit then none
    else some labels

end Questionnaire.DomainName
