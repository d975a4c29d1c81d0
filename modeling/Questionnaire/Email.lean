/-
# E-mail addresses

An e-mail address is a run of plain characters, an at sign, and two or more
labels with dots between them. A label has up to 63 letters, digits and hyphens
and a letter or digit at both ends. Everything is ASCII.
-/

import Questionnaire.Pattern.Match

namespace Questionnaire.Email

/-- The set of the given characters. -/
def setOf (characters : String) : CharacterSet :=
  CharacterSet.unionAll (characters.toList.map (fun c => .single c.toNat))

/-- ASCII letters and digits. -/
def alphanumerics : CharacterSet :=
  (CharacterSet.asciiDigits.union (.range 'a'.toNat 'z'.toNat)).union (.range 'A'.toNat 'Z'.toNat)

/-- The characters before the at sign. -/
def localCharacters : CharacterSet :=
  alphanumerics.union (setOf ".!#$%&'*+/=?^_`\x7b|\x7d~-")

/-- The characters inside labels. -/
def labelCharacters : CharacterSet :=
  alphanumerics.union (setOf "-")

/-- A label. -/
def label : TextPattern :=
  .sequence (.one alphanumerics)
    (.optional (.sequence (.repeated (.one labelCharacters) 0 (some 61)) (.one alphanumerics)))

/-- An address that fills the whole text. -/
def address : TextPattern :=
  .sequenceOf [
    .place .textStart,
    .oneOrMore (.one localCharacters),
    .one (setOf "@"),
    label,
    .oneOrMore (.sequence (.one (setOf ".")) label),
    .place .textEnd]

/-- Whether a text is an e-mail address. -/
def isAddress (text : String) : Bool :=
  address.occursIn text

end Questionnaire.Email
