/-
# Numbers written in decimal

The texts that a number field takes: after any leading white space an optional
sign, digits with an optional point among or around them, and an optional power
of ten. The number must round to a finite double. White space after the number
is not allowed, and no words stand for numbers.
-/

import Questionnaire.Number.Double
import Questionnaire.Text.Ascii
import Questionnaire.Text.WhiteSpace

namespace Questionnaire

/-- The magnitude of a decimal number as it is written. -/
structure DecimalText where
  /-- The digits before the point. -/
  whole : List Char
  /-- The digits after the point. -/
  fraction : List Char
  /-- The sign and the digits of the power of ten, if there is one. -/
  power : Option (Bool × List Char)
  deriving Repr, DecidableEq

/-- Drop one leading sign and say whether it was a minus. -/
def dropSign : List Char → Bool × List Char
  | '-' :: rest => (true, rest)
  | '+' :: rest => (false, rest)
  | rest => (false, rest)

/-- Read the power of ten at the end of a number: nothing at all, or `e` or `E`,
an optional sign and at least one digit. -/
def readPower? : List Char → Option (Option (Bool × List Char))
  | [] => some none
  | c :: rest =>
    if c == 'e' || c == 'E' then
      let (negative, digits) := dropSign rest
      if !digits.isEmpty && digits.all Text.isAsciiDigit then some (some (negative, digits))
      else none
    else none

/-- The digits behind a point and what follows them. Without a point there are none. -/
def cutFraction : List Char → List Char × List Char
  | '.' :: rest => (rest.takeWhile Text.isAsciiDigit, rest.dropWhile Text.isAsciiDigit)
  | rest => ([], rest)

/-- Read a number without sign. There must be a digit before the power of ten. -/
def DecimalText.ofUnsigned? (cs : List Char) : Option DecimalText :=
  let whole := cs.takeWhile Text.isAsciiDigit
  let (fraction, rest) := cutFraction (cs.dropWhile Text.isAsciiDigit)
  if whole.isEmpty && fraction.isEmpty then none
  else (readPower? rest).map (fun power => ⟨whole, fraction, power⟩)

/-- Read a number with an optional sign, which its magnitude does not keep. -/
def DecimalText.ofChars? (cs : List Char) : Option DecimalText :=
  ofUnsigned? (dropSign cs).2

/-- The value of the digits of a power of ten. Digits after the value has
reached `65536` are not looked at. -/
def cappedValue (digits : List Char) : Nat :=
  digits.foldl
    (fun value c => if value < 65536 then 10 * value + (c.toNat - '0'.toNat) else value) 0

/-- The power of ten by which the digits of a number are multiplied. -/
def DecimalText.scale (text : DecimalText) : Int :=
  let written : Int :=
    match text.power with
    | none => 0
    | some (negative, digits) =>
      if negative then -(cappedValue digits : Int) else cappedValue digits
  written - text.fraction.length

/-- The digits of a number read as one whole number. -/
def DecimalText.digits (text : DecimalText) : Nat :=
  Text.decimalValue (text.whole ++ text.fraction)

/-- Whether a text is a decimal number that rounds to a finite double. -/
def isNumeric (value : String) : Bool :=
  match DecimalText.ofChars? (Text.trimLeading value.toList) with
  | none => false
  | some text => (Double.ofDecimal? text.digits text.scale).isSome

end Questionnaire
