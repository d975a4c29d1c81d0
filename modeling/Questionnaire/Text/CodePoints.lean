/-
# Ranges of code points as text

Large tables of code points are kept as text: ranges with a blank between them,
each the first and the last code point in hexadecimal with a dash between, or
one code point alone.
-/

import Questionnaire.Text.Ascii
import Questionnaire.Text.WhiteSpace

namespace Questionnaire.Text

/-- The number that hexadecimal digits denote. -/
def hexValue (digits : List Char) : Nat :=
  digits.foldl (fun value c => 16 * value + (hexDigitValue? c).getD 0) 0

/-- One range. -/
def codePointRange (text : List Char) : Nat × Nat :=
  let first := text.takeWhile (· != '-')
  match text.dropWhile (· != '-') with
  | _ :: last => (hexValue first, hexValue last)
  | [] => (hexValue first, hexValue first)

/-- The ranges of a table. -/
def codePointRanges (text : String) : List (Nat × Nat) :=
  (words text.toList).map codePointRange

end Questionnaire.Text
