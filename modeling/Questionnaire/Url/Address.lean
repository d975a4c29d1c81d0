/-
# Numeric addresses

Hosts may be given by number. An address of the fourth version has up to four
numbers with dots between them, each decimal, octal after a `0` or hexadecimal
after `0x`; the last one stands for all bytes that are left. An address of the
sixth version has eight groups of hexadecimal digits with colons between them,
where two colons can stand once for groups of zeros and the last two groups can
be written as four decimal bytes.
-/

import Questionnaire.Text.Ascii
import Questionnaire.Text.WhiteSpace

namespace Questionnaire.Address

/-- The digits of a number and the base in which they are read. -/
def digitsAndBase (text : List Char) : List Char × Nat :=
  match text with
  | '0' :: 'x' :: digits => (digits, 16)
  | '0' :: 'X' :: digits => (digits, 16)
  | '0' :: d :: digits => (d :: digits, 8)
  | digits => (digits, 10)

/-- The number that a part of an address denotes. A text without digits after
`0x` is 0, and no text is no number. -/
def number? (text : List Char) : Option Nat :=
  let (digits, base) := digitsAndBase text
  if text.isEmpty then none
  else digits.foldlM (fun value c =>
    match Text.hexDigitValue? c with
    | some digit => if digit < base then some (value * base + digit) else none
    | none => none) 0

/-- Whether the numbers are an address: all but the last are bytes, and the last
one fits into the bytes that are left. -/
def areBytes : Nat → List Nat → Bool
  | _, [] => false
  | bytesLeft, [last] => last < 256 ^ bytesLeft
  | 0, _ => false
  | bytesLeft + 1, first :: rest => first < 256 && areBytes bytesLeft rest

/-- The parts of a name without an empty last part. -/
def partsOf (labels : List (List Char)) : List (List Char) :=
  if labels.length > 1 && labels.getLast? == some [] then labels.dropLast else labels

/-- Whether the last part of a name is a number, in which case the whole name
must be an address. -/
def endsInNumber (labels : List (List Char)) : Bool :=
  match (partsOf labels).getLast? with
  | none => false
  | some last => !last.isEmpty && (last.all Text.isAsciiDigit || (number? last).isSome)

/-- Whether the parts of a name are an address of the fourth version. -/
def isVersionFour (labels : List (List Char)) : Bool :=
  let parts := partsOf labels
  parts.length ≤ 4 && ((parts.mapM number?).any (areBytes 4))

/-- A decimal byte without a leading zero. -/
def isPlainByte (text : List Char) : Bool :=
  !text.isEmpty && text.all Text.isAsciiDigit && (text.length = 1 || text.head? != some '0') &&
    Text.decimalValue text < 256

/-- Four decimal bytes with dots between them. -/
def isDottedBytes (text : List Char) : Bool :=
  let parts := Text.splitAtEvery (· == '.') text
  parts.length = 4 && parts.all isPlainByte

/-- Whether the rest of an address of the sixth version completes it, after so
many groups and possibly after two colons that stand for more of them. -/
def completes (groups : Nat) (shortened : Bool) (text : List Char) : Bool :=
  match text with
  | [] => shortened || groups = 8
  | ':' :: rest =>
    groups < 8 && !shortened && completes (groups + 1) true rest
  | c :: rest =>
    let digits := ((c :: rest).take 4).takeWhile (fun c => (Text.hexDigitValue? c).isSome)
    match rest.drop (digits.length - 1) with
    | [] => groups < 8 && !digits.isEmpty && completes (groups + 1) shortened []
    | '.' :: _ =>
      groups ≤ 6 && !digits.isEmpty && isDottedBytes (c :: rest) && (shortened || groups = 6)
    | ':' :: after =>
      if after.length < rest.length then
        groups < 8 && !digits.isEmpty && !after.isEmpty && completes (groups + 1) shortened after
      else false
    | _ => false
  termination_by text.length

/-- Whether a text is an address of the sixth version. -/
def isVersionSix (text : List Char) : Bool :=
  match text with
  | ':' :: ':' :: rest => completes 1 true rest
  | ':' :: _ => false
  | [_] => false
  | text => completes 0 false text

end Questionnaire.Address
