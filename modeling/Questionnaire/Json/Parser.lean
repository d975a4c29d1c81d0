/-
# Reading JSON

A complete text is one JSON value with white space around it. Strings hold no
raw control characters and every escaped surrogate is half of a pair. A number
that is no whole number of 64 bits is read as a double: its digits, as far as
they fit 64 bits, are rounded first and then multiplied or divided by the power
of ten, and a number out of range is refused.
-/

import Questionnaire.Json.Basic
import Questionnaire.Text.Ascii

namespace Questionnaire.Json

/-- The white space between the tokens of a JSON text. -/
def isJsonSpace (c : Char) : Bool :=
  c == ' ' || c == '\n' || c == '\r' || c == '\t'

/-- The text after any white space. -/
def skipSpace (cs : List Char) : List Char :=
  cs.dropWhile isJsonSpace

/-- The text after the given word, if it starts with that word. -/
def dropWord? (word : String) (cs : List Char) : Option (List Char) :=
  if word.toList.isPrefixOf cs then some (cs.drop word.length) else none

/-- The number of four hexadecimal digits and the text after them. -/
def readFourHexDigits? : List Char → Option (Nat × List Char)
  | a :: b :: c :: d :: rest => do
    let first ← Text.hexDigitValue? a
    let second ← Text.hexDigitValue? b
    let third ← Text.hexDigitValue? c
    let fourth ← Text.hexDigitValue? d
    some (((first * 16 + second) * 16 + third) * 16 + fourth, rest)
  | _ => none

/-- The character of an escape sequence and the text after it. The backslash has
been read. A high surrogate must be followed by an escaped low one. -/
def readEscape? : List Char → Option (Char × List Char)
  | '"' :: rest => some ('"', rest)
  | '\\' :: rest => some ('\\', rest)
  | '/' :: rest => some ('/', rest)
  | 'b' :: rest => some ('\x08', rest)
  | 'f' :: rest => some ('\x0c', rest)
  | 'n' :: rest => some ('\n', rest)
  | 'r' :: rest => some ('\r', rest)
  | 't' :: rest => some ('\t', rest)
  | 'u' :: rest => do
    let (unit, afterUnit) ← readFourHexDigits? rest
    if 0xDC00 ≤ unit ∧ unit ≤ 0xDFFF then none
    else if 0xD800 ≤ unit ∧ unit ≤ 0xDBFF then
      match afterUnit with
      | '\\' :: 'u' :: more =>
        let (low, afterLow) ← readFourHexDigits? more
        if 0xDC00 ≤ low ∧ low ≤ 0xDFFF then
          some (Char.ofNat (0x10000 + (unit - 0xD800) * 0x400 + (low - 0xDC00)), afterLow)
        else none
      | _ => none
    else some (Char.ofNat unit, afterUnit)
  | _ => none

/-- Read a string whose opening quotation mark has been read. The characters
read so far are given in reverse. The fuel bounds the number of characters. -/
def readString? (reversed : List Char) : Nat → List Char → Option (String × List Char)
  | 0, _ => none
  | _ + 1, [] => none
  | fuel + 1, c :: rest =>
    if c == '"' then some (String.ofList reversed.reverse, rest)
    else if c == '\\' then
      match readEscape? rest with
      | none => none
      | some (escaped, afterEscape) => readString? (escaped :: reversed) fuel afterEscape
    else if c.toNat < 0x20 then none
    else readString? (c :: reversed) fuel rest

/-- The digits that are kept of a number that is read as a double, the power of
ten they are multiplied by, and whether digits have been dropped. Digits are
kept as long as they fit 64 bits. -/
structure Significand where
  /-- The digits kept, read as one number. -/
  value : Nat
  /-- The power of ten that the dropped and the fraction digits leave. -/
  scale : Int
  /-- Whether a digit has been dropped, after which all others are. -/
  full : Bool
  deriving Repr, DecidableEq

/-- Append a digit before the point. -/
def Significand.addWhole (significand : Significand) (digit : Char) : Significand :=
  let grown := significand.value * 10 + (digit.toNat - '0'.toNat)
  if significand.full || Nat.pow 2 64 ≤ grown then
    { significand with scale := significand.scale + 1, full := true }
  else { significand with value := grown }

/-- Append a digit after the point. The point starts a new count: a digit there
is tried even when one before the point has been dropped. -/
def Significand.addFraction (significand : Significand) (digit : Char) : Significand :=
  let grown := significand.value * 10 + (digit.toNat - '0'.toNat)
  if significand.full || Nat.pow 2 64 ≤ grown then { significand with full := true }
  else { significand with value := grown, scale := significand.scale - 1 }

/-- The double of a significand. Powers of ten beyond the format are divided
away in steps of `10 ^ 308`, at most the given number of times. -/
def toDouble? (value : Double) (scale : Int) : Nat → Option Double
  | 0 => some Double.zero
  | steps + 1 =>
    if 0 ≤ scale then
      if value.mantissa = 0 then some value
      else if 308 < scale then none
      else (Double.ofDecimal? 1 scale).bind value.mul?
    else if -308 ≤ scale then (Double.ofDecimal? 1 (-scale)).bind value.div?
    else if value.mantissa = 0 then some value
    else
      match (Double.ofDecimal? 1 308).bind value.div? with
      | none => none
      | some smaller => toDouble? smaller (scale + 308) steps

/-- Read the power of ten after `e` or `E`. -/
def readExponent? (cs : List Char) : Option (Int × List Char) :=
  let (negative, rest) :=
    match cs with
    | '+' :: rest => (false, rest)
    | '-' :: rest => (true, rest)
    | _ => (false, cs)
  let digits := rest.takeWhile Text.isAsciiDigit
  if digits.isEmpty then none
  else
    let magnitude : Int := Text.decimalValue digits
    some (if negative then -magnitude else magnitude, rest.dropWhile Text.isAsciiDigit)

/-- The number that a significand stands for. A whole number of 64 bits stays one, and
everything else becomes a double. -/
def Significand.number? (significand : Significand) (negative isWhole : Bool) :
    Option JsonNumber :=
  if isWhole && !significand.full && !negative then some (.natural significand.value)
  else if isWhole && !significand.full && 0 < significand.value &&
      significand.value ≤ Nat.pow 2 63 then
    some (.negative significand.value)
  else do
    let value ← Double.ofDecimal? significand.value 0
    let magnitude ← toDouble? value significand.scale 8
    some (.floating negative magnitude)

/-- The number of a significand and the power of ten behind it, if there is one. A number
with a power of ten is not read as a whole number. -/
def Significand.readScaled? (significand : Significand) (negative isWhole : Bool)
    (rest : List Char) : Option (JsonNumber × List Char) :=
  match rest with
  | 'e' :: power | 'E' :: power => do
    let (exponent, afterPower) ← readExponent? power
    let scaled : Significand := { significand with scale := significand.scale + exponent }
    let number ← scaled.number? negative false
    some (number, afterPower)
  | _ => (significand.number? negative isWhole).map (fun number => (number, rest))

/-- Read a number. -/
def readNumber? (cs : List Char) : Option (JsonNumber × List Char) :=
  let (negative, unsigned) :=
    match cs with
    | '-' :: rest => (true, rest)
    | _ => (false, cs)
  let whole := unsigned.takeWhile Text.isAsciiDigit
  let afterWhole := unsigned.dropWhile Text.isAsciiDigit
  let badStart :=
    match whole with
    | [] => true
    | '0' :: _ :: _ => true
    | _ => false
  if badStart then none
  else
    let significand := whole.foldl Significand.addWhole ⟨0, 0, false⟩
    match afterWhole with
    | '.' :: afterPoint =>
      let fraction := afterPoint.takeWhile Text.isAsciiDigit
      if fraction.isEmpty then none
      else
        let opened : Significand := { significand with full := false }
        (fraction.foldl Significand.addFraction opened).readScaled? negative false
          (afterPoint.dropWhile Text.isAsciiDigit)
    | _ => significand.readScaled? negative true afterWhole

mutual

/-- Read a value that starts at the first character. The fuel bounds the number
of nested and consecutive readings and of characters in a string; a text never
needs more than twice its length. -/
def readValue? : Nat → List Char → Option (Json × List Char)
  | 0, _ => none
  | _ + 1, [] => none
  | fuel + 1, c :: rest =>
    if c == '"' then
      (readString? [] fuel rest).map (fun (text, after) => (.string text, after))
    else if c == '[' then
      match skipSpace rest with
      | ']' :: after => some (.array [], after)
      | start => (readItems? fuel start).map (fun (items, after) => (.array items, after))
    else if c == '\x7b' then
      match skipSpace rest with
      | '\x7d' :: after => some (.object [], after)
      | start => (readMembers? fuel start).map (fun (members, after) => (.object members, after))
    else if c == 't' then (dropWord? "rue" rest).map (fun after => (.boolean true, after))
    else if c == 'f' then (dropWord? "alse" rest).map (fun after => (.boolean false, after))
    else if c == 'n' then (dropWord? "ull" rest).map (fun after => (.null, after))
    else (readNumber? (c :: rest)).map (fun (value, after) => (.number value, after))

/-- Read the items of an array up to its closing bracket. -/
def readItems? : Nat → List Char → Option (List Json × List Char)
  | 0, _ => none
  | fuel + 1, cs =>
    match readValue? fuel (skipSpace cs) with
    | none => none
    | some (item, afterItem) =>
      match skipSpace afterItem with
      | ',' :: rest => (readItems? fuel rest).map (fun (items, after) => (item :: items, after))
      | ']' :: rest => some ([item], rest)
      | _ => none

/-- Read the members of an object up to its closing brace. -/
def readMembers? : Nat → List Char → Option (List (String × Json) × List Char)
  | 0, _ => none
  | fuel + 1, cs =>
    match skipSpace cs with
    | '"' :: start =>
      match readString? [] fuel start with
      | none => none
      | some (name, afterName) =>
        match skipSpace afterName with
        | ':' :: afterColon =>
          match readValue? fuel (skipSpace afterColon) with
          | none => none
          | some (value, afterValue) =>
            match skipSpace afterValue with
            | ',' :: rest =>
              (readMembers? fuel rest).map
                (fun (members, after) => ((name, value) :: members, after))
            | '\x7d' :: rest => some ([(name, value)], rest)
            | _ => none
        | _ => none
    | _ => none

end

/-- Read a complete JSON text. -/
def parse? (source : String) : Option Json :=
  let cs := skipSpace source.toList
  match readValue? (2 * cs.length + 2) cs with
  | none => none
  | some (value, rest) => if (skipSpace rest).isEmpty then some value else none

end Questionnaire.Json
