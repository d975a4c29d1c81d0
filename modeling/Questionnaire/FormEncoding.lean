/-
# The urlencoded format of submissions

A submission body is a list of pairs, each written as a name, `=` and a value,
with `&` between two pairs. Names and values are written byte by byte in UTF-8:
ASCII letters, digits and `*`, `-`, `.`, `_` stand for themselves, a space is a
plus sign, and every other byte is a percent sign and two hexadecimal digits.
-/

import Questionnaire.Answer
import Questionnaire.Text.Ascii

namespace Questionnaire.FormEncoding

/-- The characters that stand for themselves. -/
def isPlain (c : Char) : Bool :=
  Text.isAsciiAlphanumeric c || c == '*' || c == '-' || c == '.' || c == '_'

/-- One byte of a name or a value. -/
def encodeByte (byte : UInt8) : List Char :=
  let c := Char.ofNat byte.toNat
  if byte.toNat < 0x80 && isPlain c then [c]
  else if byte = 0x20 then ['+']
  else ['%', Text.upperHexDigit (byte.toNat / 16), Text.upperHexDigit (byte.toNat % 16)]

/-- A name or a value. -/
def encodeText (text : String) : List Char :=
  text.toList.flatMap (fun c => (String.utf8EncodeChar c).flatMap encodeByte)

/-- One pair. -/
def encodePair (pair : String × String) : List Char :=
  encodeText pair.1 ++ '=' :: encodeText pair.2

/-- A list of pairs. -/
def encodePairs (pairs : List (String × String)) : String :=
  String.ofList (List.intercalate ['&'] (pairs.map encodePair))

end Questionnaire.FormEncoding

namespace Questionnaire

/-- The body that submits the parameters. -/
def Parameters.body (parameters : Parameters) : String :=
  FormEncoding.encodePairs parameters.pairs

end Questionnaire
