/-
# Quoted texts

A text between quotation marks in which every character can be told apart: the
quotation mark, the backslash and a few control characters have escapes of two
characters, and every character that is not printable is written by its code
point in hexadecimal.
-/

import Questionnaire.Text.Ascii
import Questionnaire.Text.Printable

namespace Questionnaire.Text

/-- The lower-case hexadecimal digits of a number without leading zeros. -/
def hexDigits (n : Nat) : List Char :=
  Nat.toDigits 16 n

/-- One character inside a quoted text. -/
def quoteCharacter (c : Char) : List Char :=
  if c == '\x00' then ['\\', '0']
  else if c == '\t' then ['\\', 't']
  else if c == '\r' then ['\\', 'r']
  else if c == '\n' then ['\\', 'n']
  else if c == '\\' then ['\\', '\\']
  else if c == '"' then ['\\', '"']
  else if isPrintable c then [c]
  else '\\' :: 'u' :: '\x7b' :: hexDigits c.toNat ++ ['\x7d']

/-- A text in quotation marks. -/
def quoted (text : String) : String :=
  String.ofList ('"' :: text.toList.flatMap quoteCharacter ++ ['"'])

end Questionnaire.Text
