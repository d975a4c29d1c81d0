/-
# Writing JSON

The text of a JSON value on one line, and the text with one member or item to a
line and two spaces for each level. Strings escape the quotation mark, the
backslash and control characters; every other character stands for itself.
-/

import Questionnaire.Json.Basic
import Questionnaire.Number.Shortest
import Questionnaire.Text.Ascii

namespace Questionnaire.Json

/-- One character inside a JSON string. -/
def escapeCharacter (c : Char) : List Char :=
  if c == '"' then ['\\', '"']
  else if c == '\\' then ['\\', '\\']
  else if c == '\x08' then ['\\', 'b']
  else if c == '\x0c' then ['\\', 'f']
  else if c == '\n' then ['\\', 'n']
  else if c == '\r' then ['\\', 'r']
  else if c == '\t' then ['\\', 't']
  else if c.toNat < 0x20 then
    ['\\', 'u', '0', '0', Text.lowerHexDigit (c.toNat / 16), Text.lowerHexDigit (c.toNat % 16)]
  else [c]

/-- A string in quotation marks. -/
def quote (text : String) : String :=
  String.ofList ('"' :: text.toList.flatMap escapeCharacter ++ ['"'])

/-- A number as it is written. -/
def renderNumber : JsonNumber → String
  | .natural value => toString value
  | .negative magnitude => "-" ++ toString magnitude
  | .floating isNegative magnitude => (if isNegative then "-" else "") ++ magnitude.render

mutual

/-- The text of a value on one line, without spaces. -/
def compact : Json → String
  | .null => "null"
  | .boolean value => if value then "true" else "false"
  | .number value => renderNumber value
  | .string value => quote value
  | .array items => "[" ++ String.intercalate "," (compactItems items) ++ "]"
  | .object members => "\x7b" ++ String.intercalate "," (compactMembers members) ++ "\x7d"

/-- The texts of the items of an array. -/
def compactItems : List Json → List String
  | [] => []
  | item :: rest => compact item :: compactItems rest

/-- The texts of the members of an object. -/
def compactMembers : List (String × Json) → List String
  | [] => []
  | (name, value) :: rest => (quote name ++ ":" ++ compact value) :: compactMembers rest

end

/-- A line break and the indentation of a level. -/
def lineBreak (level : Nat) : String :=
  "\n" ++ String.join (List.replicate level "  ")

/-- Parts between an opening and a closing mark, each on a line of its own. -/
def layOut (opening closing : String) (level : Nat) (parts : List String) : String :=
  if parts.isEmpty then opening ++ closing
  else
    opening ++ lineBreak (level + 1) ++
      String.intercalate ("," ++ lineBreak (level + 1)) parts ++ lineBreak level ++ closing

mutual

/-- The text of a value at a level of indentation, over several lines. -/
def prettyAt (level : Nat) : Json → String
  | .null => "null"
  | .boolean value => if value then "true" else "false"
  | .number value => renderNumber value
  | .string value => quote value
  | .array items => layOut "[" "]" level (prettyItems (level + 1) items)
  | .object members => layOut "\x7b" "\x7d" level (prettyMembers (level + 1) members)

/-- The texts of the items of an array. -/
def prettyItems (level : Nat) : List Json → List String
  | [] => []
  | item :: rest => prettyAt level item :: prettyItems level rest

/-- The texts of the members of an object. -/
def prettyMembers (level : Nat) : List (String × Json) → List String
  | [] => []
  | (name, value) :: rest =>
    (quote name ++ ": " ++ prettyAt level value) :: prettyMembers level rest

end

/-- The text of a value over several lines. -/
def pretty (value : Json) : String :=
  prettyAt 0 value

end Questionnaire.Json
