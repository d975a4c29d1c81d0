/-
# References to characters

An ampersand may start a reference to characters: by number, decimal or
hexadecimal, or by name. A reference by number needs no semicolon, and some
names do not either; of these the longest one that fits counts. In the value of
an attribute such a name is no reference when a letter, a digit or an equals
sign follows. An ampersand that starts no reference stands for itself.
-/

import Questionnaire.Html.ReferenceTable

namespace Questionnaire.Html

/-- The code points that the numbers from 128 to 159 stand for. -/
def controlReplacements : List (Nat × Nat) :=
  [(0x80, 0x20AC), (0x82, 0x201A), (0x83, 0x0192), (0x84, 0x201E), (0x85, 0x2026),
   (0x86, 0x2020), (0x87, 0x2021), (0x88, 0x02C6), (0x89, 0x2030), (0x8A, 0x0160),
   (0x8B, 0x2039), (0x8C, 0x0152), (0x8E, 0x017D), (0x91, 0x2018), (0x92, 0x2019),
   (0x93, 0x201C), (0x94, 0x201D), (0x95, 0x2022), (0x96, 0x2013), (0x97, 0x2014),
   (0x98, 0x02DC), (0x99, 0x2122), (0x9A, 0x0161), (0x9B, 0x203A), (0x9C, 0x0153),
   (0x9E, 0x017E), (0x9F, 0x0178)]

/-- The character in place of what no text can hold. -/
def replacementCharacter : Char := '\ufffd'

/-- The character that a number refers to. -/
def numberedCharacter (number : Nat) : Char :=
  if number = 0 || !number.isValidChar then replacementCharacter
  else Char.ofNat ((controlReplacements.lookup number).getD number)

/-- A reference by number: its digits and the number of characters before them. -/
def numberReference (base skipped : Nat) (digits after : List Char) : Option (List Char × Nat) :=
  if digits.isEmpty then none
  else
    let number := digits.foldl
      (fun value c => if value > 0x10FFFF then value
        else base * value + (Text.hexDigitValue? c).getD 0) 0
    let semicolon := if after.head? = some ';' then 1 else 0
    some ([numberedCharacter number], skipped + digits.length + semicolon)

/-- A reference by name. -/
def nameReference (inAttribute : Bool) (text : List Char) : Option (List Char × Nat) :=
  let run := text.takeWhile Text.isAsciiAlphanumeric
  let next := text[run.length]?
  match if next = some ';' then referenced? run else none with
  | some characters => some (characters, run.length + 1)
  | none =>
    let fitting := bareNames.filter (fun name => name.isPrefixOf run)
    let longest :=
      fitting.foldl (fun best name => if best.length < name.length then name else best) []
    let isLiteral := inAttribute && (longest.length < run.length || next = some '=')
    if longest.isEmpty || isLiteral then none
    else (referenced? longest).map (fun characters => (characters, longest.length))

/-- The characters that an ampersand stands for together with how many of the
characters behind it, if it starts a reference. -/
def referenceAt? (inAttribute : Bool) (text : List Char) : Option (List Char × Nat) :=
  let isHexDigit (c : Char) : Bool := (Text.hexDigitValue? c).isSome
  match text with
  | '#' :: 'x' :: rest =>
    numberReference 16 2 (rest.takeWhile isHexDigit) (rest.dropWhile isHexDigit)
  | '#' :: 'X' :: rest =>
    numberReference 16 2 (rest.takeWhile isHexDigit) (rest.dropWhile isHexDigit)
  | '#' :: rest =>
    numberReference 10 1 (rest.takeWhile Text.isAsciiDigit) (rest.dropWhile Text.isAsciiDigit)
  | text => nameReference inAttribute text

/-- The text with its references replaced. -/
def resolveReferences (inAttribute : Bool) (text : List Char) : List Char :=
  match text with
  | [] => []
  | c :: rest =>
    match if c = '&' then referenceAt? inAttribute rest else none with
    | some (characters, used) =>
      characters ++ resolveReferences inAttribute (rest.drop used)
    | none => c :: resolveReferences inAttribute rest
  termination_by text.length
  decreasing_by
    · simp only [List.length_drop, List.length_cons]; omega
    · simp

end Questionnaire.Html
