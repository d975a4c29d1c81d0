/-
# Pieces of pattern text

The small parts of written patterns: the flags under which a part is read,
blanks and comments between parts, escapes, numbers and names. All readers take
the text that is left and give it back without what they have read; they fail
where no pattern can be meant.
-/

import Questionnaire.Pattern.Basic
import Questionnaire.Pattern.Property
import Questionnaire.Text.Alphanumeric
import Questionnaire.Text.Ascii

namespace Questionnaire.PatternText

/-- How a part of a pattern is read. -/
structure Flags where
  /-- Characters stand for all that equal them up to case. -/
  ignoreCase : Bool
  /-- The anchors also stand at the ends of lines. -/
  multiLine : Bool
  /-- The dot also stands for the end of a line. -/
  dotAll : Bool
  /-- Carriage returns end lines too. -/
  anyLineEnd : Bool
  /-- Classes and characters are those of Unicode and not of ASCII. -/
  unicode : Bool
  /-- Blanks and comments between parts have no meaning. -/
  verbose : Bool
  deriving Repr, DecidableEq

/-- The flags at the start of a pattern. -/
def Flags.initial : Flags := ⟨false, false, false, false, true, false⟩

/-- The flag letter of a directive, switched on or off. The letter that swaps
greed is one of them and does not change what occurs in a text. -/
def Flags.set? (flags : Flags) (letter : Char) (value : Bool) : Option Flags :=
  match letter with
  | 'i' => some { flags with ignoreCase := value }
  | 'm' => some { flags with multiLine := value }
  | 's' => some { flags with dotAll := value }
  | 'R' => some { flags with anyLineEnd := value }
  | 'u' => some { flags with unicode := value }
  | 'x' => some { flags with verbose := value }
  | 'U' => some flags
  | _ => none

/-- Skip white space and comments, which reach to the end of their line. -/
def skipBlanks (inComment : Bool) : List Char → List Char
  | [] => []
  | c :: rest =>
    if inComment then skipBlanks (c != '\n') rest
    else if Text.isWhiteSpace c then skipBlanks false rest
    else if c == '#' then skipBlanks true rest
    else c :: rest

/-- Skip white space and comments where they have no meaning. -/
def skip (verbose : Bool) (text : List Char) : List Char :=
  if verbose then skipBlanks false text else text

/-- Skipping leaves no more text than there was. -/
theorem length_skipBlanks_le (inComment : Bool) (text : List Char) :
    (skipBlanks inComment text).length ≤ text.length := by
  induction text generalizing inComment with
  | nil => simp [skipBlanks]
  | cons c rest ih =>
    unfold skipBlanks
    split
    · exact Nat.le_succ_of_le (ih _)
    · split
      · exact Nat.le_succ_of_le (ih _)
      · split
        · exact Nat.le_succ_of_le (ih _)
        · exact Nat.le_refl _

/-- Skipping leaves no more text than there was, whatever blanks mean. -/
theorem length_skip_le (verbose : Bool) (text : List Char) :
    (skip verbose text).length ≤ text.length := by
  unfold skip
  split
  · exact length_skipBlanks_le false text
  · exact Nat.le_refl _

/-- The text up to a closing brace, without blanks and comments where they have
no meaning. -/
def readBraced (verbose inComment : Bool) : List Char → Option (List Char × List Char)
  | [] => none
  | c :: rest =>
    if inComment then readBraced verbose (c != '\n') rest
    else if verbose && Text.isWhiteSpace c then readBraced verbose false rest
    else if verbose && c == '#' then readBraced verbose true rest
    else if c == '}' then some ([], rest)
    else (readBraced verbose false rest).map (fun found => (c :: found.1, found.2))

/-- So many hexadecimal digits. -/
def readHexDigits (verbose : Bool) : Nat → List Char → Option (List Char × List Char)
  | 0, text => some ([], text)
  | count + 1, text =>
    match skip verbose text with
    | [] => none
    | c :: rest =>
      if (Text.hexDigitValue? c).isSome then
        (readHexDigits verbose count rest).map (fun found => (c :: found.1, found.2))
      else none

/-- The number that a run of hexadecimal digits denotes, if there are digits and
nothing else. -/
def hexValue? (digits : List Char) : Option Nat :=
  if digits.isEmpty then none
  else
    digits.foldlM (fun value c => (Text.hexDigitValue? c).map (fun digit => 16 * value + digit)) 0

/-- The character of a code point, if it is one. -/
def character? (codePoint : Nat) : Option Char :=
  if codePoint.isValidChar then some (Char.ofNat codePoint) else none

/-- The character of an escape by number, with the number of its digits where no
braces are used. -/
def readHexEscape (verbose : Bool) (digits : Nat) (text : List Char) :
    Option (Char × List Char) :=
  match skip verbose text with
  | '{' :: rest => do
    let (content, rest) ← readBraced verbose false rest
    let c ← (← hexValue? content) |> character?
    some (c, rest)
  | text => do
    let (content, rest) ← readHexDigits verbose digits text
    let c ← (← hexValue? content) |> character?
    some (c, rest)

/-- A run of decimal digits. -/
def readDigits (verbose : Bool) : List Char → List Char × List Char
  | [] => ([], [])
  | c :: rest =>
    if Text.isAsciiDigit c then
      let found := readDigits verbose (skip verbose rest)
      (c :: found.1, found.2)
    else ([], c :: rest)
  termination_by text => text.length
  decreasing_by exact Nat.lt_succ_of_le (length_skip_le _ _)

/-- A number of 32 bits, with white space around it. -/
def readNumber (verbose : Bool) (text : List Char) : Option (Nat × List Char) :=
  let (digits, rest) := readDigits verbose (text.dropWhile Text.isWhiteSpace)
  let value := Text.decimalValue digits
  if digits.isEmpty || value ≥ Nat.pow 2 32 then none
  else some (value, rest.dropWhile Text.isWhiteSpace)

/-- The bounds of a counted repetition, after its opening brace. -/
def readBounds (verbose : Bool) (text : List Char) :
    Option ((Nat × Option Nat) × List Char) := do
  let (least, rest) ← readNumber verbose (skip verbose text)
  match rest with
  | '}' :: rest => some ((least, some least), rest)
  | ',' :: rest =>
    match skip verbose rest with
    | '}' :: rest => some ((least, none), rest)
    | rest =>
      let (most, rest) ← readNumber verbose rest
      match rest with
      | '}' :: rest => if least ≤ most then some ((least, some most), rest) else none
      | _ => none
  | _ => none

/-- A piece of a pattern that is no operator. -/
inductive Piece where
  /-- One character. One that was written by two hexadecimal digits may stand
  for a byte. -/
  | literal (c : Char) (isByte : Bool)
  /-- A class with a name. -/
  | set (members : CharacterSet)
  /-- A condition on a place. -/
  | place (condition : PlaceCondition)
  deriving Repr

/-- The characters of words under the flags. -/
def Flags.word (flags : Flags) : CharacterSet :=
  if flags.unicode then .wordCharacters else .asciiWordCharacters

/-- The class of a letter such as `d`. Its upper case stands for all other
characters, which there are none of among the ASCII characters alone. -/
def Flags.letterClass (flags : Flags) (letter : Char) : Option CharacterSet :=
  let members : CharacterSet :=
    match letter.toLower, flags.unicode with
    | 'd', true => .digits
    | 'd', false => .asciiDigits
    | 's', true => .whiteSpace
    | 's', false => .asciiWhiteSpace
    | _, true => .wordCharacters
    | _, false => .asciiWordCharacters
  if letter.toLower == letter then some members
  else if flags.unicode then some members.complement
  else none

/-- Close a set up to case where case is ignored, and turn it into its
complement if asked. Without Unicode all members must be ASCII in the end. -/
def Flags.close (flags : Flags) (negated : Bool) (set : CharacterSet) : Option CharacterSet :=
  if flags.unicode then
    let closed := if flags.ignoreCase then set.caseClosure else set
    some (if negated then closed.complement else closed)
  else
    let closed := if flags.ignoreCase then set.asciiCaseClosure else set
    let result := if negated then (CharacterSet.range 0 0xFF).difference closed else closed
    if result.isAscii then some result else none

/-- The name and the value in the braces of a property. They stand on both sides
of the first `!=`, else of the first colon, else of the first `=`. -/
def splitProperty (content : List Char) : List Char × Option (List Char) :=
  let rec atUnequal : List Char → Option (List Char × List Char)
    | '!' :: '=' :: rest => some ([], rest)
    | c :: rest => (atUnequal rest).map (fun found => (c :: found.1, found.2))
    | [] => none
  let atFirst (mark : Char) : Option (List Char × List Char) :=
    if content.contains mark then
      some (content.takeWhile (· != mark), (content.dropWhile (· != mark)).drop 1)
    else none
  match atUnequal content <|> atFirst ':' <|> atFirst '=' with
  | some (name, value) => (name, some value)
  | none => (content, none)

/-- The name and the value of a property: one character, or what stands in
braces. -/
def readPropertyName (verbose : Bool) (text : List Char) :
    Option ((List Char × Option (List Char)) × List Char) :=
  match skip verbose text with
  | [] => none
  | c :: rest =>
    if c == '\\' then none
    else if c == '\x7b' then
      (readBraced verbose false rest).map (fun found => (splitProperty found.1, found.2))
    else some (([c], none), rest)

/-- The class of a property, after its letter. -/
def readProperty (flags : Flags) (negated : Bool) (text : List Char) :
    Option (Piece × List Char) := do
  let (content, rest) ← readPropertyName flags.verbose text
  if flags.unicode then
    let members ← Property.set? (String.ofList content.1) (content.2.map String.ofList)
    let closed ← flags.close negated members
    some (.set closed, rest)
  else none

/-- The condition on words after `\b`: the edge of a word, or what a name in
braces asks for instead. Braces that hold no name are left to be read as a
repetition. -/
def readWordCondition (flags : Flags) (text : List Char) : Option (Piece × List Char) :=
  let isNameCharacter (c : Char) : Bool := Text.isAsciiLetter c || c == '-'
  match text with
  | '{' :: rest =>
    match skip flags.verbose rest with
    | [] => none
    | c :: _ =>
      if isNameCharacter c then do
        let (content, rest) ← readBraced flags.verbose false rest
        match String.ofList content with
        | "start" => some (.place (.wordStart flags.word), rest)
        | "end" => some (.place (.wordEnd flags.word), rest)
        | "start-half" => some (.place (.afterNoWord flags.word), rest)
        | "end-half" => some (.place (.beforeNoWord flags.word), rest)
        | _ => none
      else some (.place (.wordEdge flags.word), text)
  | _ => some (.place (.wordEdge flags.word), text)

/-- An escape, after its backslash. ASCII characters that are neither letters
nor digits stand for themselves, except the angles, which are word conditions. -/
def readEscape (flags : Flags) : List Char → Option (Piece × List Char)
  | [] => none
  | c :: rest =>
    let escaped (code : Nat) : Option (Piece × List Char) :=
      some (.literal (Char.ofNat code) false, rest)
    let numbered (digits : Nat) : Option (Piece × List Char) :=
      let isByte := digits = 2 && (skip flags.verbose rest).head? != some '\x7b'
      (readHexEscape flags.verbose digits rest).map
        (fun found => (.literal found.1 isByte, found.2))
    match c with
    | 'x' => numbered 2
    | 'u' => numbered 4
    | 'U' => numbered 8
    | 'p' => readProperty flags false rest
    | 'P' => readProperty flags true rest
    | 'd' | 's' | 'w' | 'D' | 'S' | 'W' =>
      (flags.letterClass c).map (fun members => (.set members, rest))
    | 'a' => escaped 0x07
    | 'f' => escaped 0x0C
    | 't' => escaped 0x09
    | 'n' => escaped 0x0A
    | 'r' => escaped 0x0D
    | 'v' => escaped 0x0B
    | 'A' => some (.place .textStart, rest)
    | 'z' => some (.place .textEnd, rest)
    | 'b' => readWordCondition flags rest
    | 'B' => some (.place (.noWordEdge flags.word), rest)
    | '<' => some (.place (.wordStart flags.word), rest)
    | '>' => some (.place (.wordEnd flags.word), rest)
    | c =>
      if c.toNat < 0x80 && !Text.isAsciiAlphanumeric c then some (.literal c false, rest) else none

/-- The name of a group, after its opening angle. -/
def readGroupName : List Char → Option (List Char × List Char)
  | [] => none
  | c :: rest =>
    if c == '_' || Text.isAlphabetic c then continueName [c] rest else none
where
  /-- The rest of the name, with what was read of it in reverse. -/
  continueName (found : List Char) : List Char → Option (List Char × List Char)
    | [] => none
    | c :: rest =>
      if c == '>' then some (found.reverse, rest)
      else if c == '_' || c == '.' || c == '[' || c == ']' || Text.isAlphanumeric c then
        continueName (c :: found) rest
      else none

/-- The flags of a directive, after its question mark. The result holds the
character that ends the directive and whether there were no letters at all. -/
def readFlags (flags : Flags) (value : Bool) (seen : List Char) :
    List Char → Option ((Flags × Char × Bool) × List Char)
  | [] => none
  | c :: rest =>
    if c == ':' || c == ')' then
      if seen.head? == some '-' then none else some ((flags, c, seen.isEmpty), rest)
    else if seen.contains c then none
    else if c == '-' then readFlags flags false (c :: seen) rest
    else
      match flags.set? c value with
      | none => none
      | some changed => readFlags changed value (c :: seen) rest

end Questionnaire.PatternText
