/-
# Web addresses

An absolute address starts with a scheme and a colon. What follows depends on
the scheme: the usual web schemes take any number of slashes in either direction
and always have a host, files have a host after two slashes at most, and other
schemes have one after exactly two slashes. Blanks around an address, and line
breaks and tabs inside it, are ignored. Only the parts that decide whether there
is a host are read; paths, queries and fragments hold anything.
-/

import Questionnaire.Url.Host

namespace Questionnaire

/-- An absolute address, as far as it is read. -/
structure Url where
  /-- The scheme in small letters. -/
  scheme : List Char
  /-- The host, if the address has one. -/
  host : Option Host
  deriving Repr

namespace Url

/-- How the rest of an address is read after its scheme. -/
inductive SchemeKind where
  /-- A scheme of the web. -/
  | web
  /-- Files. -/
  | file
  /-- Any other scheme. -/
  | other
  deriving Repr, DecidableEq

/-- The kind of a scheme. -/
def kindOf (scheme : List Char) : SchemeKind :=
  if ["http", "https", "ws", "wss", "ftp"].contains (String.ofList scheme) then .web
  else if String.ofList scheme = "file" then .file
  else .other

/-- Whether a character is a blank that is ignored at both ends of an address. -/
def isOuterBlank (c : Char) : Bool := c.toNat ≤ 0x20

/-- The characters of an address that count. -/
def significant (text : List Char) : List Char :=
  let trimmed := (((text.dropWhile isOuterBlank).reverse).dropWhile isOuterBlank).reverse
  trimmed.filter (fun c => !(c == '\t' || c == '\n' || c == '\r'))

/-- Characters of schemes after the first one. -/
def isSchemeCharacter (c : Char) : Bool :=
  Text.isAsciiAlphanumeric c || c == '+' || c == '-' || c == '.'

/-- The scheme of an address and what follows its colon. -/
def splitScheme (text : List Char) : Option (List Char × List Char) :=
  if text.head?.any Text.isAsciiLetter then
    match text.dropWhile isSchemeCharacter with
    | ':' :: rest => some ((text.takeWhile isSchemeCharacter).map Char.toLower, rest)
    | _ => none
  else none

/-- Whether a character separates parts of a path. Backslashes do so outside of
other schemes. -/
def isSlash (kind : SchemeKind) (c : Char) : Bool :=
  c == '/' || (c == '\\' && kind ≠ .other)

/-- Whether a character ends the part of an address that names a host. -/
def endsAuthority (kind : SchemeKind) (c : Char) : Bool :=
  isSlash kind c || c == '?' || c == '#'

/-- The text after the last at sign of an authority, if there is an at sign. -/
def afterLastAt (authority : List Char) : Option (List Char) :=
  if authority.contains '@' then some ((authority.reverse.takeWhile (· != '@')).reverse) else none

/-- The text of a host: up to the first colon outside of brackets. -/
def hostText (inBrackets : Bool) : List Char → List Char
  | [] => []
  | c :: rest =>
    if c == ':' && !inBrackets then []
    else c :: hostText (if c == '[' then true else if c == ']' then false else inBrackets) rest

/-- The greatest port. -/
def portLimit : Nat := 65535

/-- Whether a text is a port. No digits are the usual port of the scheme. -/
def isPort (text : List Char) : Bool :=
  text.all Text.isAsciiDigit && Text.decimalValue text ≤ portLimit

/-- The host of an authority, which is optional for other schemes. The port ends
at a backslash under every scheme. -/
def hostOfAuthority (kind : SchemeKind) (text : List Char) : Option (Option Host) :=
  let authority := text.takeWhile (fun c => !endsAuthority kind c)
  let hostAndPort := (afterLastAt authority).getD authority
  let name := hostText false hostAndPort
  let port := (hostAndPort.drop (name.length + 1)).takeWhile (· != '\\')
  let hasPort := name.length < hostAndPort.length
  if hasPort && (!isPort port || name.isEmpty) then none
  else if name.isEmpty then
    if kind = .web || authority.contains '@' then none else some none
  else
    let host := if kind = .other then Host.ofText? name else Host.ofName? name
    host.map some

/-- Whether a text is a drive letter as paths have it. -/
def isDriveLetter (text : List Char) : Bool :=
  match text with
  | [letter, mark] => Text.isAsciiLetter letter && (mark == ':' || mark == '|')
  | _ => false

/-- The text with each percent sign and `2e` as a dot. -/
def plainDots : List Char → List Char
  | '%' :: '2' :: 'e' :: rest => '.' :: plainDots rest
  | '%' :: '2' :: 'E' :: rest => '.' :: plainDots rest
  | c :: rest => c :: plainDots rest
  | [] => []

/-- Whether a path comes to a drive letter at its root. Empty segments count,
one dot stands for nothing and two dots take the segment before back. -/
def reachesDrive (depth : Nat) : List (List Char) → Bool
  | [] => false
  | segment :: rest =>
    let plain := plainDots segment
    if plain = ['.', '.'] then reachesDrive (depth - 1) rest
    else if plain = ['.'] then reachesDrive depth rest
    else (depth = 0 && isDriveLetter segment) || reachesDrive (depth + 1) rest

/-- The host of a file after two slashes. A drive letter is no host, the own
machine counts as no host, and a path at whose root there is a drive letter
takes the host away. -/
def hostOfFile (text : List Char) : Option (Option Host) :=
  let name := text.takeWhile (fun c => !endsAuthority .file c)
  if name.isEmpty || isDriveLetter name then some none
  else
    match Host.ofName? name with
    | none => none
    | some host =>
      let path := (text.drop (name.length + 1)).takeWhile (fun c => c != '?' && c != '#')
      let hasPath := (text[name.length]?).any (isSlash .file)
      let isLocal := host == .domain ["localhost".toList]
      let hasDrive := hasPath && reachesDrive 0 (Text.splitAtEvery (isSlash .file) path)
      some (if isLocal || hasDrive then none else some host)

/-- The host of an address whose scheme is of a kind. -/
def hostAfterScheme (kind : SchemeKind) (text : List Char) : Option (Option Host) :=
  match kind with
  | .web => hostOfAuthority .web (text.dropWhile (isSlash .web))
  | .file =>
    if (text.take 2).length = 2 && (text.take 2).all (isSlash .file) then hostOfFile (text.drop 2)
    else some none
  | .other =>
    match text with
    | '/' :: '/' :: rest => hostOfAuthority .other rest
    | _ => some none

/-- The address that a text is. -/
def parse? (text : String) : Option Url := do
  let (scheme, rest) ← splitScheme (significant text.toList)
  let host ← hostAfterScheme (kindOf scheme) rest
  some ⟨scheme, host⟩

/-- Whether a text is an absolute address with a host. -/
def isHosted (text : String) : Bool :=
  (parse? text).any (fun url => url.host.isSome)

end Url

end Questionnaire
