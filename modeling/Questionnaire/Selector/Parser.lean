/-
# Reading selectors

A selector text is cut at every comma, pieces of white space are dropped, and
each remaining piece is cut into words. A word is one compound: an optional tag
or `*`, then components `#id`, `.class` and `[name=value]`. A component is read
as far as it goes, so a name ends only before a character that no name holds,
and the value of an attribute test ends at the first `]`. The first word that
is no compound decides the error.
-/

import Questionnaire.Selector.Basic
import Questionnaire.Selector.Error
import Questionnaire.Text.Alphanumeric
import Questionnaire.Text.Ascii
import Questionnaire.Text.WhiteSpace

namespace Questionnaire

/-- Characters of the names in `#id`, `.class` and `[name=value]`. -/
def isIdentifierCharacter (c : Char) : Bool :=
  Text.isAlphanumeric c || c == '_' || c == '-'

/-- Characters of a tag after its first letter. -/
def isTagCharacter (c : Char) : Bool :=
  Text.isAsciiAlphanumeric c || c == '-'

/-- The number of bytes of a text in UTF-8. -/
def utf8Length (cs : List Char) : Nat :=
  cs.foldr (fun c length => c.utf8Size + length) 0

/-- The value inside one pair of equal quotation marks, double or single. A
text that is not wrapped in such a pair is its own value. -/
def unquote (raw : List Char) : List Char :=
  match raw with
  | first :: inner@(_ :: _) =>
    if (first == '"' || first == '\'') && inner.getLast? == some first then inner.dropLast
    else raw
  | _ => raw

/-- One test of a compound after its tag. -/
inductive Component where
  /-- The test `#name`. -/
  | id (name : String)
  /-- The test `.name`. -/
  | hasClass (name : String)
  /-- The test `[name=value]`. -/
  | hasAttribute (name : String) (value : String)
  deriving Repr, DecidableEq

/-- Add a component to the tests of a compound. The first id stays, classes
pile up, and the last value given to an attribute counts. -/
def Compound.add (compound : Compound) : Component → Compound
  | .id name => { compound with id := some (compound.id.getD name) }
  | .hasClass name => { compound with classes := compound.classes ++ [name] }
  | .hasAttribute name value =>
    { compound with attributes := compound.attributes.insert name value }

/-- Read the attribute test whose `[` has been read. -/
def readAttribute (word rest : List Char) : Except SelectorError (Component × List Char) :=
  let name := rest.takeWhile isIdentifierCharacter
  match rest.dropWhile isIdentifierCharacter with
  | [] => .error (.unterminatedAttribute (String.ofList word))
  | '=' :: afterEquals =>
    if name.isEmpty then
      let position := utf8Length word - utf8Length ('=' :: afterEquals)
      .error (.missingIdentifier '[' position (String.ofList word))
    else
      match afterEquals.dropWhile (fun c => c != ']') with
      | [] => .error (.unterminatedAttribute (String.ofList word))
      | _ :: afterBracket =>
        let value := unquote (afterEquals.takeWhile (fun c => c != ']'))
        if value.isEmpty then
          .error (.missingAttributeValue (String.ofList name) (String.ofList word))
        else .ok (.hasAttribute (String.ofList name) (String.ofList value), afterBracket)
  | _ => .error (.missingAttributeValue (String.ofList name) (String.ofList word))

/-- Read the name after `#` or `.`, which stands at the given rest of a word. -/
def readNamed (word : List Char) (marker : Char) (build : String → Component)
    (rest : List Char) : Except SelectorError (Component × List Char) :=
  let name := rest.takeWhile isIdentifierCharacter
  if name.isEmpty then
    let position := utf8Length word - utf8Length (marker :: rest)
    .error (.missingIdentifier marker position (String.ofList word))
  else .ok (build (String.ofList name), rest.dropWhile isIdentifierCharacter)

/-- Read one component from the rest of a word that is not empty. -/
def readComponent (word : List Char) (first : Char) (rest : List Char) :
    Except SelectorError (Component × List Char) :=
  if first = '#' then readNamed word '#' .id rest
  else if first = '.' then readNamed word '.' .hasClass rest
  else if first = '[' then readAttribute word rest
  else
    let position := utf8Length word - utf8Length (first :: rest)
    .error (.unexpectedCharacter first position (String.ofList word))

/-- What is left after a component is shorter than what was there before it. -/
theorem length_readComponent_lt {word rest remaining : List Char} {first : Char}
    {component : Component}
    (read : readComponent word first rest = .ok (component, remaining)) :
    remaining.length < (first :: rest).length := by
  have shorter := Text.length_dropWhile_le isIdentifierCharacter rest
  unfold readComponent readNamed readAttribute at read
  dsimp only at read
  split at read
  · split at read
    · cases read
    · cases read
      exact Nat.lt_succ_of_le shorter
  split at read
  · split at read
    · cases read
    · cases read
      exact Nat.lt_succ_of_le shorter
  split at read
  · split at read
    · cases read
    · next afterEquals afterName =>
      split at read
      · cases read
      · split at read
        · cases read
        · next closing afterBracket afterValue =>
          split at read
          · cases read
          · cases read
            have inner := Text.length_dropWhile_le (fun c => c != ']') afterEquals
            rw [afterValue] at inner
            rw [afterName] at shorter
            simp only [List.length_cons] at inner shorter ⊢
            omega
    · cases read
  · cases read

/-- Read the components of a word from the given rest of it. -/
def readComponents (word : List Char) : List Char → Except SelectorError (List Component)
  | [] => .ok []
  | first :: rest =>
    match _read : readComponent word first rest with
    | .error error => .error error
    | .ok (component, remaining) =>
      match readComponents word remaining with
      | .error error => .error error
      | .ok components => .ok (component :: components)
termination_by remaining => remaining.length
decreasing_by exact length_readComponent_lt _read

/-- Split a word into its tag, if it has one, and the rest. A leading `*` is
read and stands for no tag. -/
def readTag : List Char → Option String × List Char
  | [] => (none, [])
  | first :: rest =>
    if first = '*' then (none, rest)
    else if Text.isAsciiLetter first then
      (some (Text.asciiLower (String.ofList ((first :: rest).takeWhile isTagCharacter))),
        (first :: rest).dropWhile isTagCharacter)
    else (none, first :: rest)

/-- Read one compound, which is a word without white space. -/
def Compound.ofWord (word : List Char) : Except SelectorError Compound :=
  let (tag, rest) := readTag word
  match readComponents word rest with
  | .error error => .error error
  | .ok components => .ok (components.foldl Compound.add { Compound.wildcard with tag })

/-- Read words as compounds, up to the first one that is none. -/
def Chain.ofWords : List (List Char) → Except SelectorError Chain
  | [] => .ok []
  | word :: rest =>
    match Compound.ofWord word with
    | .error error => .error error
    | .ok compound =>
      match Chain.ofWords rest with
      | .error error => .error error
      | .ok chain => .ok (compound :: chain)

/-- Read pieces between commas as chains, up to the first one that is none. -/
def readChains : List (List Char) → Except SelectorError (List Chain)
  | [] => .ok []
  | piece :: rest =>
    match Chain.ofWords (Text.words piece) with
    | .error error => .error error
    | .ok chain =>
      match readChains rest with
      | .error error => .error error
      | .ok chains => .ok (chain :: chains)

/-- The pieces of a selector text that are not blank. -/
def selectorPieces (cs : List Char) : List (List Char) :=
  (Text.splitAtEvery (fun c => c == ',') cs).filter (fun piece => !Text.isBlank piece)

/-- Read a selector. -/
def Selector.parse (source : String) : Except SelectorError Selector :=
  match selectorPieces source.toList with
  | [] => .error .empty
  | pieces =>
    match readChains pieces with
    | .error error => .error error
    | .ok alternatives => .ok ⟨alternatives⟩

end Questionnaire
