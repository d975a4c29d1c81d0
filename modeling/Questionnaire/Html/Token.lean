/-
# Tokens of documents

A document is written as tags, comments, a declaration of its type and text in
between. What a less-than sign means depends on what follows it and on the
element that is open: scripts, styles and some other elements hold text that
ends only at their own end tag. Tokens are read one at a time, because only the
tree built so far tells which element is open.
-/

import Questionnaire.Html.Reference

namespace Questionnaire.Html

/-- A start tag or an end tag. -/
structure Tag where
  /-- The name in small letters. -/
  name : String
  /-- The attributes in order, without repeated names. -/
  attributes : List (String × String)
  /-- Whether the tag ends with a slash. -/
  isSelfClosing : Bool
  deriving Repr

/-- A token. -/
inductive Token where
  /-- The declaration of the type, and whether it asks for the rules of old
  documents. -/
  | doctype (isOld : Bool)
  /-- A start tag. -/
  | startTag (tag : Tag)
  /-- An end tag. -/
  | endTag (tag : Tag)
  /-- A comment. -/
  | comment (content : String)
  /-- A text that is not empty. -/
  | characters (text : List Char)
  deriving Repr

/-- What the text at hand belongs to. -/
inductive ContentMode where
  /-- Ordinary content. -/
  | markup
  /-- Text with references up to the end tag of an element. -/
  | resolvedText (element : String)
  /-- Text without references up to the end tag of an element. -/
  | rawText (element : String)
  /-- A script. -/
  | script
  /-- Text to the end of the document. -/
  | plain
  deriving Repr, DecidableEq

namespace Token

/-- White space inside tags. -/
def isBlank (c : Char) : Bool :=
  c == ' ' || c == '\n' || c == '\t' || c == '\x0c' || c == '\r'

/-- Whether a character ends the name of a tag. -/
def endsName (c : Char) : Bool :=
  isBlank c || c == '/' || c == '>'

/-- Whether the name of an attribute goes on with a character. -/
def continuesName (c : Char) : Bool :=
  !(endsName c || c == '=')

/-- A text without characters that none can hold. -/
def cleaned (text : List Char) : List Char :=
  text.map (fun c => if c = '\x00' then replacementCharacter else c)

/-- A name in small letters. -/
def nameOf (text : List Char) : String :=
  String.ofList ((cleaned text).map Char.toLower)

/-- Add an attribute unless there is one of its name. -/
def addAttribute (attributes : List (String × String)) (name value : List Char) :
    List (String × String) :=
  let name := nameOf name
  if attributes.any (fun entry => entry.1 == name) then attributes
  else attributes ++ [(name, String.ofList (resolveReferences true (cleaned value)))]

/-- The value of an attribute, after its equals sign, and what follows it. -/
def readValue (text : List Char) : Option (List Char × List Char) :=
  match text.dropWhile isBlank with
  | [] => none
  | c :: rest =>
    if c = '"' || c = '\'' then
      match rest.dropWhile (· != c) with
      | [] => none
      | _ :: after => some (rest.takeWhile (· != c), after)
    else
      let continues (c : Char) : Bool := !(isBlank c || c == '>')
      some ((c :: rest).takeWhile continues, (c :: rest).dropWhile continues)

/-- A value leaves no more text than there was. -/
theorem length_readValue_le {text value after : List Char}
    (found : readValue text = some (value, after)) : after.length ≤ text.length := by
  unfold readValue at found
  have dropped := Text.length_dropWhile_le isBlank text
  split at found
  · cases found
  · next c rest start =>
    rw [start] at dropped
    dsimp only at found
    split at found
    · split at found
      · cases found
      · next closing stop =>
        have inner := Text.length_dropWhile_le (· != c) rest
        rw [stop] at inner
        cases found
        simp only [List.length_cons] at inner dropped
        omega
    · cases found
      exact Nat.le_trans (Text.length_dropWhile_le _ _) dropped

/-- What stands behind the name of an attribute is no longer than what stood
behind its first character. -/
theorem length_afterName_le (continues : Char → Bool) (rest : List Char) :
    ((rest.dropWhile continues).dropWhile isBlank).length ≤ rest.length :=
  Nat.le_trans (Text.length_dropWhile_le _ _) (Text.length_dropWhile_le _ _)

/-- Read the attributes of a tag up to its end. A tag that does not end is
nothing at all. -/
def readAttributes (attributes : List (String × String)) (text : List Char) :
    Option ((List (String × String) × Bool) × List Char) :=
  match text with
  | [] => none
  | c :: rest =>
    if isBlank c then readAttributes attributes rest
    else if c = '>' then some ((attributes, false), rest)
    else if c = '/' then
      if rest.head? = some '>' then some ((attributes, true), rest.drop 1)
      else readAttributes attributes rest
    else
      let name := c :: rest.takeWhile continuesName
      let behind := (rest.dropWhile continuesName).dropWhile isBlank
      if behind.head? = some '=' then
        match _found : readValue (behind.drop 1) with
        | none => none
        | some (value, after) => readAttributes (addAttribute attributes name value) after
      else readAttributes (addAttribute attributes name []) behind
  termination_by text.length
  decreasing_by
    · simp
    · simp
    · have value : after.length ≤ (behind.drop 1).length := length_readValue_le _found
      have name : behind.length ≤ rest.length := length_afterName_le continuesName rest
      rw [List.length_drop] at value
      exact Nat.lt_succ_of_le (by omega)
    · exact Nat.lt_succ_of_le (length_afterName_le continuesName rest)

/-- Read a tag whose name starts at hand. -/
def readTag (text : List Char) : Option (Tag × List Char) :=
  let name := text.takeWhile (fun c => !endsName c)
  (readAttributes [] (text.drop name.length)).map
    (fun found => (⟨nameOf name, found.1.1, found.1.2⟩, found.2))

/-- A comment, after its opening, and what follows it. -/
def readComment (text : List Char) : List Char × List Char :=
  match text with
  | '>' :: rest => ([], rest)
  | '-' :: '>' :: rest => ([], rest)
  | text => untilEnd text
where
  /-- The text up to the end of the comment. -/
  untilEnd : List Char → List Char × List Char
    | '-' :: '-' :: '>' :: rest => ([], rest)
    | '-' :: '-' :: '!' :: '>' :: rest => ([], rest)
    | c :: rest => (c :: (untilEnd rest).1, (untilEnd rest).2)
    | [] => ([], [])

/-- Text up to a greater-than sign that is treated as a comment. -/
def readLooseComment (text : List Char) : Token × List Char :=
  (.comment (String.ofList (cleaned (text.takeWhile (· != '>')))),
    (text.dropWhile (· != '>')).drop 1)

/-- The text of a section up to its end, and what follows it. -/
def readSection : List Char → List Char × List Char
  | ']' :: ']' :: '>' :: rest => ([], rest)
  | c :: rest => (c :: (readSection rest).1, (readSection rest).2)
  | [] => ([], [])

/-- Whether a text starts with letters, whatever their case. -/
def startsWith (letters : String) (text : List Char) : Bool :=
  (text.take letters.length).map Char.toLower == letters.toList

/-- An identifier in quotes, and what follows it. -/
def readIdentifier (text : List Char) : Option (List Char × List Char) :=
  match text with
  | [] => none
  | quote :: rest =>
    if quote = '"' || quote = '\'' then
      match rest.dropWhile (· != quote) with
      | [] => none
      | _ :: after =>
        some ((rest.takeWhile (· != quote)).map Char.toLower, after.dropWhile isBlank)
    else none

/-- The starts of the identifiers of old types of documents. -/
def oldIdentifiers : List String :=
  ["-//ietf//dtd html", "-//w3c//dtd html 3", "-//w3c//dtd html 4.0 frameset//",
   "-//w3c//dtd html 4.0 transitional//", "-//w3c//dtd html experimental", "-//w3o//dtd w3 html"]

/-- The starts of identifiers that are old unless a second one follows. -/
def looseIdentifiers : List String :=
  ["-//w3c//dtd html 4.01 frameset//", "-//w3c//dtd html 4.01 transitional//"]

/-- Whether the declaration of a type asks for the rules of old documents. The
text is what stands between its keyword and its end. -/
def isOldDoctype (text : List Char) : Bool :=
  let text := text.dropWhile isBlank
  let name := (text.takeWhile (fun c => !isBlank c)).map Char.toLower
  let rest := (text.dropWhile (fun c => !isBlank c)).dropWhile isBlank
  if name ≠ "html".toList then true
  else if rest.isEmpty then false
  else if startsWith "public" rest then
    match readIdentifier ((rest.drop 6).dropWhile isBlank) with
    | none => true
    | some (identifier, rest) =>
      oldIdentifiers.any (fun start => startsWith start identifier) ||
        identifier == "html".toList || identifier == "-/w3c/dtd html 4.0 transitional/en".toList ||
        (rest.isEmpty && looseIdentifiers.any (fun start => startsWith start identifier)) ||
        (!rest.isEmpty && (readIdentifier rest).isNone)
  else if startsWith "system" rest then (readIdentifier ((rest.drop 6).dropWhile isBlank)).isNone
  else true

/-- What starts with an exclamation mark after a less-than sign: a comment, the
declaration of the type or, where it is allowed, a section of text. -/
def readDeclaration (allowsSection : Bool) (text : List Char) : Option Token × List Char :=
  if startsWith "--" text then
    let (content, rest) := readComment (text.drop 2)
    (some (.comment (String.ofList (cleaned content))), rest)
  else if startsWith "doctype" text then
    let content := (text.drop 7).takeWhile (· != '>')
    let rest := text.drop (7 + content.length)
    (some (.doctype (rest.isEmpty || isOldDoctype content)), rest.drop 1)
  else if allowsSection && "[CDATA[".toList.isPrefixOf text then
    let (content, rest) := readSection (text.drop 7)
    (if content.isEmpty then none else some (.characters content), rest)
  else
    let (token, rest) := readLooseComment text
    (some token, rest)

/-- What a less-than sign starts. -/
def readMarkup (allowsSection : Bool) (text : List Char) : Option Token × List Char :=
  match text with
  | '!' :: rest => readDeclaration allowsSection rest
  | '?' :: _ =>
    let (token, rest) := readLooseComment text
    (some token, rest)
  | '/' :: '>' :: rest => (none, rest)
  | '/' :: c :: rest =>
    if Text.isAsciiLetter c then
      match readTag (c :: rest) with
      | some (tag, rest) => (some (.endTag tag), rest)
      | none => (none, [])
    else
      let (token, rest) := readLooseComment (c :: rest)
      (some token, rest)
  | c :: rest =>
    if Text.isAsciiLetter c then
      match readTag (c :: rest) with
      | some (tag, rest) => (some (.startTag tag), rest)
      | none => (none, [])
    else (some (.characters ['<']), text)
  | [] => (some (.characters ['<']), [])

/-- Whether a text, after a less-than sign, is the end tag of an element. -/
def isEndTagOf (element : String) (text : List Char) : Bool :=
  text.head? == some '/' && startsWith element (text.drop 1) &&
    (text[element.length + 1]?).any endsName

/-- The text up to the end tag of an element. -/
def untilEndTag (element : String) : List Char → List Char
  | [] => []
  | c :: rest =>
    if c = '<' && isEndTagOf element rest then [] else c :: untilEndTag element rest

/-- How far a script is commented out. -/
inductive ScriptState where
  /-- Not at all. -/
  | ordinary
  /-- In a comment. -/
  | commented
  /-- In a script that a comment holds. -/
  | nested
  deriving Repr, DecidableEq

/-- The text of a script up to its end tag. Inside a comment that holds a script
the end tag ends that script only. The number of dashes just read is given. -/
def untilScriptEnd (state : ScriptState) (dashes : Nat) : List Char → List Char
  | [] => []
  | c :: rest =>
    if c = '<' then
      let isEnd := isEndTagOf "script" rest
      let isStart := startsWith "script" rest && (rest[6]?).any endsName
      match state with
      | .nested => c :: untilScriptEnd (if isEnd then .commented else .nested) 0 rest
      | .commented =>
        if isEnd then [] else c :: untilScriptEnd (if isStart then .nested else .commented) 0 rest
      | .ordinary =>
        if isEnd then []
        else c :: untilScriptEnd (if startsWith "!--" rest then .commented else .ordinary) 0 rest
    else if c = '-' then c :: untilScriptEnd state (dashes + 1) rest
    else if c = '>' && dashes ≥ 2 then c :: untilScriptEnd .ordinary 0 rest
    else c :: untilScriptEnd state 0 rest

/-- A text of an element and what follows it, or its end tag where there is no
text left. -/
def readText (content : List Char) (resolves : Bool) (text : List Char) :
    Option Token × List Char :=
  if content.isEmpty then readMarkup false (text.drop 1)
  else
    let shown := cleaned content
    (some (.characters (if resolves then resolveReferences false shown else shown)),
      text.drop content.length)

/-- Read what comes next in a text that is not empty: a token, if there is one,
and what is left of the text. -/
def read (mode : ContentMode) (allowsSection : Bool) (text : List Char) :
    Option Token × List Char :=
  match mode with
  | .markup =>
    match text with
    | '<' :: rest => readMarkup allowsSection rest
    | text =>
      (some (.characters (resolveReferences false (text.takeWhile (· != '<')))),
        text.dropWhile (· != '<'))
  | .resolvedText element => readText (untilEndTag element text) true text
  | .rawText element => readText (untilEndTag element text) false text
  | .script => readText (untilScriptEnd .ordinary 0 text) false text
  | .plain => (some (.characters (cleaned text)), [])

end Token

end Questionnaire.Html
