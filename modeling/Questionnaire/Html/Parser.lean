/-
# Reading documents

A text is read as a document token by token. A byte-order mark at its start is
dropped and all line ends are line feeds. Every text is a document; what is
missing in it is put in, and its root is always there.
-/

import Questionnaire.Html.Foreign

namespace Questionnaire.Html

/-- The text with line feeds as its only line ends. -/
def unifyLineEnds : List Char → List Char
  | [] => []
  | '\r' :: '\n' :: rest => '\n' :: unifyLineEnds rest
  | '\r' :: rest => '\n' :: unifyLineEnds rest
  | c :: rest => c :: unifyLineEnds rest

/-- The kind of a character in text: a null, white space or something else. -/
def characterKind (c : Char) : Nat :=
  if c = '\x00' then 0 else if Token.isBlank c then 1 else 2

/-- The item of a run of characters of one kind. -/
def itemOfRun (run : List Char) : Item :=
  match run with
  | [] => .blanks []
  | c :: _ =>
    match characterKind c with
    | 0 => .nulls
    | 1 => .blanks run
    | _ => .letters run

/-- The items of a text. -/
def itemsOfText (text : List Char) : List Item :=
  (text.splitBy (fun one two => characterKind one == characterKind two)).map itemOfRun

/-- The items of a token. -/
def itemsOf : Token → List Item
  | .doctype isOld => [.doctype isOld]
  | .startTag tag => [.startTag tag]
  | .endTag tag => [.endTag tag.name]
  | .comment content => [.comment content]
  | .characters text => itemsOfText text

namespace Builder

/-- Deal with an item, looking at it so often at most. -/
def take (item : Item) : Nat → Builder → Builder
  | 0, builder => builder
  | looks + 1, builder =>
    let outcome := if builder.isForeign item then builder.foreignRule item
      else builder.ordinaryRule item
    match outcome with
    | .done builder => builder
    | .again builder => take item looks builder

/-- How often an item may be looked at: every time something is closed or the
place in the structure comes nearer to the body. -/
def looks (builder : Builder) : Nat := 4 * builder.openElements.length + 40

/-- Deal with an item. -/
def accept (builder : Builder) (item : Item) : Builder :=
  builder.take item builder.looks

/-- The token without the line feed that is left out behind some start tags. -/
def withoutLineFeed (builder : Builder) (token : Token) : Token :=
  match token with
  | .characters ('\n' :: rest) => if builder.skipsLineFeed then .characters rest else token
  | _ => token

/-- Deal with a token. -/
def acceptToken (builder : Builder) (token : Token) : Builder :=
  (itemsOf (builder.withoutLineFeed token)).foldl accept { builder with skipsLineFeed := false }

/-- Read a text to its end, token by token, at most the given number of them. -/
def readTokens (builder : Builder) : Nat → List Char → Builder
  | 0, _ => builder.accept .finish
  | _ + 1, [] => builder.accept .finish
  | remaining + 1, text =>
    let allowsSection := !builder.openElements.isEmpty &&
      builder.vocabularyOf builder.current != .html
    let (token, rest) := Token.read builder.content allowsSection text
    ((token.map builder.acceptToken).getD builder).readTokens remaining rest

/-- Read a text to its end. Every token takes at least one of its characters. -/
def read (builder : Builder) (text : List Char) : Builder :=
  builder.readTokens text.length text

end Builder

/-- The root element of the document that a text is. -/
def parse (text : String) : Element :=
  let characters := text.toList
  let marked := if characters.head? = some '\ufeff' then characters.drop 1 else characters
  (Builder.start.read (unifyLineEnds marked)).draft.root

end Questionnaire.Html
