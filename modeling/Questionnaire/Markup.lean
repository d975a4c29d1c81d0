/-
# Markup for fields

Every field has markup with which a page can ask for it by its name. Groups of
buttons and boxes give one labelled control for each value, a list gives its
entries, and all other kinds give one control. Markup is a list of tags and
texts, which is then written out. An attribute with an empty value is written
as its bare name.
-/

import Questionnaire.Field

namespace Questionnaire

/-- A piece of markup. -/
inductive Markup where
  /-- A start tag with its attributes in order. -/
  | startTag (name : String) (attributes : List (String × String))
  /-- The tag of an element that has no content and no end tag. -/
  | voidTag (name : String) (attributes : List (String × String))
  /-- An end tag. -/
  | endTag (name : String)
  /-- A text. -/
  | text (content : String)
  deriving Repr, DecidableEq

namespace Markup

/-- One character of a text. -/
def escapeText (c : Char) : List Char :=
  if c == '&' then "&amp;".toList
  else if c == '<' then "&lt;".toList
  else if c == '>' then "&gt;".toList
  else [c]

/-- One character of an attribute value. -/
def escapeValue (c : Char) : List Char :=
  if c == '"' then "&quot;".toList
  else if c == '\'' then "&#x27;".toList
  else escapeText c

/-- One attribute and the space before it. -/
def renderAttribute (entry : String × String) : List Char :=
  ' ' :: entry.1.toList ++
    (if entry.2 = "" then []
      else '=' :: '"' :: entry.2.toList.flatMap escapeValue ++ ['"'])

/-- One piece of markup as it is written. -/
def renderPiece : Markup → List Char
  | .startTag name attributes =>
    '<' :: name.toList ++ attributes.flatMap renderAttribute ++ ['>']
  | .voidTag name attributes =>
    '<' :: name.toList ++ attributes.flatMap renderAttribute ++ [' ', '/', '>']
  | .endTag name => '<' :: '/' :: name.toList ++ ['>']
  | .text content => content.toList.flatMap escapeText

/-- Markup as it is written. -/
def render (pieces : List Markup) : String :=
  String.ofList (pieces.flatMap renderPiece)

end Markup

namespace Field

/-- The attribute that marks a required field. -/
def requiredAttribute (field : Field) : List (String × String) :=
  if field.required then [("required", "")] else []

/-- The labelled control of one value of a group. -/
def choiceMarkup (field : Field) (value : String) : List Markup :=
  [.startTag "label" [],
    .voidTag "input"
      ([("type", field.kind.token), ("name", field.name), ("value", value)] ++
        field.requiredAttribute),
    .text value,
    .endTag "label"]

/-- The entry of one value of a list. -/
def optionMarkup (value : String) : List Markup :=
  [.startTag "option" [("value", value)], .text value, .endTag "option"]

/-- The markup that asks for a field. -/
def markup (field : Field) : List Markup :=
  match field.kind with
  | .radio values => values.flatMap field.choiceMarkup
  | .checkbox values => values.flatMap field.choiceMarkup
  | .select values =>
    .startTag "select" (("name", field.name) :: field.requiredAttribute) ::
      values.flatMap optionMarkup ++ [.endTag "select"]
  | .textarea =>
    [.startTag "textarea" (("name", field.name) :: field.requiredAttribute), .endTag "textarea"]
  | kind =>
    let pattern := kind.pattern?.getD ""
    [.voidTag "input"
      ([("type", kind.token), ("name", field.name)] ++ field.requiredAttribute ++
        (if pattern = "" then [] else [("pattern", pattern)]))]

/-- The written markup that asks for a field. -/
def html (field : Field) : String :=
  Markup.render field.markup

end Field

end Questionnaire
