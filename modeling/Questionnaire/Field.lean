/-
# Fields of a form

A field is what a form asks for: an id under which the answer is submitted, a
name and a label for people, whether an answer is required, and a kind that
says which answers are valid. The kind is chosen by a type token of the page.
A token that names no kind is kept, and its fields take every answer.
-/

import Questionnaire.Json.Basic

namespace Questionnaire

/-- What kind of answer a field takes. -/
inductive FieldKind where
  /-- One line of text, with an optional pattern to look for in it. -/
  | text (pattern : Option String)
  /-- A decimal number. -/
  | number
  /-- An e-mail address. -/
  | email
  /-- A web address. -/
  | url
  /-- Text of any length. -/
  | textarea
  /-- One value of a list. -/
  | select (values : List String)
  /-- One value of a group of buttons. -/
  | radio (values : List String)
  /-- Any values of a group of boxes. -/
  | checkbox (values : List String)
  /-- A kind that is not known, with its token. -/
  | other (token : String)
  deriving Repr, DecidableEq

namespace FieldKind

/-- The kind that a token stands for. Values and pattern are used by the kinds
that have them, and an empty pattern is no pattern. -/
def ofToken (token : String) (values : List String) (pattern : Option String) : FieldKind :=
  if token = "text" then .text (pattern.filter (fun source => source != ""))
  else if token = "number" then .number
  else if token = "email" then .email
  else if token = "url" then .url
  else if token = "textarea" then .textarea
  else if token = "select" then .select values
  else if token = "radio" then .radio values
  else if token = "checkbox" then .checkbox values
  else .other token

/-- The token of a kind. -/
def token : FieldKind → String
  | .text _ => "text"
  | .number => "number"
  | .email => "email"
  | .url => "url"
  | .textarea => "textarea"
  | .select _ => "select"
  | .radio _ => "radio"
  | .checkbox _ => "checkbox"
  | .other token => token

/-- The values of a kind that offers a choice. -/
def values? : FieldKind → Option (List String)
  | .select values => some values
  | .radio values => some values
  | .checkbox values => some values
  | _ => none

/-- The pattern of a text kind. -/
def pattern? : FieldKind → Option String
  | .text pattern => pattern
  | _ => none

end FieldKind

/-- A field of a form. -/
@[ext]
structure Field where
  /-- The name under which the answer is submitted. -/
  id : String
  /-- The name by which people answer. -/
  name : String
  /-- The help text. -/
  label : String
  /-- Whether an answer must be given. -/
  required : Bool
  /-- Which answers are valid. -/
  kind : FieldKind
  deriving Repr, DecidableEq

namespace Field

/-- A field whose label is its name where none is given. -/
def labelled (id name label : String) (required : Bool) (kind : FieldKind) : Field :=
  ⟨id, name, if label = "" then name else label, required, kind⟩

/-- The flat description of a field, with `null` for values and a pattern that
its kind does not have. -/
def profile (field : Field) : Json :=
  .object [
    ("id", .string field.id),
    ("name", .string field.name),
    ("label", .string field.label),
    ("required", .boolean field.required),
    ("type", .string field.kind.token),
    ("values", (field.kind.values?.map Json.ofStrings).getD .null),
    ("pattern", Json.ofOptionalString field.kind.pattern?)]

end Field

end Questionnaire
