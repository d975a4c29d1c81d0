/-
# Answers and submission parameters

People answer by the names of fields; a form is submitted under their ids. An
answer is one text or a list of texts. The name map of a form takes names to
ids, and taking answers through it drops the answers to names that the map
does not hold. Where several names share an id, the greatest of them decides.
-/

import Questionnaire.Dictionary
import Questionnaire.Field

namespace Questionnaire

/-- An answer to one question. -/
inductive Answer where
  /-- One text. -/
  | single (text : String)
  /-- Any number of texts. -/
  | multiple (texts : List String)
  deriving Repr, DecidableEq

namespace Answer

/-- Whether nothing is answered: the empty text or no text at all. -/
def isEmpty : Answer → Bool
  | .single text => text == ""
  | .multiple texts => texts.isEmpty

/-- The text of an answer that is one text. -/
def single? : Answer → Option String
  | .single text => some text
  | .multiple _ => none

/-- The texts of an answer in order. -/
def texts : Answer → List String
  | .single text => [text]
  | .multiple texts => texts

/-- The answer as a JSON value. -/
def toJson : Answer → Json
  | .single text => .string text
  | .multiple texts => Json.ofStrings texts

/-- A JSON value as an answer: a string or an array of strings. -/
def ofJson? : Json → Option Answer
  | .string text => some (.single text)
  | value => value.strings?.map .multiple

end Answer

/-- Answers by the names of fields. -/
abbrev Answers := Dictionary Answer

/-- Answers by the ids of fields. -/
abbrev Parameters := Dictionary Answer

/-- The ids of fields by their names. -/
abbrev NameMap := Dictionary String

/-- The name map of a list of fields. Of several fields with one name the last
one counts. -/
def NameMap.ofFields (fields : List Field) : NameMap :=
  Dictionary.ofList (fields.map (fun field => (field.name, field.id)))

/-- Take answers from names to ids. The answers are visited in ascending
order of their names, and a later one takes the place of an earlier one with
the same id. -/
def Parameters.ofAnswers (answers : Answers) (names : NameMap) : Parameters :=
  Dictionary.ofList (answers.entries.filterMap fun entry =>
    (names.get? entry.1).map fun id => (id, entry.2))

/-- The pairs that the parameters submit: in ascending order of the ids, and one
pair for each text of an answer. -/
def Parameters.pairs (parameters : Parameters) : List (String × String) :=
  parameters.entries.flatMap (fun entry => entry.2.texts.map (fun text => (entry.1, text)))

end Questionnaire
