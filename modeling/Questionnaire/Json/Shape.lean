/-
# Values of the wrong shape

A reader that expects a certain shape of JSON value says what it found and what
it wanted. Found values are named by their type, and scalars are shown.
-/

import Questionnaire.Answer
import Questionnaire.Json.Printer
import Questionnaire.Text.Quoted

namespace Questionnaire

/-- The name of a value: its type, and what it is where it is a scalar. -/
def Json.description : Json → String
  | .null => "null"
  | .boolean value => "boolean `" ++ (if value then "true" else "false") ++ "`"
  | .number (.floating isNegative magnitude) =>
    "floating point `" ++ Json.renderNumber (.floating isNegative magnitude) ++ "`"
  | .number value => "integer `" ++ Json.renderNumber value ++ "`"
  | .string value => "string " ++ Text.quoted value
  | .array _ => "sequence"
  | .object _ => "map"

/-- Why a value does not have the shape that a reader wants. -/
inductive ShapeError where
  /-- The value is of another type. -/
  | wrongType (found : Json) (wanted : String)
  /-- The value is of the right type and out of range. -/
  | wrongValue (found : Json) (wanted : String)
  /-- A list has more items than there is use for. -/
  | tooLong (length : Nat)
  /-- An answer is neither a text nor a list of texts. -/
  | noAnswer
  deriving Repr

/-- The error in words. -/
def ShapeError.message : ShapeError → String
  | .wrongType found wanted => "invalid type: " ++ found.description ++ ", expected " ++ wanted
  | .wrongValue found wanted => "invalid value: " ++ found.description ++ ", expected " ++ wanted
  | .tooLong length =>
    "invalid length " ++ toString length ++ ", expected fewer elements in array"
  | .noAnswer => "data did not match any variant of untagged enum FieldValue"

/-- Read members as answers, up to the first one that is none. -/
def Answers.ofMembers : List (String × Json) → Except ShapeError (List (String × Answer))
  | [] => .ok []
  | (name, value) :: rest =>
    match Answer.ofJson? value with
    | none => .error .noAnswer
    | some answer =>
      match Answers.ofMembers rest with
      | .error error => .error error
      | .ok answers => .ok ((name, answer) :: answers)

/-- Read an object as answers. Every member is judged, and the last one of each
name is kept. -/
def Answers.ofJson : Json → Except ShapeError Answers
  | .object members =>
    match Answers.ofMembers members with
    | .error error => .error error
    | .ok answers => .ok (Dictionary.ofList answers)
  | value => .error (.wrongType value "a map")

/-- Answers or parameters as a JSON object. -/
def Answers.toJson (answers : Answers) : Json :=
  .object (answers.entries.map (fun entry => (entry.1, entry.2.toJson)))

end Questionnaire
