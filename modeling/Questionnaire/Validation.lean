/-
# Validation of answers

Every field judges the parameter under its own id. A required field wants an
answer that is not empty. Any other field is judged by its kind even when there
is no answer, as if the answer were the empty text. Complaints come in the order
of the fields, at most one for each.
-/

import Questionnaire.Answer
import Questionnaire.Email
import Questionnaire.Number.Decimal
import Questionnaire.Pattern.Parser
import Questionnaire.Url.Basic

namespace Questionnaire

/-- Whether an answer is valid for a kind of field. Only boxes want a list of
texts; kinds without rules take every answer. -/
def FieldKind.accepts (kind : FieldKind) (answer : Answer) : Bool :=
  match kind with
  | .number => answer.single?.any isNumeric
  | .email => answer.single?.any Email.isAddress
  | .url => answer.single?.any Url.isHosted
  | .radio values => answer.single?.any values.contains
  | .select values => answer.single?.any values.contains
  | .checkbox values =>
    match answer with
    | .multiple texts => texts.all values.contains
    | .single _ => false
  | .text (some pattern) => answer.single?.any (TextPattern.occurs pattern)
  | .text none => true
  | .textarea => true
  | .other _ => true

/-- What is wrong with an answer. -/
inductive Fault where
  /-- A required answer is missing or empty. -/
  | empty
  /-- The answer is not valid for the kind of field. -/
  | invalid
  deriving Repr, DecidableEq

/-- The fault in words. -/
def Fault.text : Fault → String
  | .empty => "Empty"
  | .invalid => "Invalid value"

/-- A fault in the answer to a field. -/
@[ext]
structure Complaint where
  /-- The name of the field. -/
  name : String
  /-- What is wrong. -/
  fault : Fault
  deriving Repr, DecidableEq

/-- The complaint in words. -/
def Complaint.message (complaint : Complaint) : String :=
  complaint.name ++ ": " ++ complaint.fault.text

/-- Complaints in order. -/
abbrev Complaints := List Complaint

namespace Complaints

/-- The complaints in words. -/
def messages (complaints : Complaints) : List String :=
  complaints.map Complaint.message

/-- The complaints as text, each on a line of its own. -/
def report (complaints : Complaints) : String :=
  String.ofList (complaints.flatMap (fun complaint => complaint.message.toList ++ ['\n']))

/-- The faults in answers to fields of a name. -/
def faultsOf (complaints : Complaints) (name : String) : List Fault :=
  (complaints.filter (fun complaint => complaint.name == name)).map Complaint.fault

end Complaints

/-- The fault in the answer to a field, given the answer if there is one. -/
def Field.faultIn (field : Field) (answer : Option Answer) : Option Fault :=
  if field.required && !answer.any (fun given => !given.isEmpty) then some .empty
  else if field.kind.accepts (answer.getD (.single "")) then none
  else some .invalid

/-- The complaints of fields about parameters. -/
def Parameters.complaints (parameters : Parameters) (fields : List Field) : Complaints :=
  fields.filterMap fun field =>
    (field.faultIn (parameters.get? field.id)).map (fun fault => ⟨field.name, fault⟩)

/-- The complaints of fields about answers whose names a name map takes to ids. -/
def validate (answers : Answers) (fields : List Field) (names : NameMap) : Complaints :=
  (Parameters.ofAnswers answers names).complaints fields

end Questionnaire
