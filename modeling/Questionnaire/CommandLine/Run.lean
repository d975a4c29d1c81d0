/-
# Commands

A command reads a saved page, and the answers of a file where it wants them, and
says what to print. The page is read before the answers, and the first thing
that goes wrong is reported with the file it happened to. Files are read through
a function from paths to texts.
-/

import Questionnaire.CommandLine.Arguments
import Questionnaire.Form
import Questionnaire.Json.Parser
import Questionnaire.Json.Shape

namespace Questionnaire.CommandLine

/-- What went wrong with a file. -/
inductive CommandError where
  /-- The page cannot be read. -/
  | unreadablePage (path : String)
  /-- The page has no form. -/
  | noForm (path : String)
  /-- The file with answers cannot be read. -/
  | unreadableValues (path : String)
  /-- The file with answers holds something else. -/
  | noAnswers (path : String)
  deriving Repr, DecidableEq

/-- The error in words. -/
def CommandError.message : CommandError → String
  | .unreadablePage path => "failed to read form page " ++ path
  | .noForm path => "failed to extract form from " ++ path
  | .unreadableValues path => "failed to read values file " ++ path
  | .noAnswers path => "values file " ++ path ++ " is not a JSON object of strings"

/-- Files by their paths. A path without a text cannot be read. -/
abbrev Files := String → Option String

/-- The form of a saved page. -/
def loadForm (files : Files) (path : String) : Except CommandError Form :=
  match files path with
  | none => .error (.unreadablePage path)
  | some page =>
    match Form.parse? page with
    | none => .error (.noForm path)
    | some form => .ok form

/-- The answers of a file. -/
def loadAnswers (files : Files) (path : String) : Except CommandError Answers :=
  match files path with
  | none => .error (.unreadableValues path)
  | some text =>
    match (Json.parse? text).map Answers.ofJson with
    | some (.ok answers) => .ok answers
    | _ => .error (.noAnswers path)

/-- The fields of a form as JSON over several lines. -/
def fieldsReport (form : Form) : String :=
  Json.pretty (.array (form.fields.map Field.profile))

/-- The report on answers. -/
structure Report where
  /-- Whether the answers are valid. -/
  isValid : Bool
  /-- What to print. -/
  output : String
  deriving Repr, DecidableEq

/-- The report on the answers to a form: `ok`, or one line for each complaint. -/
def validationReport (form : Form) (answers : Answers) : Report :=
  let complaints := form.complaints answers
  if complaints.isEmpty then ⟨true, "ok"⟩
  else ⟨false, String.intercalate "\n" complaints.messages⟩

/-- The address of a form and the body that submits the answers to it. -/
def parametersReport (form : Form) (answers : Answers) : String :=
  form.url ++ "\n" ++ form.body answers

/-- Print the fields of a page. -/
def fields (files : Files) (page : String) : Except CommandError String :=
  (loadForm files page).map fieldsReport

/-- Judge the answers of a file. -/
def validate (files : Files) (page values : String) : Except CommandError Report := do
  let form ← loadForm files page
  let answers ← loadAnswers files values
  .ok (validationReport form answers)

/-- Print what submits the answers of a file. -/
def parameters (files : Files) (page values : String) : Except CommandError String := do
  let form ← loadForm files page
  let answers ← loadAnswers files values
  .ok (parametersReport form answers)

/-- The end of a run. -/
structure Ending where
  /-- What is printed. -/
  output : String
  /-- What is reported apart from that. -/
  complaint : String
  /-- The exit code: 0 for success, 1 for a failure, 2 for wrong usage. -/
  code : Nat
  deriving Repr, DecidableEq

/-- How the program is used. -/
def usage : String :=
  "Usage: gform [-v] fields PAGE\n" ++
  "       gform [-v] validate PAGE --values FILE\n" ++
  "       gform [-v] params PAGE --values FILE\n"

/-- The version of the program. -/
def versionText : String := "gform 0.1.0\n"

/-- A text to print that finds no fault. -/
def Report.ofOutput (output : String) : Report := ⟨true, output⟩

/-- The ending of a command that prints a line or fails. -/
def endingOf : Except CommandError Report → Ending
  | .error error => ⟨"", "Error: " ++ error.message ++ "\n", 1⟩
  | .ok report => ⟨report.output ++ "\n", "", if report.isValid then 0 else 1⟩

/-- Carry out a command. -/
def Command.run (files : Files) : Command → Ending
  | .fields page => endingOf ((CommandLine.fields files page).map Report.ofOutput)
  | .validate page values => endingOf (CommandLine.validate files page values)
  | .parameters page values =>
    endingOf ((CommandLine.parameters files page values).map Report.ofOutput)

/-- The files that a command reads. -/
def Command.paths : Command → List String
  | .fields page => [page]
  | .validate page values => [page, values]
  | .parameters page values => [page, values]

/-- Do what the arguments ask for. -/
def run (files : Files) (arguments : List String) : Ending :=
  match request arguments with
  | .version => ⟨versionText, "", 0⟩
  | .help => ⟨usage, "", 0⟩
  | .wrongUsage => ⟨"", usage, 2⟩
  | .run command => command.run files

end Questionnaire.CommandLine
