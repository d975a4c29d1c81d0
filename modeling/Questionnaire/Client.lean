/-
# Clients

A client loads one form at a time, judges answers and submits them. It meets the
web as a transport, which may answer every call as it likes, also depending on
the calls before, and as a reader that takes every page to a document. A client
keeps its options, the form that was loaded last, the messages of all complaints,
and the calls it made. Failing to load a page changes none of the first three.
-/

import Questionnaire.Form
import Questionnaire.Markup
import Questionnaire.Options

namespace Questionnaire

open Html

/-- A call of a transport. -/
inductive Call where
  /-- Fetch a page. -/
  | fetch (url : String) (options : Options)
  /-- Submit a body to an address. -/
  | submit (url : String) (body : String) (options : Options)
  deriving Repr, DecidableEq

/-- Why a transport did not answer. -/
structure TransportError where
  /-- What went wrong. -/
  message : String
  /-- What caused it, if that is known. -/
  cause : Option String
  deriving Repr, DecidableEq

/-- A transport: its answer to a call after earlier calls. -/
abbrev Transport := List Call → Call → Except TransportError String

/-- The web as a client meets it. -/
structure Web where
  /-- What answers the calls. -/
  transport : Transport
  /-- The root element of the document that a page is read as. -/
  document : String → Element

/-- The web behind a transport, whose pages are read as HTML. -/
def Web.through (transport : Transport) : Web := ⟨transport, Html.parse⟩

/-- Why a client did not do what it was asked for. -/
inductive FormError where
  /-- The page has no form. -/
  | missingForm
  /-- No form is loaded. -/
  | notLoaded
  /-- The transport failed. -/
  | transport (error : TransportError)
  deriving Repr

namespace FormError

/-- The error in words. -/
def message : FormError → String
  | .missingForm => "no form element found in document"
  | .notLoaded => "no form document loaded"
  | .transport error => "transport error: " ++ error.message

/-- What caused the error, the nearest cause first. -/
def causes : FormError → List String
  | .transport error => error.message :: error.cause.toList
  | _ => []

end FormError

/-- A client. -/
structure Client where
  /-- The options of its calls. -/
  options : Options
  /-- The form that was loaded last. -/
  form : Option Form
  /-- The messages of all complaints. -/
  log : List String
  /-- The calls it made, the first one first. -/
  calls : List Call
  deriving Repr, DecidableEq

namespace Client

/-- A client that has done nothing. -/
def start (options : Options) : Client := ⟨options, none, [], []⟩

/-- The fields of the loaded form. -/
def fields (client : Client) : List Field :=
  (client.form.map Form.fields).getD []

/-- Make a call. -/
def call (client : Client) (web : Web) (request : Call) :
    Client × Except TransportError String :=
  ({ client with calls := client.calls ++ [request] }, web.transport client.calls request)

/-- Load the form of a page. -/
def loadPage (client : Client) (web : Web) (page : String) : Client × Except FormError Form :=
  match Form.ofTree? (web.document page) with
  | none => (client, .error .missingForm)
  | some form => ({ client with form := some form }, .ok form)

/-- Fetch a page and load its form. -/
def load (client : Client) (web : Web) (url : String) : Client × Except FormError Form :=
  match client.call web (.fetch url client.options) with
  | (called, .error error) => (called, .error (.transport error))
  | (called, .ok page) => called.loadPage web page

/-- Judge answers and keep the messages of the complaints. -/
def validate (client : Client) (answers : Answers) : Client × Except FormError Bool :=
  match client.form with
  | none => (client, .error .notLoaded)
  | some form =>
    let complaints := form.complaints answers
    ({ client with log := client.log ++ complaints.messages }, .ok complaints.isEmpty)

/-- Judge answers and submit them if they are valid. The result is whether they
were valid, the transport answered, and its answer accepts them. -/
def post (client : Client) (web : Web) (answers : Answers) : Client × Bool :=
  match client.form, client.validate answers with
  | some form, (judged, .ok true) =>
    match judged.call web (.submit form.url (form.body answers) judged.options) with
    | (called, .ok response) => (called, !showsForm (web.document response))
    | (called, .error _) => (called, false)
  | _, (judged, _) => (judged, false)

/-- The parameters that answers are submitted as. Without a form there are none. -/
def parameters (client : Client) (answers : Answers) : Parameters :=
  (client.form.map (fun form => form.parameters answers)).getD ∅

/-- The names of the fields and the markup that asks for them. -/
def markup (client : Client) : List (String × String) :=
  client.fields.map (fun field => (field.name, field.html))

/-- Set one option. -/
def setOption (client : Client) (key : String) (value : Json) : Client × Option OptionError :=
  match client.options.set key value with
  | .ok options => ({ client with options }, none)
  | .error error => (client, some error)

/-- Make several settings up to the first one that fails. -/
def mergeOptions (client : Client) (settings : Dictionary Json) : Client × Option OptionError :=
  let (options, error) := client.options.merge settings
  ({ client with options }, error)

end Client

end Questionnaire
