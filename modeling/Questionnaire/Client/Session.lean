/-
# Sessions with a client

A session is everything that a client is asked for, one request after the other:
operations, and questions about the client as it is between them. Every request
gets a response, and only operations change the client.
-/

import Questionnaire.Client.Operation

namespace Questionnaire

/-- What a client can be asked about itself. -/
inductive Question where
  /-- All options. -/
  | options
  /-- The value of one option. -/
  | option (key : String)
  /-- The form that was loaded last. -/
  | form
  /-- Its fields. -/
  | fields
  /-- Its name map. -/
  | names
  /-- The address that it is submitted to. -/
  | url
  /-- The parameters that answers are submitted as. -/
  | parameters (answers : Answers)
  /-- The messages of all complaints. -/
  | log
  /-- The names of the fields and the markup that asks for them. -/
  | markup

/-- What a client says about itself. -/
inductive Reply where
  /-- All options. -/
  | options (options : Options)
  /-- The value of an option, if there is one of that name. -/
  | option (value : Option Json)
  /-- The form, if one is loaded. -/
  | form (form : Option Form)
  /-- The fields, none without a form. -/
  | fields (fields : List Field)
  /-- The name map, if a form is loaded. -/
  | names (names : Option NameMap)
  /-- The address, if a form is loaded. -/
  | url (url : Option String)
  /-- The parameters, none without a form. -/
  | parameters (parameters : Parameters)
  /-- The messages in the order of the complaints. -/
  | log (messages : List String)
  /-- The markup of each field. -/
  | markup (entries : List (String × String))

/-- What a client can be asked for. -/
inductive Request where
  /-- Do something. -/
  | operate (operation : Operation)
  /-- Say something about itself. -/
  | ask (question : Question)

/-- What comes of a request. -/
inductive Response where
  /-- What came of an operation. -/
  | outcome (outcome : Outcome)
  /-- What a question was answered. -/
  | reply (reply : Reply)

namespace Client

/-- Answer a question. -/
def answer (client : Client) : Question → Reply
  | .options => .options client.options
  | .option key => .option (client.options.get? key)
  | .form => .form client.form
  | .fields => .fields client.fields
  | .names => .names (client.form.map Form.names)
  | .url => .url (client.form.map Form.url)
  | .parameters answers => .parameters (client.parameters answers)
  | .log => .log client.log
  | .markup => .markup client.markup

/-- Comply with one request. -/
def serve (web : Web) (client : Client) : Request → Client × Response
  | .operate operation =>
    let (changed, outcome) := client.perform web operation
    (changed, .outcome outcome)
  | .ask question => (client, .reply (client.answer question))

/-- Comply with requests from left to right. The responses come in the order of the
requests. -/
def run (web : Web) (client : Client) : List Request → Client × List Response
  | [] => (client, [])
  | request :: rest =>
    let (changed, response) := client.serve web request
    let (final, responses) := changed.run web rest
    (final, response :: responses)

end Client

end Questionnaire
