/-
# A client is its history

What a client knows after a session can be told from the session alone: the form
from the loads that succeeded, the log from the answers that were judged, the
options from the settings, and the calls from the loads and the valid submissions.
The effect of one request is stated once, for all four parts of a client, and
everything about whole sessions is derived from it. Nothing is assumed about the
transport or about the reader of pages.
-/

import Mathlib.Data.List.Forall2
import Mathlib.Data.List.Induction
import Questionnaire.Client.Session

namespace Questionnaire

/-- A moment of a session: the client as it is then, and the request it gets. -/
structure Moment where
  /-- The client before the request. -/
  client : Client
  /-- The request. -/
  request : Request

namespace Moment

/-- The form that a request loads, if it asks for a page, the page is there and the
page has a form. -/
def loaded? (web : Web) (moment : Moment) : Option Form :=
  match moment.request with
  | .operate (.load url) =>
    match web.transport moment.client.calls (.fetch url moment.client.options) with
    | .error _ => none
    | .ok page => Form.ofTree? (web.document page)
  | .operate (.loadPage page) => Form.ofTree? (web.document page)
  | _ => none

/-- The messages of the complaints that the loaded form has about the answers of a
request. Valid answers give none. -/
def messages (moment : Moment) : List String :=
  let about := fun answers =>
    (moment.client.form.map fun form => (form.complaints answers).messages).getD []
  match moment.request with
  | .operate (.validate answers) => about answers
  | .operate (.post answers) => about answers
  | _ => []

/-- The calls that a request leads to: a page to be loaded is fetched, and answers to
be submitted are submitted if the loaded form accepts them. -/
def calls (moment : Moment) : List Call :=
  match moment.request with
  | .operate (.load url) => [.fetch url moment.client.options]
  | .operate (.post answers) =>
    match moment.client.form with
    | none => []
    | some form =>
      if form.accepts answers then
        [.submit form.url (form.body answers) moment.client.options]
      else []
  | _ => []

/-- What a reply to a question says about the options, the form and the log of that moment.
Without a form there are no fields, no markup and no parameters. -/
def Says (moment : Moment) (question : Question) (reply : Reply) : Prop :=
  match question, reply with
  | .options, .options options => options = moment.client.options
  | .option key, .option value => value = moment.client.options.get? key
  | .form, .form form => form = moment.client.form
  | .fields, .fields fields => fields = moment.client.form.elim [] Form.fields
  | .names, .names names => names = moment.client.form.map Form.names
  | .url, .url url => url = moment.client.form.map Form.url
  | .parameters answers, .parameters parameters =>
    parameters = moment.client.form.elim ∅ fun form => form.parameters answers
  | .log, .log messages => messages = moment.client.log
  | .markup, .markup entries =>
    entries = moment.client.form.elim []
      fun form => form.fields.map fun field => (field.name, field.html)
  | _, _ => False

/-- What a response says about a moment. -/
def Reports (web : Web) (moment : Moment) (response : Response) : Prop :=
  match moment.request, response with
  | .operate (.load _), .outcome (.loaded result) => result.toOption = moment.loaded? web
  | .operate (.loadPage _), .outcome (.loaded result) => result.toOption = moment.loaded? web
  | .operate (.validate answers), .outcome (.judged result) =>
    result.toOption = moment.client.form.map fun form => form.accepts answers
  | .operate (.post _), .outcome (.posted accepted) =>
    accepted = true ↔ ∃ submission page, moment.calls = [submission] ∧
      web.transport moment.client.calls submission = .ok page ∧
      showsForm (web.document page) = false
  | .operate (.setOption key value), .outcome (.configured failure) =>
    failure = none ↔ ∃ options, moment.client.options.set key value = .ok options
  | .operate (.mergeOptions settings), .outcome (.configured failure) =>
    failure = (moment.client.options.merge settings).2
  | .ask question, .reply reply => moment.Says question reply
  | _, _ => False

end Moment

namespace Request

/-- The options after a request. Only settings that can be made change them. -/
def settle (options : Options) : Request → Options
  | .operate (.setOption key value) =>
    match options.set key value with
    | .error _ => options
    | .ok changed => changed
  | .operate (.mergeOptions settings) => (options.merge settings).1
  | _ => options

/-- The requests that ask for a form to be loaded. -/
def IsLoad : Request → Prop
  | .operate (.load _) | .operate (.loadPage _) => True
  | _ => False

end Request

namespace Client

variable {web : Web}

/-- The moments of a session. -/
def moments (web : Web) (client : Client) : List Request → List Moment
  | [] => []
  | request :: rest => ⟨client, request⟩ :: (client.serve web request).1.moments web rest

/-! ## One request -/

theorem load_state (client : Client) (url : String) :
    (client.load web url).1 =
      { client with
        form := (Moment.loaded? web ⟨client, .operate (.load url)⟩).or client.form
        calls := client.calls ++ [.fetch url client.options] } := by
  unfold load call
  cases fetched : web.transport client.calls (.fetch url client.options) with
  | error error => simp [Moment.loaded?, fetched]
  | ok page =>
      cases read : Form.ofTree? (web.document page) <;>
        simp [Moment.loaded?, fetched, loadPage, read]

theorem loadPage_state (client : Client) (page : String) :
    (client.loadPage web page).1 =
      { client with form := (Form.ofTree? (web.document page)).or client.form } := by
  unfold loadPage
  cases Form.ofTree? (web.document page) <;> simp

theorem validate_state (client : Client) (answers : Answers) :
    (client.validate answers).1 =
      { client with
        log := client.log ++ Moment.messages ⟨client, .operate (.validate answers)⟩ } := by
  obtain ⟨options, form, log, calls⟩ := client
  cases form <;> simp [validate, Moment.messages]

theorem post_state (client : Client) (answers : Answers) :
    (client.post web answers).1 =
      { client with
        log := client.log ++ Moment.messages ⟨client, .operate (.post answers)⟩
        calls := client.calls ++ Moment.calls ⟨client, .operate (.post answers)⟩ } := by
  obtain ⟨options, form, log, calls⟩ := client
  cases form with
  | none => simp [post, validate, Moment.messages, Moment.calls]
  | some form =>
      cases valid : (form.complaints answers).isEmpty with
      | false => simp [post, validate, valid, Moment.messages, Moment.calls, Form.accepts]
      | true =>
          simp only [post, validate, valid, call, Moment.messages, Moment.calls, Form.accepts]
          cases web.transport calls (.submit form.url (form.body answers) options) <;> rfl

theorem setOption_state (client : Client) (key : String) (value : Json) :
    (client.setOption key value).1 =
      { client with
        options := (Request.operate (.setOption key value)).settle client.options } := by
  cases made : client.options.set key value <;> simp [setOption, Request.settle, made]

/-- What one request does to each part of a client. -/
theorem serve_state (client : Client) (request : Request) :
    (client.serve web request).1 =
      { options := request.settle client.options
        form := (Moment.loaded? web ⟨client, request⟩).or client.form
        log := client.log ++ Moment.messages ⟨client, request⟩
        calls := client.calls ++ Moment.calls ⟨client, request⟩ } := by
  cases request with
  | ask question => simp [serve, Request.settle, Moment.loaded?, Moment.messages, Moment.calls]
  | operate operation =>
      cases operation with
      | load url =>
          show (client.load web url).1 = _
          rw [load_state]
          simp [Request.settle, Moment.messages, Moment.calls]
      | loadPage page =>
          show (client.loadPage web page).1 = _
          rw [loadPage_state]
          simp [Request.settle, Moment.loaded?, Moment.messages, Moment.calls]
      | validate answers =>
          show (client.validate answers).1 = _
          rw [validate_state]
          simp [Request.settle, Moment.loaded?, Moment.calls]
      | post answers =>
          show (client.post web answers).1 = _
          rw [post_state]
          simp [Request.settle, Moment.loaded?]
      | setOption key value =>
          show (client.setOption key value).1 = _
          rw [setOption_state]
          simp [Moment.loaded?, Moment.messages, Moment.calls]
      | mergeOptions settings =>
          simp [serve, perform, mergeOptions, Request.settle, Moment.loaded?, Moment.messages,
            Moment.calls]

/-- A load that fails changes nothing but the calls. -/
theorem serve_failed_load (client : Client) {request : Request} (isLoad : request.IsLoad)
    (failed : Moment.loaded? web ⟨client, request⟩ = none) :
    (client.serve web request).1 =
      { client with calls := client.calls ++ Moment.calls ⟨client, request⟩ } := by
  rw [serve_state, failed, Option.none_or]
  cases request with
  | ask question => exact False.elim isLoad
  | operate operation =>
      cases operation with
      | load url | loadPage page => simp [Request.settle, Moment.messages]
      | validate answers | post answers | setOption key value | mergeOptions settings =>
          exact False.elim isLoad

/-- Answers are submitted and accepted exactly if a submission is made, it is answered,
and the answer shows no form. -/
theorem post_accepted_iff (client : Client) (answers : Answers) :
    (client.post web answers).2 = true ↔
      ∃ submission page, Moment.calls ⟨client, .operate (.post answers)⟩ = [submission] ∧
        web.transport client.calls submission = .ok page ∧
        showsForm (web.document page) = false := by
  obtain ⟨options, form, log, calls⟩ := client
  cases form with
  | none => simp [post, validate, Moment.calls]
  | some form =>
      cases valid : (form.complaints answers).isEmpty with
      | false => simp [post, validate, valid, Moment.calls, Form.accepts]
      | true =>
          simp only [post, validate, valid, call, Moment.calls, Form.accepts]
          cases answered : web.transport calls (.submit form.url (form.body answers) options) <;>
            simp [answered]

/-- A question is answered with what its reader reads. -/
theorem says_answer (client : Client) (request : Request) (question : Question) :
    Moment.Says ⟨client, request⟩ question (client.answer question) := by
  obtain ⟨options, form, log, calls⟩ := client
  cases question with
  | options | option key | form | names | url | log => rfl
  | fields | parameters answers | markup => cases form <;> rfl

/-- The response to a request says what came of it. -/
theorem reports_serve (client : Client) (request : Request) :
    Moment.Reports web ⟨client, request⟩ (client.serve web request).2 := by
  cases request with
  | ask question => exact says_answer client _ question
  | operate operation =>
      cases operation with
      | load url =>
          show (client.load web url).2.toOption = Moment.loaded? web ⟨client, .operate (.load url)⟩
          unfold load call
          cases fetched : web.transport client.calls (.fetch url client.options) with
          | error error => simp [Moment.loaded?, fetched, Except.toOption]
          | ok page =>
              cases read : Form.ofTree? (web.document page) <;>
                simp [Moment.loaded?, fetched, loadPage, read, Except.toOption]
      | loadPage page =>
          show (client.loadPage web page).2.toOption = Form.ofTree? (web.document page)
          unfold loadPage
          cases Form.ofTree? (web.document page) <;> rfl
      | validate answers =>
          show (client.validate answers).2.toOption =
            client.form.map fun form => form.accepts answers
          unfold validate
          cases client.form <;> rfl
      | post answers => exact post_accepted_iff client answers
      | setOption key value =>
          show (client.setOption key value).2 = none ↔ _
          unfold setOption
          cases client.options.set key value <;> simp
      | mergeOptions settings => rfl

section WithForm

variable {client : Client} {form : Form} {answers : Answers}

theorem form_loadPage {page : String} (read : Form.ofTree? (web.document page) = some form) :
    (client.loadPage web page).1.form = some form := by
  rw [loadPage_state, read, Option.some_or]

theorem form_load {url page : String}
    (fetched : web.transport client.calls (.fetch url client.options) = .ok page)
    (read : Form.ofTree? (web.document page) = some form) :
    (client.load web url).1.form = some form := by
  rw [load_state]
  simp [Moment.loaded?, fetched, read]

/-- A client with a form judges answers by it. -/
theorem validate_of_form (loaded : client.form = some form) :
    client.validate answers =
      ({ client with log := client.log ++ (form.complaints answers).messages },
        .ok (form.accepts answers)) := by
  simp [validate, loaded, Form.accepts]

/-- A client with a form submits answers that the form accepts. -/
theorem calls_post_of_accepts (loaded : client.form = some form)
    (accepted : form.accepts answers = true) :
    (client.post web answers).1.calls =
      client.calls ++ [.submit form.url (form.body answers) client.options] := by
  rw [post_state]
  simp [Moment.calls, loaded, accepted]

end WithForm

/-! ## Sessions -/

theorem run_concat (client : Client) (requests : List Request) (request : Request) :
    client.run web (requests ++ [request]) =
      ((((client.run web requests).1).serve web request).1,
        (client.run web requests).2 ++ [(((client.run web requests).1).serve web request).2]) := by
  induction requests generalizing client with
  | nil => rfl
  | cons first rest ih => simp only [List.cons_append, run, ih]

theorem moments_concat (client : Client) (requests : List Request) (request : Request) :
    client.moments web (requests ++ [request]) =
      client.moments web requests ++ [⟨(client.run web requests).1, request⟩] := by
  induction requests generalizing client with
  | nil => rfl
  | cons first rest ih => simp only [List.cons_append, moments, ih, run]

/-- What it means that a client and its responses are the history of a session. -/
structure IsHistory (web : Web) (initial : Options) (requests : List Request) (client : Client)
    (responses : List Response) : Prop where
  /-- The form is the one that was loaded last, if one was. -/
  form : client.form =
    (((start initial).moments web requests).filterMap (Moment.loaded? web)).getLast?
  /-- A further load that fails leaves the form, the options and the log as they are. -/
  failed_load : ∀ request : Request, request.IsLoad →
    Moment.loaded? web ⟨client, request⟩ = none →
    let after := ((start initial).run web (requests ++ [request])).1
    after.form = client.form ∧ after.options = client.options ∧ after.log = client.log
  /-- The log is what was complained about, in order, each time by the form that was
  loaded then. -/
  log : client.log = ((start initial).moments web requests).flatMap Moment.messages
  /-- The options are what the settings make of the first ones. -/
  options : client.options = requests.foldl Request.settle initial
  /-- The calls are those of the requests, in order. -/
  calls : client.calls = ((start initial).moments web requests).flatMap Moment.calls
  /-- The responses say, in order, what came of the requests. -/
  responses : List.Forall₂ (Moment.Reports web) ((start initial).moments web requests) responses

theorem run_form (initial : Options) (requests : List Request) :
    ((start initial).run web requests).1.form =
      (((start initial).moments web requests).filterMap (Moment.loaded? web)).getLast? := by
  induction requests using List.reverseRecOn with
  | nil => rfl
  | append_singleton requests request ih =>
      rw [run_concat, serve_state, moments_concat, List.filterMap_append, ih]
      cases loaded : Moment.loaded? web ⟨((start initial).run web requests).1, request⟩ <;>
        simp [loaded]

theorem run_log (initial : Options) (requests : List Request) :
    ((start initial).run web requests).1.log =
      ((start initial).moments web requests).flatMap Moment.messages := by
  induction requests using List.reverseRecOn with
  | nil => rfl
  | append_singleton requests request ih =>
      rw [run_concat, serve_state, moments_concat, List.flatMap_append, ih, List.flatMap_singleton]

theorem run_options (initial : Options) (requests : List Request) :
    ((start initial).run web requests).1.options = requests.foldl Request.settle initial := by
  induction requests using List.reverseRecOn with
  | nil => rfl
  | append_singleton requests request ih =>
      rw [run_concat, serve_state, List.foldl_append, ih]
      rfl

theorem run_calls (initial : Options) (requests : List Request) :
    ((start initial).run web requests).1.calls =
      ((start initial).moments web requests).flatMap Moment.calls := by
  induction requests using List.reverseRecOn with
  | nil => rfl
  | append_singleton requests request ih =>
      rw [run_concat, serve_state, moments_concat, List.flatMap_append, ih, List.flatMap_singleton]

theorem run_responses (initial : Options) (requests : List Request) :
    List.Forall₂ (Moment.Reports web) ((start initial).moments web requests)
      ((start initial).run web requests).2 := by
  induction requests using List.reverseRecOn with
  | nil => exact .nil
  | append_singleton requests request ih =>
      rw [run_concat, moments_concat]
      exact List.rel_append ih (.cons (reports_serve _ _) .nil)

/-- After any session a new client is exactly the history of the session. -/
theorem run_isHistory (web : Web) (initial : Options) (requests : List Request) :
    IsHistory web initial requests ((start initial).run web requests).1
      ((start initial).run web requests).2 where
  form := run_form initial requests
  failed_load := by
    intro request isLoad failed after
    have unchanged : after = _ :=
      (congrArg Prod.fst (run_concat (start initial) requests request)).trans
        (serve_failed_load _ isLoad failed)
    rw [unchanged]
    exact ⟨rfl, rfl, rfl⟩
  log := run_log initial requests
  options := run_options initial requests
  calls := run_calls initial requests
  responses := run_responses initial requests

end Client

end Questionnaire
