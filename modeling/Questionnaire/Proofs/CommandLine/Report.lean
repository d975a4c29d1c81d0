/-
# What commands report

The commands judge and encode answers by themselves, without a client. They say the same as
a client that has loaded the same page. What they print can also be read back. A report on
answers has one line for each complaint, because names are single lines; the end of a line
tells the fault, and what is before it is the name, whatever the name itself looks like. An
address may hold line breaks but a body does not, so the last line break of what is printed
for a submission stands between the two.
-/

import Questionnaire.CommandLine.Run
import Questionnaire.Proofs.Client.History
import Questionnaire.Proofs.Form.Body
import Questionnaire.Proofs.Form.Verdict

namespace Questionnaire

/-! ## Reading lines back -/

/-- What stands behind the name in a message. -/
def Fault.ending (fault : Fault) : List Char :=
  (": " ++ fault.text).toList

/-- The complaint that a line stands for. The end of the line tells the fault, and what is
before it is the name. -/
def Complaint.ofLine? (line : List Char) : Option Complaint :=
  [Fault.empty, Fault.invalid].findSome? fun fault =>
    if fault.ending.isSuffixOf line then
      some ⟨String.ofList (line.take (line.length - fault.ending.length)), fault⟩
    else none

/-- The complaints that the lines of a report stand for. -/
def Complaints.ofReport? (report : String) : Option Complaints :=
  (Text.splitAtEvery (· == '\n') report.toList).mapM Complaint.ofLine?

theorem Complaint.toList_message (complaint : Complaint) :
    complaint.message.toList = complaint.name.toList ++ complaint.fault.ending := by
  simp [message, Fault.ending]

/-- No text has the endings of two faults. -/
theorem Fault.ending_suffix_iff {fault other : Fault} {name : List Char} :
    other.ending <:+ name ++ fault.ending ↔ other = fault := by
  constructor
  · rintro ⟨front, same⟩
    -- The two endings differ in their last characters.
    have lasts := congrArg List.getLast? same
    rw [List.getLast?_append, List.getLast?_append] at lasts
    cases other <;> cases fault
    case empty.empty | invalid.invalid => rfl
    case empty.invalid | invalid.empty => simp [ending, text] at lasts
  · rintro rfl
    exact List.suffix_append name _

/-- A message is read back, whatever the name is. -/
theorem Complaint.ofLine?_message (complaint : Complaint) :
    ofLine? complaint.message.toList = some complaint := by
  obtain ⟨name, fault⟩ := complaint
  cases fault <;> simp [ofLine?, toList_message, Fault.ending_suffix_iff]

theorem Fault.newline_not_mem_ending (fault : Fault) : '\n' ∉ fault.ending := by
  cases fault <;> decide

namespace Complaints

variable {complaints : Complaints}

/-- A report has one line for each complaint, if the names are single lines. -/
theorem splitAtEvery_report (nonempty : complaints ≠ [])
    (single : ∀ complaint ∈ complaints, '\n' ∉ complaint.name.toList) :
    Text.splitAtEvery (· == '\n') (String.intercalate "\n" complaints.messages).toList =
      complaints.messages.map String.toList := by
  rw [String.toList_intercalate]
  apply Text.splitAtEvery_intercalate rfl (by simpa [messages] using nonempty)
  intro line isLine c member
  obtain ⟨_, isMessage, rfl⟩ := List.mem_map.mp isLine
  obtain ⟨complaint, present, rfl⟩ := List.mem_map.mp isMessage
  rw [Complaint.toList_message] at member
  rw [beq_eq_false_iff_ne]
  rintro rfl
  rcases List.mem_append.mp member with inName | inEnding
  · exact single complaint present inName
  · exact complaint.fault.newline_not_mem_ending inEnding

/-- The complaints can be told from the report. -/
theorem ofReport?_report (nonempty : complaints ≠ [])
    (single : ∀ complaint ∈ complaints, '\n' ∉ complaint.name.toList) :
    ofReport? (String.intercalate "\n" complaints.messages) = some complaints := by
  rw [ofReport?, splitAtEvery_report nonempty single, messages, List.map_map]
  exact mapM_map_of_undoes Complaint.ofLine?_message complaints

/-- No report on complaints reads `ok`. -/
theorem report_ne_ok (nonempty : complaints ≠ []) :
    String.intercalate "\n" complaints.messages ≠ "ok" := by
  intro isOk
  obtain ⟨complaint, rest, rfl⟩ := List.exists_cons_of_ne_nil nonempty
  have inMessage : ':' ∈ complaint.message.toList := by
    rw [Complaint.toList_message, Fault.ending, String.toList_append]
    simp
  have inReport : ':' ∈ (String.intercalate "\n" (messages (complaint :: rest))).toList := by
    rw [String.toList_intercalate]
    exact Text.mem_intercalate_of_mem (List.mem_map_of_mem (List.mem_map_of_mem
      List.mem_cons_self)) inMessage
  rw [isOk] at inReport
  exact absurd inReport (by decide)

end Complaints

/-- Complaints bear the names of fields, which are single lines. -/
theorem Form.newline_not_mem_complaint {root : Html.Element} {form : Form} {answers : Answers}
    (read : ofTree? root = some form) :
    ∀ complaint ∈ form.complaints answers, '\n' ∉ complaint.name.toList := by
  intro complaint member
  obtain ⟨field, present, made⟩ := List.mem_filterMap.mp member
  obtain ⟨fault, _, rfl⟩ := Option.map_eq_some_iff.mp made
  exact newline_not_mem_name read present

@[simp]
theorem Web.document_through (transport : Transport) (page : String) :
    (through transport).document page = Html.parse page := by
  rw [through]

namespace CommandLine

variable {files : Files} {page values : String} {form : Form} {answers : Answers}

theorem loadForm_eq_ok_iff :
    loadForm files page = .ok form ↔
      ∃ text, files page = some text ∧ Form.parse? text = some form := by
  unfold loadForm
  split
  · next missing => simp [missing]
  · next text found =>
    cases read : Form.parse? text <;> simp [found, read]

theorem validate_eq_ok (loaded : loadForm files page = .ok form)
    (given : loadAnswers files values = .ok answers) :
    CommandLine.validate files page values = .ok (validationReport form answers) := by
  rw [CommandLine.validate, loaded, given]
  rfl

theorem parameters_eq_ok (loaded : loadForm files page = .ok form)
    (given : loadAnswers files values = .ok answers) :
    CommandLine.parameters files page values = .ok (parametersReport form answers) := by
  rw [CommandLine.parameters, loaded, given]
  rfl

theorem validationReport_of_nil (valid : form.complaints answers = []) :
    validationReport form answers = ⟨true, "ok"⟩ := by
  simp [validationReport, valid]

theorem validationReport_of_ne_nil (invalid : form.complaints answers ≠ []) :
    validationReport form answers =
      ⟨false, String.intercalate "\n" (form.complaints answers).messages⟩ := by
  simp [validationReport, invalid]

/-- What it means that a report on answers agrees with a client. -/
structure Report.AgreesWith (report : Report) (client : Client) (answers : Answers) : Prop where
  /-- The report finds the answers valid exactly if the client does. -/
  isValid_iff : report.isValid = true ↔ (client.validate answers).2 = .ok true
  /-- Of valid answers it says `ok`. -/
  output_valid : report.isValid = true → report.output = "ok"
  /-- Otherwise its lines are the messages that the client adds to its log. -/
  lines : report.isValid = false → ∃ messages,
    (client.validate answers).1.log = client.log ++ messages ∧
    Text.splitAtEvery (· == '\n') report.output.toList = messages.map String.toList

/-- A client with the form of a report agrees with it. -/
theorem agreesWith_validationReport {root : Html.Element} (read : Form.ofTree? root = some form)
    {client : Client} (loaded : client.form = some form) (answers : Answers) :
    (validationReport form answers).AgreesWith client answers := by
  have judged : client.validate answers = _ := Client.validate_of_form loaded
  by_cases valid : form.complaints answers = []
  · rw [validationReport_of_nil valid]
    constructor
    case isValid_iff => simp [judged, Form.accepts, valid]
    case output_valid => exact fun _ => rfl
    case lines => exact fun invalid => absurd invalid (by decide)
  · rw [validationReport_of_ne_nil valid]
    constructor
    case isValid_iff => simp [judged, Form.accepts, valid]
    case output_valid => exact fun isValid => absurd isValid Bool.false_ne_true
    case lines =>
      intro _
      refine ⟨(form.complaints answers).messages, by rw [judged], ?_⟩
      exact Complaints.splitAtEvery_report valid (Form.newline_not_mem_complaint read)

/-- The report on answers that are not valid has a line for each field that finds a fault,
can be read back, and does not say `ok`. -/
theorem output_validationReport {root : Html.Element} (read : Form.ofTree? root = some form)
    (isInvalid : (validationReport form answers).isValid = false) :
    (Text.splitAtEvery (· == '\n') (validationReport form answers).output.toList).length =
        form.fields.countP (fun field => (form.verdict answers field).isSome) ∧
      Complaints.ofReport? (validationReport form answers).output =
        some (form.complaints answers) ∧
      (validationReport form answers).output ≠ "ok" := by
  have invalid : form.complaints answers ≠ [] := by
    intro valid
    rw [validationReport_of_nil valid] at isInvalid
    cases isInvalid
  have single : ∀ complaint ∈ form.complaints answers, '\n' ∉ complaint.name.toList :=
    Form.newline_not_mem_complaint read
  rw [validationReport_of_ne_nil invalid]
  refine ⟨?_, Complaints.ofReport?_report invalid single, Complaints.report_ne_ok invalid⟩
  rw [Complaints.splitAtEvery_report invalid single, List.length_map, Complaints.messages,
    List.length_map, Form.length_complaints]

/-- What is printed for a submission is cut at its last line break into the address and the
body. -/
theorem isCutAtLast_parametersReport_iff {before behind : String} :
    Text.IsCutAtLast '\n' (parametersReport form answers).toList before.toList behind.toList ↔
      before = form.url ∧ behind = form.body answers := by
  have cut : Text.IsCutAtLast '\n' (parametersReport form answers).toList form.url.toList
      (form.body answers).toList :=
    ⟨by simp [parametersReport], (form.parameters answers).newline_not_mem_body⟩
  constructor
  · intro cut'
    obtain ⟨sameBefore, sameBehind⟩ := cut'.unique cut
    exact ⟨String.toList_inj.mp sameBefore, String.toList_inj.mp sameBehind⟩
  · rintro ⟨rfl, rfl⟩
    exact cut

/-- Commands on a page that has a form and a file that holds answers. Loading this page,
by itself or over a transport, gives a client the same form, and any client with this form
agrees with the report on the answers. A report on answers that are not valid has one line
for each field that finds a fault, the complaints in their order can be told from it alone,
and it never reads `ok`. What is printed for a submission tells the address and the body
by its last line break, and if the answers are valid, these are what a client that posts
them submits. -/
theorem commands_agree_with_client (loaded : loadForm files page = .ok form)
    (given : loadAnswers files values = .ok answers) :
    (∃ text, files page = some text ∧ ∀ (transport : Transport) (client : Client),
      (client.loadPage (Web.through transport) text).1.form = some form ∧
      ∀ url, transport client.calls (.fetch url client.options) = .ok text →
        (client.load (Web.through transport) url).1.form = some form) ∧
    (∃ report, CommandLine.validate files page values = .ok report ∧
      (∀ client : Client, client.form = some form → report.AgreesWith client answers) ∧
      (report.isValid = false →
        (Text.splitAtEvery (· == '\n') report.output.toList).length =
          form.fields.countP (fun field => (form.verdict answers field).isSome) ∧
        Complaints.ofReport? report.output = some (form.complaints answers) ∧
        report.output ≠ "ok")) ∧
    ∃ output, CommandLine.parameters files page values = .ok output ∧
      (∀ before behind : String,
        Text.IsCutAtLast '\n' output.toList before.toList behind.toList ↔
          before = form.url ∧ behind = form.body answers) ∧
      ∀ (client : Client) (web : Web), client.form = some form →
        (client.validate answers).2 = .ok true →
        (client.post web answers).1.calls =
          client.calls ++ [.submit form.url (form.body answers) client.options] := by
  obtain ⟨text, found, read⟩ := loadForm_eq_ok_iff.mp loaded
  rw [Form.parse?] at read
  refine ⟨⟨text, found, ?_⟩,
    ⟨validationReport form answers, validate_eq_ok loaded given, ?_, output_validationReport read⟩,
    parametersReport form answers, parameters_eq_ok loaded given,
    fun _ _ => isCutAtLast_parametersReport_iff, ?_⟩
  · intro transport client
    have onPage : Form.ofTree? ((Web.through transport).document text) = some form := by
      rw [Web.document_through, read]
    exact ⟨Client.form_loadPage onPage, fun url fetched => Client.form_load fetched onPage⟩
  · intro client hasForm
    exact agreesWith_validationReport read hasForm answers
  · intro client web hasForm accepted
    rw [Client.validate_of_form hasForm] at accepted
    exact Client.calls_post_of_accepts hasForm (Except.ok.inj accepted)

/-- A saved page with a question whose title looks like a complaint, and a file that answers
it by no number. -/
def trickyFiles : Files := fun path =>
  if path = "page" then some (
    "<form action=/answers><p class=ss-form-question><label class=ss-q-item-label>" ++
    "Age: Empty</label><input name=1 type=number>")
  else if path = "values" then some "\x7b\"Age: Empty\": \"old\"\x7d"
  else none

/-- The form of this page. -/
def trickyForm : Form :=
  ⟨"/answers", [⟨"1", "Age: Empty", "Age: Empty", false, .number⟩]⟩

/-- The answers of this file. -/
def trickyAnswers : Answers :=
  Dictionary.ofList [("Age: Empty", .single "old")]

/-- The report on these answers is read back as one complaint about this title, and a client
that has loaded the page agrees with it. -/
theorem commands_agree_with_client_trickyFiles :
    loadForm trickyFiles "page" = .ok trickyForm ∧
      loadAnswers trickyFiles "values" = .ok trickyAnswers ∧
      ∃ report, CommandLine.validate trickyFiles "page" "values" = .ok report ∧
        report = ⟨false, "Age: Empty: Invalid value"⟩ ∧
        Complaints.ofReport? report.output = some [⟨"Age: Empty", .invalid⟩] ∧
        report.AgreesWith ⟨.default, some trickyForm, [], []⟩ trickyAnswers := by
  have loaded : loadForm trickyFiles "page" = .ok trickyForm := by decide +kernel
  have given : loadAnswers trickyFiles "values" = .ok trickyAnswers := by decide +kernel
  obtain ⟨-, ⟨report, reported, agrees, reads⟩, -⟩ := commands_agree_with_client loaded given
  obtain rfl : report = validationReport trickyForm trickyAnswers :=
    Except.ok.inj (reported.symm.trans (validate_eq_ok loaded given))
  have printed : validationReport trickyForm trickyAnswers =
      ⟨false, "Age: Empty: Invalid value"⟩ := by decide +kernel
  have complaints : trickyForm.complaints trickyAnswers = [⟨"Age: Empty", .invalid⟩] := by
    decide +kernel
  obtain ⟨-, back, -⟩ := reads (by rw [printed])
  rw [complaints] at back
  have agree := agrees ⟨.default, some trickyForm, [], []⟩ rfl
  exact ⟨loaded, given, validationReport trickyForm trickyAnswers, reported, printed, back, agree⟩

end CommandLine

end Questionnaire
