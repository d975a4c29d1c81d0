/-
# What a client submits

Whatever the transport answers and whatever pages are read as, a client submits
nothing but complete and valid answers to the form that is loaded at that moment.
The forms of a session all come from documents, so what is known about these forms
holds for the loaded one; and the body that is sent can be read back into the pairs
that the form expects.
-/

import Questionnaire.Proofs.Client.History
import Questionnaire.Proofs.Form.Submission
import Questionnaire.Proofs.FormEncoding

namespace Questionnaire

open Html

namespace Moment

variable {web : Web} {moment : Moment}

/-- A form that is loaded was read from the document of a page. -/
theorem exists_page_of_loaded? {form : Form} (loaded : moment.loaded? web = some form) :
    ∃ page, Form.ofTree? (web.document page) = some form := by
  unfold loaded? at loaded
  split at loaded
  · split at loaded
    · cases loaded
    · next page _ => exact ⟨page, loaded⟩
  · next page _ => exact ⟨page, loaded⟩
  · cases loaded

/-- A request leads to at most one call. -/
theorem calls_eq_nil_or_singleton (moment : Moment) :
    moment.calls = [] ∨ ∃ call, moment.calls = [call] := by
  unfold calls
  split
  · exact Or.inr ⟨_, rfl⟩
  · split
    · exact Or.inl rfl
    · split
      · exact Or.inr ⟨_, rfl⟩
      · exact Or.inl rfl
  · exact Or.inl rfl

/-- A submission is made for a request that posts answers which the loaded form accepts. -/
theorem calls_eq_submit {url body : String} {options : Options}
    (made : moment.calls = [.submit url body options]) :
    ∃ answers form,
      moment.request = .operate (.post answers) ∧ moment.client.form = some form ∧
      form.accepts answers = true ∧ url = form.url ∧ body = form.body answers ∧
      options = moment.client.options := by
  unfold calls at made
  split at made
  · cases made
  · next answers isPost =>
    cases loaded : moment.client.form with
    | none => simp [loaded] at made
    | some form =>
        by_cases accepted : form.accepts answers = true
        · simp only [loaded, if_pos accepted, List.cons.injEq, Call.submit.injEq] at made
          obtain ⟨⟨rfl, rfl, rfl⟩, -⟩ := made
          exact ⟨answers, form, isPost, rfl, accepted, rfl, rfl, rfl⟩
        · simp [loaded, accepted] at made
  · cases made

end Moment

namespace Client

variable {web : Web} {initial : Options} {requests : List Request}

/-- The form of a client was read from the document of a page. -/
theorem exists_page_of_form {form : Form}
    (loaded : ((start initial).run web requests).1.form = some form) :
    ∃ page, Form.ofTree? (web.document page) = some form := by
  rw [run_form] at loaded
  obtain ⟨moment, _, given⟩ := List.mem_filterMap.mp (List.mem_of_getLast? loaded)
  exact Moment.exists_page_of_loaded? given

/-- Every call of a session is made for one of the requests, and the calls before it are
those of the earlier requests. -/
theorem exists_request_of_call {done rest : List Call} {call : Call}
    (made : ((start initial).run web requests).1.calls = done ++ call :: rest) :
    ∃ earlier request later, requests = earlier ++ request :: later ∧
      ((start initial).run web earlier).1.calls = done ∧
      Moment.calls ⟨((start initial).run web earlier).1, request⟩ = [call] := by
  induction requests using List.reverseRecOn generalizing rest with
  | nil => simp [run, start] at made
  | append_singleton requests request ih =>
      have earlierCall : ∀ rest, ((start initial).run web requests).1.calls = done ++ call :: rest →
          ∃ earlier request' later, requests ++ [request] = earlier ++ request' :: later ∧
            ((start initial).run web earlier).1.calls = done ∧
            Moment.calls ⟨((start initial).run web earlier).1, request'⟩ = [call] := by
        intro rest before
        obtain ⟨earlier, request', later, rfl, known⟩ := ih before
        exact ⟨earlier, request', later ++ [request], by simp, known⟩
      rw [run_concat, serve_state] at made
      rcases Moment.calls_eq_nil_or_singleton ⟨((start initial).run web requests).1, request⟩ with
        none | ⟨last, one⟩
      · simp only [none, List.append_nil] at made
        exact earlierCall rest made
      · simp only [one] at made
        rcases List.eq_nil_or_concat rest with rfl | ⟨others, other, rfl⟩
        · obtain ⟨before, same⟩ := List.append_inj' made rfl
          exact ⟨requests, request, [], rfl, before, one.trans same⟩
        · rw [List.concat_eq_append, ← List.cons_append, ← List.append_assoc] at made
          exact earlierCall others (List.append_inj' made rfl).1

/-- Whatever the web does, every submission of a session is made for a request that posts
answers. It goes to the address of the form that is loaded then, with the options in
force then, and its body stands for pairs that are complete and valid for this form. -/
theorem submissions_complete (web : Web) (initial : Options) (requests : List Request)
    {done rest : List Call} {url body : String} {options : Options}
    (made : ((start initial).run web requests).1.calls = done ++ .submit url body options :: rest) :
    ∃ earlier answers later, requests = earlier ++ .operate (.post answers) :: later ∧
      let client := ((start initial).run web earlier).1
      client.calls = done ∧ options = client.options ∧
        ∃ form pairs, client.form = some form ∧ url = form.url ∧
          FormEncoding.decodePairs? body = some pairs ∧ form.IsCompletedBy pairs := by
  obtain ⟨earlier, request, later, rfl, before, here⟩ := exists_request_of_call made
  obtain ⟨answers, form, isPost, loaded, accepted, rfl, rfl, rfl⟩ := Moment.calls_eq_submit here
  obtain ⟨page, read⟩ := exists_page_of_form loaded
  obtain rfl : request = .operate (.post answers) := isPost
  refine ⟨earlier, answers, later, rfl, before, rfl, form, (form.parameters answers).pairs, loaded,
    rfl, ?_, Form.isCompletedBy_of_accepts read accepted⟩
  exact FormEncoding.decodePairs?_encodePairs _

/-- A page that asks for one number, which must be given. -/
def agePage : Element :=
  ⟨"html", [], [.element "form" [("action", "/answers")]
    [.element "div" [("class", "ss-form-question")]
      [.element "label" [("class", "ss-q-item-label")] [.text "Age"],
        .element "input" [("name", "age"), ("type", "number"), ("required", "")] []]]]⟩

/-- A web on which every page is this page. -/
def ageWeb : Web := ⟨fun _ _ => .ok "", fun _ => agePage⟩

/-- A session in which the page is loaded and answered twice, first by no number. -/
def ageSession : List Request :=
  [.operate (.load "/survey"),
    .operate (.post (Dictionary.ofList [("Age", .single "old")])),
    .operate (.post (Dictionary.ofList [("Age", .single "8")]))]

/-- Of the two answers only the number is submitted, under the id of the question. -/
theorem submissions_complete_ageSession :
    ((start .default).run ageWeb ageSession).1.calls =
        [.fetch "/survey" .default] ++ .submit "/answers" "age=8" .default :: [] ∧
      ∃ (form : Form) (pairs : List (String × String)), form.url = "/answers" ∧
        FormEncoding.decodePairs? "age=8" = some pairs ∧ form.IsCompletedBy pairs := by
  have made : ((start .default).run ageWeb ageSession).1.calls =
      [.fetch "/survey" .default] ++ .submit "/answers" "age=8" .default :: [] := by decide +kernel
  obtain ⟨_, _, _, _, _, _, form, pairs, _, url, stands, complete⟩ :=
    submissions_complete ageWeb .default ageSession made
  exact ⟨made, form, pairs, url.symm, stands, complete⟩

end Client

end Questionnaire
