/-
# Operations of a client

What a client can be asked to do, as data, so that whole sessions can be spoken of.
Questions that change nothing are no operations: they are asked beside them.
-/

import Questionnaire.Client

namespace Questionnaire

/-- What a client can be asked to do. -/
inductive Operation where
  /-- Fetch a page and load its form. -/
  | load (url : String)
  /-- Load the form of a page that is at hand. -/
  | loadPage (page : String)
  /-- Judge answers. -/
  | validate (answers : Answers)
  /-- Judge answers and submit them if they are valid. -/
  | post (answers : Answers)
  /-- Set one option. -/
  | setOption (key : String) (value : Json)
  /-- Make several settings. -/
  | mergeOptions (settings : Dictionary Json)

/-- What comes of an operation. -/
inductive Outcome where
  /-- The form that was loaded, or why none was. -/
  | loaded (result : Except FormError Form)
  /-- Whether the answers are valid, or why they were not judged. -/
  | judged (result : Except FormError Bool)
  /-- Whether the answers were submitted and accepted. -/
  | posted (accepted : Bool)
  /-- Which setting failed, if one did. -/
  | configured (failure : Option OptionError)

namespace Client

/-- Carry out one operation. -/
def perform (web : Web) (client : Client) : Operation → Client × Outcome
  | .load url =>
    let (changed, result) := client.load web url
    (changed, .loaded result)
  | .loadPage page =>
    let (changed, result) := client.loadPage web page
    (changed, .loaded result)
  | .validate answers =>
    let (changed, result) := client.validate answers
    (changed, .judged result)
  | .post answers =>
    let (changed, accepted) := client.post web answers
    (changed, .posted accepted)
  | .setOption key value =>
    let (changed, failure) := client.setOption key value
    (changed, .configured failure)
  | .mergeOptions settings =>
    let (changed, failure) := client.mergeOptions settings
    (changed, .configured failure)

end Client

end Questionnaire
