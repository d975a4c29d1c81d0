/-
# Forms

A form is where its answers are submitted to and its fields. It is read from a
page: the first form element tells the address, and the questions anywhere on
the page tell the fields. A page without a form element has no form. The
response to a submission is a page too, and it accepts the answers unless it
shows the form again.
-/

import Questionnaire.Extraction
import Questionnaire.FormEncoding
import Questionnaire.Html.Parser
import Questionnaire.Validation

namespace Questionnaire

open Html

/-- A form. -/
structure Form where
  /-- The address that answers are submitted to. -/
  url : String
  /-- The fields in the order of their questions. -/
  fields : List Field
  deriving Repr, DecidableEq

namespace Form

/-- The form of a document, if it has a form element. -/
def ofTree? (root : Element) : Option Form :=
  (Extraction.formElement.select [root.asRoot]).head?.map fun form =>
    ⟨form.element.attributeOrEmpty "action", Extraction.fieldsOf root⟩

/-- The form of a page. -/
def parse? (page : String) : Option Form :=
  ofTree? (Html.parse page)

/-- The ids of the fields by their names. -/
def names (form : Form) : NameMap :=
  NameMap.ofFields form.fields

/-- The field with an id. -/
def field? (form : Form) (id : String) : Option Field :=
  form.fields.find? (fun field => field.id == id)

/-- The parameters that answers are submitted as. -/
def parameters (form : Form) (answers : Answers) : Parameters :=
  Parameters.ofAnswers answers form.names

/-- The complaints of the fields about answers. -/
def complaints (form : Form) (answers : Answers) : Complaints :=
  validate answers form.fields form.names

/-- Whether answers are valid. -/
def accepts (form : Form) (answers : Answers) : Bool :=
  (form.complaints answers).isEmpty

/-- The body that submits answers. -/
def body (form : Form) (answers : Answers) : String :=
  Parameters.body (form.parameters answers)

end Form

/-- Whether a document shows a form to fill in: something in it is marked as one. -/
def showsForm (root : Element) : Bool :=
  !(Extraction.formMarker.select [root.asRoot]).isEmpty

/-- Whether a response accepts a submission, which shows no form again. -/
def isAccepted (response : String) : Bool :=
  !showsForm (Html.parse response)

end Questionnaire
