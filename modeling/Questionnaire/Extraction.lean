/-
# Reading a form from a document

A form page marks its parts by classes: every question is an element whose
class contains `ss-form-question`, with a title label, an optional help text and
its controls inside. Titles, help texts and controls are found at any depth
below the question, the first one of each counts, and the type of the first
control decides the kind of the field. A question without a title or without a
control gives no field. When two questions give fields of one id, the later
field takes the place of the earlier one.
-/

import Questionnaire.Field
import Questionnaire.Selector.Match
import Questionnaire.Text.WhiteSpace

namespace Questionnaire

open Html

/-- The test for a tag. -/
def Compound.tagged (tag : String) : Compound := { Compound.wildcard with tag := some tag }

/-- The test for a part of the class attribute. -/
def Compound.classed (name : String) : Compound := { Compound.wildcard with classes := [name] }

namespace Extraction

/-- The form element. -/
def formElement : Compound := Compound.tagged "form"

/-- The block of one question. -/
def questionBlock : Compound := Compound.classed "ss-form-question"

/-- The label that holds the title of a question. -/
def titleLabel : Compound :=
  { Compound.wildcard with tag := some "label", classes := ["ss-q-item-label"] }

/-- The help text of a question. -/
def helpText : Compound := Compound.classed "ss-secondary-text"

/-- The controls of a question: inputs first, then text areas, then lists. -/
def controls : Selector :=
  ⟨[[Compound.tagged "input"], [Compound.tagged "textarea"], [Compound.tagged "select"]]⟩

/-- An entry of a list. -/
def listOption : Compound := Compound.tagged "option"

/-- The element that every page with an open form has. -/
def formMarker : Compound := { Compound.wildcard with id := some "ss-form" }

/-- The type token of a control: its tag for text areas and lists, and its type
attribute for everything else. -/
def controlToken (control : Element) : String :=
  if control.tag = "textarea" ∨ control.tag = "select" then control.tag
  else control.attributeOrEmpty "type"

/-- The values that a question offers. A list offers the values of its entries
that are not empty; buttons and boxes offer one value for each control. -/
def offeredValues (token : String) (primary : Place) (found : List Place) : List String :=
  if token = "select" then
    ((listOption.select [primary]).filterMap (fun entry => entry.element.attribute? "value")).filter
      (fun value => value != "")
  else if token = "radio" ∨ token = "checkbox" then
    found.map (fun control => control.element.attributeOrEmpty "value")
  else []

/-- The first line of a title without the white space around it. -/
def titleOf (label : Element) : String :=
  String.ofList (Text.trim (Text.firstLine label.characters))

/-- A help text without the white space around it. -/
def helpOf (help : Element) : String :=
  String.ofList (Text.trim help.characters)

/-- The field of a question block, if it has a title and a control. -/
def fieldOf? (block : Place) : Option Field :=
  match (titleLabel.select [block]).head?, (controls.select [block]) with
  | some title, primary :: others =>
    let token := controlToken primary.element
    let values := offeredValues token primary (primary :: others)
    let kind := FieldKind.ofToken token values (primary.element.attribute? "pattern")
    let label := ((helpText.select [block]).head?.map (fun help => helpOf help.element)).getD ""
    some (Field.labelled (primary.element.attributeOrEmpty "name") (titleOf title.element) label
      (primary.element.attribute? "required").isSome kind)
  | _, _ => none

/-- Add a field to a collection: in place of the field with its id, or at the
end. -/
def place (fields : List Field) (field : Field) : List Field :=
  match fields with
  | [] => [field]
  | first :: rest => if first.id = field.id then field :: rest else first :: place rest field

/-- The fields of a document in the order of their questions. -/
def fieldsOf (root : Element) : List Field :=
  ((questionBlock.select [root.asRoot]).filterMap fieldOf?).foldl place []

end Extraction

end Questionnaire
