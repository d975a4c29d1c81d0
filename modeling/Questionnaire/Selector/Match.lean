/-
# Matching selectors

Every step of a chain looks at the elements properly inside the matches of the
step before, and the first step looks inside the given roots. Matches are
listed root by root and, below each root, in document order. An element that
can be reached in several ways is listed once for each way: nothing is sorted
or removed afterwards.
-/

import Questionnaire.Html.Node
import Questionnaire.Selector.Basic
import Questionnaire.Text.Ascii

namespace Questionnaire

open Html

/-- Whether a text occurs as a run of consecutive characters in another one. -/
def occursIn (part : List Char) : List Char → Bool
  | [] => part.isEmpty
  | c :: rest => part.isPrefixOf (c :: rest) || occursIn part rest

/-- Whether an element passes all tests of a compound. Tags agree up to ASCII
case and the id must be present and equal. A class test asks for a part of the
class attribute, not for a word of it, and a missing attribute counts as an
empty one in class and attribute tests. -/
def Compound.accepts (compound : Compound) (element : Element) : Bool :=
  compound.tag.all (fun tag => Text.equalIgnoringAsciiCase element.tag tag) &&
  compound.id.all (fun id => element.attribute? "id" == some id) &&
  compound.classes.all
    (fun name => occursIn name.toList (element.attributeOrEmpty "class").toList) &&
  compound.attributes.entries.all (fun test => element.attributeOrEmpty test.1 == test.2)

/-- The elements properly inside the roots that pass a compound. -/
def Compound.select (compound : Compound) (roots : List Place) : List Place :=
  (roots.flatMap Place.descendants).filter (fun place => compound.accepts place.element)

/-- The matches of a chain inside the roots. A chain without steps leaves the
roots as they are. -/
def Chain.select : Chain → List Place → List Place
  | [], roots => roots
  | compound :: rest, roots => Chain.select rest (compound.select roots)

/-- The matches of a selector inside the roots: those of its alternatives one
after the other. -/
def Selector.select (selector : Selector) (roots : List Place) : List Place :=
  selector.alternatives.flatMap (fun chain => Chain.select chain roots)

end Questionnaire
