/-
# Document trees

A document is a finite tree of elements, texts and comments. An element that
stands at a known place of a document is a `Place`: the path of child numbers
that leads to it and the element found there. Paths tell apart elements that
look the same, and ascending paths are document order, in which an element
comes before what is inside it. Tags and attributes are taken as written; which
of them mean the same is decided where they are compared.
-/

namespace Questionnaire.Html

/-- A node of a document tree. -/
inductive Node where
  /-- A run of text. -/
  | text (content : String)
  /-- A comment, which is no text. -/
  | comment (content : String)
  /-- An element with its tag, its attributes and its children. -/
  | element (tag : String) (attributes : List (String × String)) (children : List Node)
  deriving Inhabited, Repr, BEq

/-- An element: a node that is neither text nor comment. -/
structure Element where
  /-- The tag name. -/
  tag : String
  /-- Names and values of the attributes; the first one of a name counts. -/
  attributes : List (String × String)
  /-- The child nodes in order. -/
  children : List Node
  deriving Inhabited, Repr, BEq

/-- The value of an attribute, if the element has it. -/
def Element.attribute? (element : Element) (name : String) : Option String :=
  element.attributes.lookup name

/-- The value of an attribute, where a missing attribute counts as empty. -/
def Element.attributeOrEmpty (element : Element) (name : String) : String :=
  (element.attribute? name).getD ""

/-- The element as a node of a tree. -/
def Element.toNode (element : Element) : Node :=
  .element element.tag element.attributes element.children

mutual

/-- The characters of all texts in a node, in document order. -/
def Node.characters : Node → List Char
  | .text content => content.toList
  | .comment _ => []
  | .element _ _ children => charactersOfAll children

/-- The characters of all texts in a list of nodes, in document order. -/
def charactersOfAll : List Node → List Char
  | [] => []
  | node :: rest => node.characters ++ charactersOfAll rest

end

/-- The characters of all texts inside an element, in document order. -/
def Element.characters (element : Element) : List Char :=
  charactersOfAll element.children

/-- An element and the place at which it stands in its document. -/
structure Place where
  /-- Child numbers on the way down from the root, which has the empty path. -/
  path : List Nat
  /-- The element at that place. -/
  element : Element
  deriving Inhabited, Repr

/-- The place of the root element of a document. -/
def Element.asRoot (element : Element) : Place :=
  ⟨[], element⟩

mutual

/-- The elements of a node that stands at a path, itself included, in document
order. -/
def Node.placesAt (path : List Nat) : Node → List Place
  | .text _ => []
  | .comment _ => []
  | .element tag attributes children =>
    ⟨path, ⟨tag, attributes, children⟩⟩ :: placesUnder path 0 children

/-- The elements of consecutive children of the node at a path, in document
order. The first of the children has the given number. -/
def placesUnder (path : List Nat) (number : Nat) : List Node → List Place
  | [] => []
  | node :: rest => node.placesAt (path ++ [number]) ++ placesUnder path (number + 1) rest

end

/-- The elements properly inside the element at a place, in document order. -/
def Place.descendants (place : Place) : List Place :=
  placesUnder place.path 0 place.element.children

end Questionnaire.Html
