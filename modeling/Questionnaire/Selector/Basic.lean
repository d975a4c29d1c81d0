/-
# Selectors

A selector is a list of alternatives. An alternative is a chain of compounds,
read from the outside in, and a compound is a conjunction of tests on one
element: its tag, its id, its classes and its attributes. A compound without
tests is the wildcard.
-/

import Questionnaire.Dictionary

namespace Questionnaire

/-- A conjunction of tests on one element. -/
@[ext]
structure Compound where
  /-- The tag, compared without regard to ASCII case; none is any tag. -/
  tag : Option String
  /-- The id that the element must have. -/
  id : Option String
  /-- Texts that must all occur in the class attribute. -/
  classes : List String
  /-- Values that named attributes must have. -/
  attributes : Dictionary String
  deriving Repr, DecidableEq

/-- The compound without tests, which every element passes. -/
def Compound.wildcard : Compound := ⟨none, none, [], ∅⟩

instance : Inhabited Compound := ⟨Compound.wildcard⟩

/-- Compounds from the outermost to the innermost. -/
abbrev Chain := List Compound

/-- Alternative chains, each of which adds its matches. -/
@[ext]
structure Selector where
  /-- The alternatives in the order in which their matches are listed. -/
  alternatives : List Chain
  deriving Repr, DecidableEq

end Questionnaire
