/-
# Queries by selector text

Looking up elements by the text of a selector. A text that is blank or no
selector finds nothing; it is no error to ask for it.
-/

import Questionnaire.Selector.Match
import Questionnaire.Selector.Parser

namespace Questionnaire

open Html

/-- All matches of a selector text inside the roots, in the order of
`Selector.select`. -/
def queryAll (source : String) (roots : List Place) : List Place :=
  match Selector.parse source with
  | .error _ => []
  | .ok selector => selector.select roots

/-- The first match of a selector text inside the roots. -/
def queryFirst? (source : String) (roots : List Place) : Option Place :=
  (queryAll source roots).head?

end Questionnaire
