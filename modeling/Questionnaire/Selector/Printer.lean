/-
# Writing selectors

The text of a selector value. A compound is written with its tag or `*` first,
then the id, the classes and the attribute tests in ascending order of their
names. Values are written as they are, without quotation marks, so a value made
by hand may not read back.
-/

import Questionnaire.Selector.Basic

namespace Questionnaire

/-- The text of a compound. -/
def Compound.render (compound : Compound) : String :=
  compound.tag.getD "*" ++
  (match compound.id with
    | none => ""
    | some id => "#" ++ id) ++
  String.join (compound.classes.map (fun name => "." ++ name)) ++
  String.join (compound.attributes.entries.map (fun test => "[" ++ test.1 ++ "=" ++ test.2 ++ "]"))

/-- The text of a chain: its compounds, one space between two of them. -/
def Chain.render (chain : Chain) : String :=
  String.intercalate " " (chain.map Compound.render)

/-- The text of a selector: its chains, a comma and a space between two. -/
def Selector.render (selector : Selector) : String :=
  String.intercalate ", " (selector.alternatives.map Chain.render)

end Questionnaire
