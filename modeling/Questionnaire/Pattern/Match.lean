/-
# Looking for a pattern in a text

The places of a text are numbered from 0, the place before its first character.
A set of places is a natural number whose bits are the places in it. A pattern
takes a set of places to the set of the places at which its pieces end when
they start at one of them, so that looking for a pattern anywhere is to start
at every place and to ask whether any end is left. Only how far a piece reaches
counts here; which of several pieces is taken plays no part.
-/

import Questionnaire.Pattern.Basic

namespace Questionnaire

/-- A set of places of a text, as the bits of a number. -/
abbrev PlaceSet := Nat

namespace PlaceSet

/-- The places that a list of answers says yes to, the first answer being for
place 0. -/
def ofAnswers : List Bool → PlaceSet
  | [] => 0
  | answer :: rest => 2 * ofAnswers rest + (if answer then 1 else 0)

/-- Do a step so often, or until it changes nothing. -/
def iterate (step : PlaceSet → PlaceSet) : Nat → PlaceSet → PlaceSet
  | 0, places => places
  | count + 1, places =>
    let next := step places
    if next = places then places else iterate step count next

end PlaceSet

namespace Pattern

/-- The places where pieces of a pattern end that start at the given places of
a text of the given length. Every class is the set of places before its
characters, and every condition the set of places that meet it. -/
def ends (length : Nat) : Pattern PlaceSet PlaceSet → PlaceSet → PlaceSet
  | .empty, places => places
  | .one set, places => (places &&& set) <<< 1
  | .place condition, places => places &&& condition
  | .sequence first second, places => second.ends length (first.ends length places)
  | .choice first second, places => first.ends length places ||| second.ends length places
  | .repeated body least most, places =>
    let optional := (most.map (fun bound => bound - least)).getD (length + 1)
    PlaceSet.iterate (fun found => found ||| body.ends length found) optional
      (PlaceSet.iterate (body.ends length) least places)
  | .group body, places => body.ends length places

end Pattern

namespace TextPattern

/-- The characters before and after each place of a text. -/
def surroundings (before : Option Char) : List Char → List (Option Char × Option Char)
  | [] => [(before, none)]
  | c :: rest => (before, some c) :: surroundings (some c) rest

/-- The pattern with its tests replaced by the places of a text that pass them. -/
def onText (pattern : TextPattern) (text : List Char) : Pattern PlaceSet PlaceSet :=
  let surroundings := surroundings none text
  pattern.map
    (fun set => PlaceSet.ofAnswers (text.map set.contains))
    (fun condition => PlaceSet.ofAnswers
      (surroundings.map (fun neighbours => condition.holds neighbours.1 neighbours.2)))

/-- Whether a piece of the pattern stands anywhere in a text. -/
def occursIn (pattern : TextPattern) (text : String) : Bool :=
  let characters := text.toList
  let everywhere : PlaceSet := Nat.pow 2 (characters.length + 1) - 1
  (pattern.onText characters).ends characters.length everywhere != 0

end TextPattern

end Questionnaire
