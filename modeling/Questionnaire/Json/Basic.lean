/-
# JSON values

A JSON value with the members of an object in the order in which they are
written, repeated names included: a reader that must judge every member sees
every member. Taken as a dictionary, an object has the last value of each name.
Numbers are kept apart by how they are stored: whole numbers of 64 bits with
and without sign, and doubles for all others.
-/

import Questionnaire.Dictionary
import Questionnaire.Number.Double

namespace Questionnaire

/-- A number of a JSON text. -/
inductive JsonNumber where
  /-- A whole number from zero to `2 ^ 64 - 1`. -/
  | natural (value : Nat)
  /-- The negative of a positive whole number up to `2 ^ 63`. -/
  | negative (magnitude : Nat)
  /-- Any other number, with the sign that is written. -/
  | floating (isNegative : Bool) (magnitude : Double)
  deriving Repr, DecidableEq

/-- A JSON value. -/
inductive Json where
  /-- The value `null`. -/
  | null
  /-- The values `true` and `false`. -/
  | boolean (value : Bool)
  /-- A number. -/
  | number (value : JsonNumber)
  /-- A string. -/
  | string (value : String)
  /-- An array. -/
  | array (items : List Json)
  /-- An object with its members as written. -/
  | object (members : List (String × Json))
  deriving Repr

instance : Inhabited Json := ⟨.null⟩

namespace Json

/-- A natural number as a JSON value. -/
def ofNat (n : Nat) : Json := .number (.natural n)

/-- An array of strings. -/
def ofStrings (texts : List String) : Json := .array (texts.map .string)

/-- A string, or `null` where there is none. -/
def ofOptionalString : Option String → Json
  | none => .null
  | some text => .string text

/-- The members of an object, the last one of each name. -/
def members? : Json → Option (Dictionary Json)
  | .object members => some (Dictionary.ofList members)
  | _ => none

/-- The characters of a string. -/
def string? : Json → Option String
  | .string text => some text
  | _ => none

/-- All strings of an array that holds nothing else. -/
def strings? : Json → Option (List String)
  | .array items => items.mapM string?
  | _ => none

end Json

end Questionnaire
