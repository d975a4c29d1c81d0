/-
# Properties in patterns

A pattern asks for a property of Unicode by one name, which is that of a
property with two values, a general category or a script, or by the name and a
value of a property with more values. Case, spaces, dashes, underscores and a
leading `is` make no difference in names, and characters outside ASCII are
ignored in them.
-/

import Questionnaire.Pattern.BinaryProperty
import Questionnaire.Pattern.Script

namespace Questionnaire.Property

/-- The letters of a name that count. -/
def significant (name : List Char) : List Char :=
  (name.filter (fun c => c.toNat < 0x80 && !(c == ' ' || c == '_' || c == '-'))).map Char.toLower

/-- A name in its normal form. The abbreviation `isc` has its own meaning and
keeps its first letters. -/
def normalise (name : String) : String :=
  let characters := name.toList
  if (characters.take 2).map Char.toLower = ['i', 's'] then
    let rest := significant (characters.drop 2)
    String.ofList (if rest = ['c'] then ['i', 's', 'c'] else rest)
  else String.ofList (significant characters)

/-- The names of properties with several values that have the meaning of a
property also where they stand alone. None of them can be asked for alone. -/
def namesOfOthers : List String :=
  ["age", "bc", "blk", "block", "bmg", "bpb", "bpt", "ccc", "dm", "dt", "ea", "gc", "gcb",
   "generalcategory", "hst", "inpc", "insc", "isc", "jg", "jt", "lb", "linebreak", "na", "na1",
   "name", "nt", "nv", "sb", "scf", "script", "scriptextensions", "scx", "slc", "stc", "suc",
   "tc", "uc", "vo", "wb", "wordbreak"]

/-- The set of a property that is asked for by one name. Three abbreviations are
those of categories, whatever else they abbreviate. -/
def setOfName? (name : String) : Option CharacterSet :=
  let asCategory := ["cf", "sc", "lc"].contains name
  if !asCategory && namesOfOthers.contains name then none
  else
    (if asCategory then none else BinaryProperty.set? name) <|>
      GeneralCategory.set? name <|> Script.set? name

/-- The set of a property with several values. -/
def setOfValue? (name value : String) : Option CharacterSet :=
  match name with
  | "gc" | "generalcategory" => GeneralCategory.set? value
  | "sc" | "script" => Script.set? value
  | "scx" | "scriptextensions" => Script.extendedSet? value
  | _ => none

/-- The characters that a pattern asks for by the name of a property and its
value, if it has one. -/
def set? (name : String) (value : Option String) : Option CharacterSet :=
  match value with
  | none => setOfName? (normalise name)
  | some value => setOfValue? (normalise name) (normalise value)

end Questionnaire.Property
