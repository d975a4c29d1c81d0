/-
# Selector errors

The causes for which a text is no selector, and the wording of each. A position
counts the UTF-8 bytes of the compound before the character it points at.
-/

namespace Questionnaire

/-- Why a text is no selector. -/
inductive SelectorError where
  /-- There is no alternative. -/
  | empty
  /-- A compound goes on with a character that starts no component. -/
  | unexpectedCharacter (found : Char) (position : Nat) (compound : String)
  /-- A component has no name after the character that starts it. -/
  | missingIdentifier (marker : Char) (position : Nat) (compound : String)
  /-- A compound ends inside an attribute test. -/
  | unterminatedAttribute (compound : String)
  /-- An attribute test names no value. -/
  | missingAttributeValue (name : String) (compound : String)
  deriving Repr, DecidableEq

/-- The error in words. -/
def SelectorError.message : SelectorError → String
  | .empty => "empty selector"
  | .unexpectedCharacter found position compound =>
    "unexpected character '" ++ found.toString ++ "' at " ++ toString position ++ " in '" ++
      compound ++ "'"
  | .missingIdentifier marker position compound =>
    "expected identifier after '" ++ marker.toString ++ "' at " ++ toString position ++ " in '" ++
      compound ++ "'"
  | .unterminatedAttribute compound => "unterminated attribute test in '" ++ compound ++ "'"
  | .missingAttributeValue name compound =>
    "attribute test '" ++ name ++ "' has no value in '" ++ compound ++ "'"

end Questionnaire
