/-
# Patterns

A pattern describes pieces of a text. It is built from single characters and
from conditions on the place between two characters by sequence, choice and
repetition. The type leaves open what stands for a character and for a
condition: a pattern that was read holds sets of characters and named
conditions, and a pattern that is set against one text holds the positions of
that text instead.
-/

import Questionnaire.Text.CharacterSet

namespace Questionnaire

/-- The shape of a pattern over tests for characters and for places. -/
inductive Pattern (Class Condition : Type) where
  /-- The empty piece. -/
  | empty
  /-- One character of a class. -/
  | one (set : Class)
  /-- The empty piece at a place that meets a condition. -/
  | place (condition : Condition)
  /-- A piece of the first pattern and then one of the second. -/
  | sequence (first second : Pattern Class Condition)
  /-- A piece of either pattern. -/
  | choice (first second : Pattern Class Condition)
  /-- At least so many pieces of a pattern, and at most so many if there is a
  greatest number. -/
  | repeated (body : Pattern Class Condition) (least : Nat) (most : Option Nat)
  /-- A piece of a pattern that is remembered as a group. -/
  | group (body : Pattern Class Condition)
  deriving Repr, Inhabited, DecidableEq

namespace Pattern

variable {Class Condition Class' Condition' : Type}

/-- Replace the tests of a pattern. -/
def map (onClass : Class → Class') (onCondition : Condition → Condition') :
    Pattern Class Condition → Pattern Class' Condition'
  | .empty => .empty
  | .one set => .one (onClass set)
  | .place condition => .place (onCondition condition)
  | .sequence first second =>
    .sequence (first.map onClass onCondition) (second.map onClass onCondition)
  | .choice first second =>
    .choice (first.map onClass onCondition) (second.map onClass onCondition)
  | .repeated body least most => .repeated (body.map onClass onCondition) least most
  | .group body => .group (body.map onClass onCondition)

/-- The patterns one after the other. -/
def sequenceOf : List (Pattern Class Condition) → Pattern Class Condition
  | [] => .empty
  | [last] => last
  | first :: rest => .sequence first (sequenceOf rest)

/-- Any of the patterns. Without patterns it is the empty piece. -/
def choiceOf : List (Pattern Class Condition) → Pattern Class Condition
  | [] => .empty
  | [last] => last
  | first :: rest => .choice first (choiceOf rest)

/-- No piece or one piece of a pattern. -/
def optional (body : Pattern Class Condition) : Pattern Class Condition :=
  .repeated body 0 (some 1)

/-- One or more pieces of a pattern. -/
def oneOrMore (body : Pattern Class Condition) : Pattern Class Condition :=
  .repeated body 1 none

end Pattern

/-- A condition on the place between two characters, which may also be the start
or the end of the text. -/
inductive PlaceCondition where
  /-- The start of the text. -/
  | textStart
  /-- The end of the text. -/
  | textEnd
  /-- The start of the text or the place after a line feed. -/
  | lineStart
  /-- The end of the text or the place before a line feed. -/
  | lineEnd
  /-- The start of a line where a carriage return, a line feed or both end one. -/
  | anyLineStart
  /-- The end of a line where a carriage return, a line feed or both end one. -/
  | anyLineEnd
  /-- A start or an end of a word. -/
  | wordEdge (word : CharacterSet)
  /-- Neither a start nor an end of a word. -/
  | noWordEdge (word : CharacterSet)
  /-- The start of a word. -/
  | wordStart (word : CharacterSet)
  /-- The end of a word. -/
  | wordEnd (word : CharacterSet)
  /-- No character of a word before the place. -/
  | afterNoWord (word : CharacterSet)
  /-- No character of a word after the place. -/
  | beforeNoWord (word : CharacterSet)
  deriving Repr, DecidableEq

/-- A pattern over sets of characters and named conditions. -/
abbrev TextPattern := Pattern CharacterSet PlaceCondition

/-- Whether the place between two characters meets a condition. A missing
character is the start or the end of the text. -/
def PlaceCondition.holds (condition : PlaceCondition) (before after : Option Char) : Bool :=
  let inWord (word : CharacterSet) (c : Option Char) : Bool := c.any word.contains
  match condition with
  | .textStart => before.isNone
  | .textEnd => after.isNone
  | .lineStart => before.all (fun c => c == '\n')
  | .lineEnd => after.all (fun c => c == '\n')
  | .anyLineStart =>
    before.all (fun c => c == '\n' || (c == '\r' && after != some '\n'))
  | .anyLineEnd =>
    after.all (fun c => c == '\r' || (c == '\n' && before != some '\r'))
  | .wordEdge word => inWord word before != inWord word after
  | .noWordEdge word => inWord word before == inWord word after
  | .wordStart word => !inWord word before && inWord word after
  | .wordEnd word => inWord word before && !inWord word after
  | .afterNoWord word => !inWord word before
  | .beforeNoWord word => !inWord word after

end Questionnaire
