/-
# Reading patterns

A pattern is read from left to right with a stack of the groups that are open.
Directives for flags hold up to the end of their group, over the marks of later
choices too. A repetition repeats the part before it, which may be a repetition
itself, and there has to be one. Texts that are no pattern, that nest too
deeply, or that ask for what this kind of pattern does not have, such as looking
ahead or referring back, are refused.
-/

import Questionnaire.Pattern.Class
import Questionnaire.Pattern.Match
import Questionnaire.Pattern.Size

namespace Questionnaire.PatternText

/-- A part of a pattern. -/
structure Part where
  /-- What the part stands for. -/
  pattern : TextPattern
  /-- How deeply the part is nested. -/
  depth : Nat
  /-- Whether the part is a directive for flags, which cannot be repeated. -/
  isDirective : Bool
  deriving Repr

/-- A branch of a choice: its parts in reverse. -/
abbrev Branch := List Part

/-- The greatest depth of some parts. -/
def deepest (parts : List Part) : Nat :=
  parts.foldl (fun depth part => max depth part.depth) 0

/-- A branch as one part. Two and more parts make a level of their own. -/
def Branch.toPart (branch : Branch) : Part :=
  match branch with
  | [] => ⟨.empty, 0, false⟩
  | [part] => part
  | parts =>
    let patterns := (parts.reverse.filter (fun part => !part.isDirective)).map Part.pattern
    ⟨.sequenceOf patterns, deepest parts + 1, false⟩

/-- The branches of a choice, in reverse, as one part. -/
def choicePart : List Part → Part
  | [part] => part
  | parts => ⟨.choiceOf (parts.reverse.map Part.pattern), deepest parts + 1, false⟩

/-- A group that is open. -/
structure OpenGroup where
  /-- The flags that hold again after the group. -/
  flags : Flags
  /-- The branch in which the group stands. -/
  branch : Branch
  /-- The branches before that one. -/
  branches : List Part
  /-- Whether the group is remembered. -/
  isCapture : Bool
  deriving Repr

/-- What has been read of a pattern. -/
structure Progress where
  /-- The flags that hold now. -/
  flags : Flags
  /-- The branch that is being read. -/
  branch : Branch
  /-- The branches before it in the same group. -/
  branches : List Part
  /-- The open groups, the innermost one first. -/
  groups : List OpenGroup
  /-- The names of groups so far. -/
  names : List (List Char)
  deriving Repr

namespace Progress

/-- Nothing has been read. -/
def start : Progress := ⟨.initial, [], [], [], []⟩

/-- Add a part to the branch that is being read. -/
def add (progress : Progress) (pattern : TextPattern) (depth : Nat) : Progress :=
  { progress with branch := ⟨pattern, depth, false⟩ :: progress.branch }

/-- What stands in the innermost group as one part. -/
def content (progress : Progress) : Part :=
  choicePart (progress.branch.toPart :: progress.branches)

/-- Open a group. -/
def openGroup (progress : Progress) (flags : Flags) (isCapture : Bool) : Progress :=
  { progress with
    flags, branch := [], branches := [],
    groups :=
      ⟨progress.flags, progress.branch, progress.branches, isCapture⟩ :: progress.groups }

/-- Close the innermost group. -/
def closeGroup (progress : Progress) : Option Progress :=
  match progress.groups with
  | [] => none
  | group :: groups =>
    let content := progress.content
    let pattern := if group.isCapture then .group content.pattern else content.pattern
    some { progress with
      flags := group.flags, branches := group.branches, groups,
      branch := ⟨pattern, content.depth + 1, false⟩ :: group.branch }

/-- Repeat the last part of the branch. -/
def repeatLast (progress : Progress) (least : Nat) (most : Option Nat) : Option Progress :=
  match progress.branch with
  | [] => none
  | part :: branch =>
    if part.isDirective then none
    else some { progress with
      branch := ⟨.repeated part.pattern least most, part.depth + 1, false⟩ :: branch }

/-- Open a group whose parenthesis has been read, or obey its directive. -/
def readGroup (progress : Progress) (text : List Char) : Option (Progress × List Char) :=
  let named (rest : List Char) : Option (Progress × List Char) := do
    let (name, rest) ← readGroupName rest
    if progress.names.contains name then none
    else
      let opened := progress.openGroup progress.flags true
      some ({ opened with names := name :: progress.names }, rest)
  match text with
  | '?' :: '=' :: _ => none
  | '?' :: '!' :: _ => none
  | '?' :: '<' :: '=' :: _ => none
  | '?' :: '<' :: '!' :: _ => none
  | '?' :: 'P' :: '<' :: rest => named rest
  | '?' :: '<' :: rest => named rest
  | '?' :: rest => do
    let ((flags, ending, isBare), rest) ← readFlags progress.flags true [] rest
    if ending == ':' then some (progress.openGroup flags false, rest)
    else if isBare then none
    else some ({ progress with flags, branch := ⟨.empty, 0, true⟩ :: progress.branch }, rest)
  | rest => some (progress.openGroup progress.flags true, rest)

end Progress

/-- The mark that makes a repetition reluctant changes nothing that occurs. -/
def skipReluctance : List Char → List Char
  | '?' :: rest => rest
  | rest => rest

/-- A character outside of classes. -/
def Flags.literalPattern (flags : Flags) (c : Char) (isByte : Bool) : Option TextPattern :=
  let set := CharacterSet.single c.toNat
  if flags.unicode then some (.one (if flags.ignoreCase then set.caseClosure else set))
  else if isByte && c.toNat ≥ 0x80 then none
  else some (.one (if flags.ignoreCase then set.asciiCaseClosure else set))

/-- The dot. Without Unicode it would stand for bytes that are no characters. -/
def Flags.dotPattern (flags : Flags) : Option TextPattern :=
  if !flags.unicode then none
  else if flags.dotAll then some (.one .all)
  else if flags.anyLineEnd then
    some (.one (CharacterSet.ofRanges [(0x0A, 0x0A), (0x0D, 0x0D)]).complement)
  else some (.one (CharacterSet.single 0x0A).complement)

/-- The condition of the anchor at the start. -/
def Flags.startCondition (flags : Flags) : PlaceCondition :=
  if !flags.multiLine then .textStart else if flags.anyLineEnd then .anyLineStart else .lineStart

/-- The condition of the anchor at the end. -/
def Flags.endCondition (flags : Flags) : PlaceCondition :=
  if !flags.multiLine then .textEnd else if flags.anyLineEnd then .anyLineEnd else .lineEnd

/-- The pattern of a piece. -/
def Flags.piecePattern (flags : Flags) : Piece → Option TextPattern
  | .literal c isByte => flags.literalPattern c isByte
  | .set members => some (.one members)
  | .place condition => some (.place condition)

/-- Read the next part of a pattern. -/
def step (progress : Progress) (text : List Char) : Option (Progress × List Char) :=
  let flags := progress.flags
  match text with
  | [] => none
  | c :: rest =>
    match c with
    | '(' => progress.readGroup (skip flags.verbose rest)
    | ')' => progress.closeGroup.map (fun progress => (progress, rest))
    | '|' =>
      some ({ progress with
        branch := [], branches := progress.branch.toPart :: progress.branches }, rest)
    | '[' => (readClass flags rest).map
        (fun found => (progress.add (.one found.1.members) found.1.depth, found.2))
    | '?' => (progress.repeatLast 0 (some 1)).map (fun progress => (progress, skipReluctance rest))
    | '*' => (progress.repeatLast 0 none).map (fun progress => (progress, skipReluctance rest))
    | '+' => (progress.repeatLast 1 none).map (fun progress => (progress, skipReluctance rest))
    | '{' => do
      let ((least, most), rest) ← readBounds flags.verbose rest
      let progress ← progress.repeatLast least most
      some (progress, skipReluctance (skip flags.verbose rest))
    | '\\' => do
      let (piece, rest) ← readEscape flags rest
      some (progress.add (← flags.piecePattern piece) 0, rest)
    | '.' => flags.dotPattern.map (fun pattern => (progress.add pattern 0, rest))
    | '^' => some (progress.add (.place flags.startCondition) 0, rest)
    | '$' => some (progress.add (.place flags.endCondition) 0, rest)
    | c => (flags.literalPattern c false).map (fun pattern => (progress.add pattern 0, rest))

/-- Read parts up to the end of the text, in at most the given number of
steps. -/
def readParts (progress : Progress) : Nat → List Char → Option Part
  | 0, _ => none
  | steps + 1, text =>
    let rest := skip progress.flags.verbose text
    if rest.isEmpty then
      if progress.groups.isEmpty then some progress.content else none
    else
      match step progress rest with
      | none => none
      | some (progress, rest) => readParts progress steps rest

/-- The greatest depth of a pattern. -/
def depthLimit : Nat := 250

end Questionnaire.PatternText

namespace Questionnaire.TextPattern

/-- The pattern that a text describes, if it describes one and the pattern is
neither too deep nor too large. Every step of reading takes a character, and one
more finds the end. -/
def parse? (source : String) : Option TextPattern :=
  match PatternText.readParts .start (source.toList.length + 1) source.toList with
  | none => none
  | some part =>
    if part.depth ≤ PatternText.depthLimit && part.pattern.fits then some part.pattern else none

/-- Whether the pattern that a text describes occurs in another text. A text
that is no pattern occurs nowhere. -/
def occurs (source text : String) : Bool :=
  (parse? source).any (fun pattern => pattern.occursIn text)

end Questionnaire.TextPattern
