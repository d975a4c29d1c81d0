/-
# Classes in brackets

A class in brackets is a list of characters, ranges, named classes and inner
classes, which stand for their union, and such lists can be joined by `&&` for
the intersection, by `--` for the difference and by `~~` for what is in exactly
one of them. The joining marks bind equally and to the left. Brackets close
their content up to case, where case is ignored, before a `^` turns it into its
complement. How deeply the parts of a class are nested is counted along.
-/

import Questionnaire.Pattern.Reader

namespace Questionnaire.PatternText

/-- How two lists of a class are joined. -/
inductive ClassJoin where
  /-- What is in both. -/
  | both
  /-- What is in the first one only. -/
  | without
  /-- What is in exactly one. -/
  | either
  deriving Repr, DecidableEq

/-- The set of two joined lists. -/
def ClassJoin.apply : ClassJoin → CharacterSet → CharacterSet → CharacterSet
  | .both => .intersection
  | .without => .difference
  | .either => .symmetricDifference

/-- A part of a class: its members and how deeply it is nested. -/
structure ClassPart where
  /-- The characters that the part stands for. -/
  members : CharacterSet
  /-- The number of levels of brackets, lists and joins in the part. -/
  depth : Nat
  deriving Repr

/-- What has been read of a list: the union of its items, their number and the
depth of the deepest one. -/
structure ClassItems where
  /-- The union of the items. -/
  members : CharacterSet
  /-- The number of items. -/
  count : Nat
  /-- The depth of the deepest item. -/
  depth : Nat
  deriving Repr

namespace ClassItems

/-- The list without items. -/
def empty : ClassItems := ⟨.none, 0, 0⟩

/-- Add an item. -/
def add (items : ClassItems) (members : CharacterSet) (depth : Nat) : ClassItems :=
  ⟨items.members.union members, items.count + 1, max items.depth depth⟩

/-- The list as one part. Two and more items make a level of their own. -/
def toPart (items : ClassItems) : ClassPart :=
  ⟨items.members, if items.count < 2 then items.depth else items.depth + 1⟩

end ClassItems

/-- A class that is being read: whether it is a complement, what stands before
the last joining mark, and the list around the class. -/
structure OpenClass where
  /-- The items of the class around this one. -/
  outer : ClassItems
  /-- Whether the class is a complement. -/
  negated : Bool
  /-- What is joined to the next list, if a joining mark was read. -/
  pending : Option (ClassPart × ClassJoin)
  deriving Repr

/-- The part that ends with a list of items. Before a join both sides are closed
up to case where case is ignored. -/
def OpenClass.join (flags : Flags) (current : OpenClass) (items : ClassItems) : ClassPart :=
  match current.pending with
  | none => items.toPart
  | some (left, join) =>
    let right := items.toPart
    let close (set : CharacterSet) : CharacterSet :=
      if flags.ignoreCase then
        if flags.unicode then set.caseClosure else set.asciiCaseClosure
      else set
    ⟨join.apply (close left.members) (close right.members), max left.depth right.depth + 1⟩

/-- The dashes and the bracket that stand for themselves at the start of a class. -/
def readClassStart (verbose : Bool) (items : ClassItems) : List Char → ClassItems × List Char
  | '-' :: rest => readClassStart verbose (items.add (.single '-'.toNat) 0) (skip verbose rest)
  | ']' :: rest =>
    if items.count = 0 then (items.add (.single ']'.toNat) 0, skip verbose rest)
    else (items, ']' :: rest)
  | text => (items, text)
  termination_by text => text.length
  decreasing_by exact Nat.lt_succ_of_le (length_skip_le _ _)

/-- Open a class inside the given items, after its bracket. -/
def openClass (flags : Flags) (outer : ClassItems) (text : List Char) :
    OpenClass × ClassItems × List Char :=
  match skip flags.verbose text with
  | '^' :: rest =>
    (⟨outer, true, none⟩, readClassStart flags.verbose .empty (skip flags.verbose rest))
  | text => (⟨outer, false, none⟩, readClassStart flags.verbose .empty text)

/-- A class of ASCII characters in its own brackets and colons, after its
bracket. -/
def readAsciiClass (flags : Flags) : List Char → Option (Option CharacterSet × List Char)
  | ':' :: text =>
    let (negated, text) :=
      match text with
      | '^' :: rest => (true, rest)
      | _ => (false, text)
    let name := text.takeWhile (· != ':')
    match text.dropWhile (· != ':') with
    | ':' :: ']' :: rest =>
      (CharacterSet.asciiClass? (String.ofList name)).map
        (fun members => (flags.close negated members, rest))
    | _ => none
  | _ => none

/-- One character or escape of a class. -/
def readClassPiece (flags : Flags) : List Char → Option (Piece × List Char)
  | [] => none
  | '\\' :: rest => readEscape flags rest
  | c :: rest => some (.literal c false, rest)

/-- The code point that a character of a class stands for. Without Unicode only
ASCII characters and bytes can be meant. -/
def Flags.classCodePoint (flags : Flags) (c : Char) (isByte : Bool) : Option Nat :=
  if flags.unicode || c.toNat < 0x80 || isByte then some c.toNat else none

/-- One item of a class: a named class, a character or a range. -/
def readClassItem (flags : Flags) (text : List Char) : Option (CharacterSet × List Char) := do
  let (piece, rest) ← readClassPiece flags text
  let rest := skip flags.verbose rest
  let following := skip flags.verbose (rest.drop 1)
  if rest.isEmpty then none
  else if rest.head? == some '-' && following.head? != some ']' && following.head? != some '-' then
    let (last, rest) ← readClassPiece flags following
    match piece, last with
    | .literal first firstByte, .literal last lastByte =>
      let first ← flags.classCodePoint first firstByte
      let last ← flags.classCodePoint last lastByte
      if first ≤ last then some (.range first last, rest) else none
    | _, _ => none
  else
    match piece with
    | .literal c isByte => some (.single (← flags.classCodePoint c isByte), rest)
    | .set members => some (members, rest)
    | .place _ => none

/-- The joining mark at the start of a text. -/
def readJoin : List Char → Option (ClassJoin × List Char)
  | '&' :: '&' :: rest => some (.both, rest)
  | '-' :: '-' :: rest => some (.without, rest)
  | '~' :: '~' :: rest => some (.either, rest)
  | _ => none

/-- What one step of reading a class comes to. -/
inductive ClassStep where
  /-- The outermost class is closed. -/
  | done (part : ClassPart)
  /-- Reading goes on with the class being read, the classes around it and the
  items read last. -/
  | more (current : OpenClass) (outer : List OpenClass) (items : ClassItems)

/-- Read the next part of a class. -/
def stepClass (flags : Flags) (current : OpenClass) (outer : List OpenClass)
    (items : ClassItems) (text : List Char) : Option (ClassStep × List Char) :=
  match text with
  | [] => none
  | '[' :: rest =>
    match readAsciiClass flags rest with
    | some (members, rest) =>
      members.map (fun members => (.more current outer (items.add members 0), rest))
    | none =>
      let (inner, innerItems, rest) := openClass flags items rest
      some (.more inner (current :: outer) innerItems, rest)
  | ']' :: rest =>
    let part := current.join flags items
    match flags.close current.negated part.members with
    | none => none
    | some members =>
      match outer with
      | [] => some (.done ⟨members, part.depth + 1⟩, rest)
      | next :: outer =>
        some (.more next outer (current.outer.add members (part.depth + 1)), rest)
  | text =>
    match readJoin text with
    | some (join, rest) =>
      some (.more { current with pending := some (current.join flags items, join) } outer .empty,
        rest)
    | none =>
      (readClassItem flags text).map
        (fun found => (.more current outer (items.add found.1 0), found.2))

/-- Read a class up to its closing bracket, in at most the given number of
steps. -/
def readClassParts (flags : Flags) (current : OpenClass) (outer : List OpenClass)
    (items : ClassItems) : Nat → List Char → Option (ClassPart × List Char)
  | 0, _ => none
  | steps + 1, text =>
    match stepClass flags current outer items (skip flags.verbose text) with
    | none => none
    | some (.done part, rest) => some (part, rest)
    | some (.more current outer items, rest) =>
      readClassParts flags current outer items steps rest

/-- Read a class, after its opening bracket. Every step reads a character. -/
def readClass (flags : Flags) (text : List Char) : Option (ClassPart × List Char) :=
  let (current, items, rest) := openClass flags .empty text
  readClassParts flags current [] items rest.length rest

end Questionnaire.PatternText
