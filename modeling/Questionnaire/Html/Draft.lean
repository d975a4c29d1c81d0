/-
# Documents that are being built

While a document is read its nodes are kept in a store by number, with their
parents and children, because what is read later may move nodes that were placed
before. Node 0 is the document itself. When everything is read the draft is
turned into a tree.
-/

import Questionnaire.Html.Node

namespace Questionnaire.Html

/-- The vocabulary that an element belongs to. -/
inductive Vocabulary where
  /-- Ordinary elements of documents. -/
  | html
  /-- Drawings. -/
  | svg
  /-- Formulas. -/
  | math
  deriving Repr, DecidableEq, Inhabited

/-- What a node of a draft is. -/
inductive DraftContent where
  /-- The document. -/
  | document
  /-- An element. -/
  | element (vocabulary : Vocabulary) (tag : String) (attributes : List (String × String))
  /-- A text, with its characters in reverse. -/
  | text (reversed : List Char)
  /-- A comment. -/
  | comment (content : String)
  deriving Repr, Inhabited

/-- A node of a draft. -/
structure DraftNode where
  /-- What the node is. -/
  content : DraftContent
  /-- The node that it stands in. -/
  parent : Option Nat
  /-- The nodes in it, the last one first. -/
  children : List Nat
  deriving Repr, Inhabited

/-- A document that is being built. -/
structure Draft where
  /-- The nodes by their numbers. -/
  nodes : Array DraftNode
  deriving Repr

/-- Where a node can be placed. -/
inductive Spot where
  /-- At the end of a node. -/
  | inside (parent : Nat)
  /-- In a node before one of its children. -/
  | before (parent sibling : Nat)
  deriving Repr, DecidableEq

namespace Draft

/-- The document without content. -/
def empty : Draft := ⟨#[⟨.document, none, []⟩]⟩

/-- A node by its number. -/
def node (draft : Draft) (id : Nat) : DraftNode :=
  draft.nodes.getD id ⟨.document, none, []⟩

/-- Change a node. -/
def update (draft : Draft) (id : Nat) (change : DraftNode → DraftNode) : Draft :=
  ⟨draft.nodes.modify id change⟩

/-- The number of the next node. -/
def nextId (draft : Draft) : Nat := draft.nodes.size

/-- Add a node that stands nowhere yet. Its number is the next one. -/
def create (draft : Draft) (content : DraftContent) : Draft :=
  ⟨draft.nodes.push ⟨content, none, []⟩⟩

/-- Take a node out of its place. -/
def detach (draft : Draft) (id : Nat) : Draft :=
  match (draft.node id).parent with
  | none => draft
  | some parent =>
    (draft.update parent (fun node => { node with children := node.children.erase id })).update id
      (fun node => { node with parent := none })

/-- The children with one more behind the given one in the reversed list. -/
def insertBehind (sibling id : Nat) : List Nat → List Nat
  | [] => [id]
  | other :: rest =>
    if other = sibling then other :: id :: rest else other :: insertBehind sibling id rest

/-- Put a node that stands nowhere at a spot. -/
def place (draft : Draft) (id : Nat) (spot : Spot) : Draft :=
  match spot with
  | .inside parent =>
    (draft.update parent (fun node => { node with children := id :: node.children })).update id
      (fun node => { node with parent := some parent })
  | .before parent sibling =>
    (draft.update parent
      (fun node => { node with children := insertBehind sibling id node.children })).update id
      (fun node => { node with parent := some parent })

/-- Take a node out of its place and put it at a spot. -/
def move (draft : Draft) (id : Nat) (spot : Spot) : Draft :=
  (draft.detach id).place id spot

/-- The child before one child, given the children in reverse. -/
def childBefore (sibling : Nat) : List Nat → Option Nat
  | [] => none
  | other :: rest => if other = sibling then rest.head? else childBefore sibling rest

/-- The node before a spot. -/
def previous (draft : Draft) (spot : Spot) : Option Nat :=
  match spot with
  | .inside parent => (draft.node parent).children.head?
  | .before parent sibling => childBefore sibling (draft.node parent).children

/-- Write text at a spot: at the end of a text that is there, or as a new text.
The document itself holds no text. -/
def write (draft : Draft) (text : List Char) (spot : Spot) : Draft :=
  let parent := match spot with
    | .inside parent => parent
    | .before parent _ => parent
  if parent = 0 || text.isEmpty then draft
  else
    let fresh := (draft.create (.text text.reverse)).place draft.nextId spot
    match draft.previous spot with
    | none => fresh
    | some id =>
      match (draft.node id).content with
      | .text reversed =>
        draft.update id (fun node => { node with content := .text (text.reverse ++ reversed) })
      | _ => fresh

/-- Move all children of a node to the end of another one. -/
def moveChildren (draft : Draft) (source target : Nat) : Draft :=
  (draft.node source).children.reverse.foldl
    (fun draft child => draft.move child (.inside target)) draft

/-- Give an element the attributes that it does not have. -/
def addAttributes (draft : Draft) (id : Nat) (added : List (String × String)) : Draft :=
  draft.update id fun node =>
    match node.content with
    | .element vocabulary tag attributes =>
      let missing := added.filter (fun entry => (attributes.lookup entry.1).isNone)
      { node with content := .element vocabulary tag (attributes ++ missing) }
    | _ => node

/-- The tree below a node. Trees are not deeper than the given number. -/
def toNode (draft : Draft) : Nat → Nat → Node
  | 0, _ => .text ""
  | depth + 1, id =>
    let node := draft.node id
    match node.content with
    | .text reversed => .text (String.ofList reversed.reverse)
    | .comment content => .comment content
    | .element _ tag attributes =>
      .element tag attributes (node.children.reverse.map (draft.toNode depth))
    | .document => .element "" [] (node.children.reverse.map (draft.toNode depth))

/-- The first element of the document. -/
def root (draft : Draft) : Element :=
  let elements := (draft.node 0).children.reverse.filterMap fun id =>
    match draft.toNode draft.nodes.size id with
    | .element tag attributes children => some ⟨tag, attributes, children⟩
    | _ => none
  elements.headD ⟨"html", [], []⟩

end Draft

end Questionnaire.Html
