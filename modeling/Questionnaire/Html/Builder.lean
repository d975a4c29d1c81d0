/-
# The state of reading a document

Reading a document keeps the elements that are open, the formatting elements
that are opened again after they were closed by others, and the place in the
structure of the document, which decides what the next token means. The
operations of this module are the steps from which the rules for tokens are made
up. Every step is a change of the state and has no other effect.
-/

import Questionnaire.Html.Draft
import Questionnaire.Html.Token

namespace Questionnaire.Html

/-- The place in the structure of a document. -/
inductive Mode where
  /-- Before the declaration of the type. -/
  | initial
  /-- Before the root element. -/
  | beforeHtml
  /-- Before the head. -/
  | beforeHead
  /-- Inside the head. -/
  | inHead
  /-- Between the head and the body. -/
  | afterHead
  /-- Inside the body, where most content stands. -/
  | inBody
  /-- Inside an element that holds text only. -/
  | inText
  /-- Inside a table and none of its parts. -/
  | inTable
  /-- In text that is collected inside a table. -/
  | inTableText
  /-- Inside the caption of a table. -/
  | inCaption
  /-- Inside a group of columns. -/
  | inColumnGroup
  /-- Inside a section of a table, between rows. -/
  | inTableBody
  /-- Inside a row, between cells. -/
  | inRow
  /-- Inside a cell. -/
  | inCell
  /-- Inside a list of options. -/
  | inSelect
  /-- Inside a list of options that stands in a table. -/
  | inSelectInTable
  /-- Inside a template. -/
  | inTemplate
  /-- Behind the body. -/
  | afterBody
  /-- Inside a set of frames. -/
  | inFrameset
  /-- Behind a set of frames. -/
  | afterFrameset
  /-- Behind the root element of a document with a body. -/
  | afterAfterBody
  /-- Behind the root element of a document with frames. -/
  | afterAfterFrameset
  deriving Repr, DecidableEq

/-- An entry of the list of formatting elements. -/
inductive FormattingEntry where
  /-- A border that the list is not searched beyond. -/
  | marker
  /-- An element and the tag that opened it. -/
  | element (id : Nat) (tag : Tag)
  deriving Repr

/-- Whether an entry is that of an element. -/
def FormattingEntry.isOf (entry : FormattingEntry) (id : Nat) : Bool :=
  match entry with
  | .marker => false
  | .element other _ => other == id

/-- The state of reading a document. -/
structure Builder where
  /-- The document so far. -/
  draft : Draft
  /-- The place in the structure. -/
  mode : Mode
  /-- The place to go back to after text. -/
  returnMode : Mode
  /-- The places inside the open templates, the innermost one first. -/
  templateModes : List Mode
  /-- The open elements, the innermost one first. -/
  openElements : List Nat
  /-- The formatting elements, the latest one first. -/
  formatting : List FormattingEntry
  /-- The head of the document. -/
  head : Option Nat
  /-- The form that is open. -/
  form : Option Nat
  /-- Whether a frameset may still take the place of the body. -/
  allowsFrameset : Bool
  /-- Whether the rules of old documents hold. -/
  isOld : Bool
  /-- Whether content is moved out of a table that cannot hold it. -/
  fosters : Bool
  /-- Text found in a table, in order. -/
  tableText : List Char
  /-- What the text at hand belongs to. -/
  content : ContentMode
  /-- Whether a line feed at hand is left out. -/
  skipsLineFeed : Bool
  deriving Repr

namespace Builder

/-- Nothing has been read. -/
def start : Builder where
  draft := .empty
  mode := .initial
  returnMode := .initial
  templateModes := []
  openElements := []
  formatting := []
  head := none
  form := none
  allowsFrameset := true
  isOld := false
  fosters := false
  tableText := []
  content := .markup
  skipsLineFeed := false

/-- The tag of a node, which is empty where it is no element. -/
def tagOf (builder : Builder) (id : Nat) : String :=
  match (builder.draft.node id).content with
  | .element _ tag _ => tag
  | _ => ""

/-- The vocabulary of a node. -/
def vocabularyOf (builder : Builder) (id : Nat) : Vocabulary :=
  match (builder.draft.node id).content with
  | .element vocabulary _ _ => vocabulary
  | _ => .html

/-- Whether a node is an ordinary element with one of the given tags. -/
def isOneOf (builder : Builder) (tags : List String) (id : Nat) : Bool :=
  builder.vocabularyOf id == .html && tags.contains (builder.tagOf id)

/-- Whether a node is an ordinary element with a tag. -/
def isElement (builder : Builder) (tag : String) (id : Nat) : Bool :=
  builder.isOneOf [tag] id

/-- The innermost open element. -/
def current (builder : Builder) : Nat := builder.openElements.headD 0

/-- Whether the innermost open element has one of the given tags. -/
def currentIs (builder : Builder) (tags : List String) : Bool :=
  builder.isOneOf tags builder.current

/-- Whether an element with a tag is open. -/
def hasOpen (builder : Builder) (tag : String) : Bool :=
  builder.openElements.any (builder.isElement tag)

/-! ## Scopes -/

/-- Ordinary elements that bound what an end tag can refer to. -/
def scopeBounds : List String :=
  ["applet", "caption", "html", "table", "td", "th", "marquee", "object", "template"]

/-- Whether an element bounds the default scope. -/
def boundsScope (builder : Builder) (id : Nat) : Bool :=
  let tag := builder.tagOf id
  match builder.vocabularyOf id with
  | .html => scopeBounds.contains tag
  | .math => ["mi", "mo", "mn", "ms", "mtext", "annotation-xml"].contains tag
  | .svg => ["foreignObject", "desc", "title"].contains tag

/-- Whether a wanted element is open before any bound, from the inside. -/
def reaches (wanted bound : Nat → Bool) : List Nat → Bool
  | [] => false
  | id :: rest => wanted id || (!bound id && reaches wanted bound rest)

/-- Whether an element with one of the tags is in the default scope. -/
def inScope (builder : Builder) (tags : List String) : Bool :=
  reaches (builder.isOneOf tags) builder.boundsScope builder.openElements

/-- Whether an element with a tag is in the scope of list entries. -/
def inListScope (builder : Builder) (tag : String) : Bool :=
  reaches (builder.isElement tag)
    (fun id => builder.boundsScope id || builder.isOneOf ["ol", "ul"] id) builder.openElements

/-- Whether an element with a tag is in the scope of buttons. -/
def inButtonScope (builder : Builder) (tag : String) : Bool :=
  reaches (builder.isElement tag)
    (fun id => builder.boundsScope id || builder.isElement "button" id) builder.openElements

/-- Whether an element with one of the tags is in the scope of tables. -/
def inTableScope (builder : Builder) (tags : List String) : Bool :=
  reaches (builder.isOneOf tags) (builder.isOneOf ["html", "table", "template"])
    builder.openElements

/-- Whether an element with a tag is in the scope of selections. -/
def inSelectScope (builder : Builder) (tag : String) : Bool :=
  reaches (builder.isElement tag) (fun id => !builder.isOneOf ["optgroup", "option"] id)
    builder.openElements

/-! ## Inserting -/

/-- The elements around which content cannot stand in tables. -/
def tableParts : List String := ["table", "tbody", "tfoot", "thead", "tr"]

/-- Where content goes that a table cannot hold: before the innermost table, or
into the innermost template where that is further inside. -/
def fosterSpot (builder : Builder) : Spot :=
  let template := builder.openElements.findIdx? (builder.isElement "template")
  let table := builder.openElements.findIdx? (builder.isElement "table")
  match template, table with
  | some inner, none => .inside (builder.openElements.getD inner 0)
  | none, none => .inside (builder.openElements.getLastD 0)
  | inner, some outer =>
    if inner.any (· < outer) then .inside (builder.openElements.getD (inner.getD 0) 0)
    else
      let table := builder.openElements.getD outer 0
      match (builder.draft.node table).parent with
      | some parent => .before parent table
      | none => .inside (builder.openElements.getD (outer + 1) 0)

/-- Where content goes that is meant for an element. -/
def spotFor (builder : Builder) (target : Nat) : Spot :=
  if builder.fosters && builder.isOneOf tableParts target then builder.fosterSpot
  else .inside target

/-- Where content goes. -/
def spot (builder : Builder) : Spot := builder.spotFor builder.current

/-- Insert text. -/
def insertText (text : List Char) (builder : Builder) : Builder :=
  { builder with draft := builder.draft.write text builder.spot }

/-- Insert a comment at a spot. -/
def insertCommentAt (content : String) (spot : Spot) (builder : Builder) : Builder :=
  { builder with draft :=
      (builder.draft.create (.comment content)).place builder.draft.nextId spot }

/-- Insert a comment. -/
def insertComment (content : String) (builder : Builder) : Builder :=
  builder.insertCommentAt content builder.spot

/-- Insert an element and open it. -/
def insertForeign (vocabulary : Vocabulary) (tag : Tag) (builder : Builder) : Builder :=
  let id := builder.draft.nextId
  { builder with
    draft := (builder.draft.create (.element vocabulary tag.name tag.attributes)).place id
      builder.spot
    openElements := id :: builder.openElements }

/-- Insert an ordinary element and open it. -/
def insertElement (tag : Tag) (builder : Builder) : Builder :=
  builder.insertForeign .html tag

/-- A tag without attributes. -/
def bareTag (name : String) : Tag := ⟨name, [], false⟩

/-- Close the innermost element. -/
def pop (builder : Builder) : Builder :=
  { builder with openElements := builder.openElements.drop 1 }

/-- Insert an element that has no content. -/
def insertVoid (tag : Tag) (builder : Builder) : Builder :=
  (builder.insertElement tag).pop

/-- Go to a place in the structure. -/
def goTo (mode : Mode) (builder : Builder) : Builder := { builder with mode }

/-- A frameset can no longer take the place of the body. -/
def forbidFrameset (builder : Builder) : Builder := { builder with allowsFrameset := false }

/-- Insert an element that holds text up to its end tag. -/
def insertTextElement (tag : Tag) (content : ContentMode) (builder : Builder) : Builder :=
  let opened := builder.insertElement tag
  { opened with content, returnMode := opened.mode, mode := .inText }

/-! ## Closing -/

/-- Close elements up to the first one that is wanted, which is closed too. -/
def popThrough (wanted : Builder → Nat → Bool) (builder : Builder) : Builder :=
  { builder with
    openElements := (builder.openElements.dropWhile (fun id => !wanted builder id)).drop 1 }

/-- Close elements through the first one with a tag. -/
def popThroughTag (tag : String) (builder : Builder) : Builder :=
  builder.popThrough (fun builder => builder.isElement tag)

/-- Close elements up to one with one of the tags, which stays open. -/
def popBackTo (tags : List String) (builder : Builder) : Builder :=
  { builder with
    openElements := builder.openElements.dropWhile (fun id => !builder.isOneOf tags id) }

/-- Elements whose end tag may be missing. -/
def impliedEnds : List String :=
  ["dd", "dt", "li", "optgroup", "option", "p", "rb", "rp", "rt", "rtc"]

/-- More elements whose end tag may be missing at the end of templates. -/
def thoroughEnds : List String :=
  impliedEnds ++ ["caption", "colgroup", "tbody", "td", "tfoot", "th", "thead", "tr"]

/-- Close elements whose end tag may be missing, except those with a tag. -/
def closeImplied (except : String) (builder : Builder) : Builder :=
  let tags := impliedEnds.filter (· != except)
  { builder with openElements := builder.openElements.dropWhile (builder.isOneOf tags) }

/-- Close all elements whose end tag may be missing at the end of templates. -/
def closeThoroughly (builder : Builder) : Builder :=
  { builder with openElements := builder.openElements.dropWhile (builder.isOneOf thoroughEnds) }

/-- Close an element with a tag and what is open in it. -/
def closeElement (tag : String) (builder : Builder) : Builder :=
  (builder.closeImplied tag).popThroughTag tag

/-- Close a paragraph if one is open in the scope of buttons. -/
def closeParagraph (builder : Builder) : Builder :=
  if builder.inButtonScope "p" then builder.closeElement "p" else builder

/-! ## Formatting elements -/

/-- The entries up to the first border. -/
def recentFormatting : List FormattingEntry → List (Nat × Tag)
  | [] => []
  | .marker :: _ => []
  | .element id tag :: rest => (id, tag) :: recentFormatting rest

/-- Drop the entries through the first border. -/
def clearThroughMarker : List FormattingEntry → List FormattingEntry
  | [] => []
  | .marker :: rest => rest
  | .element _ _ :: rest => clearThroughMarker rest

/-- Set a border in the list of formatting elements. -/
def setMarker (builder : Builder) : Builder :=
  { builder with formatting := .marker :: builder.formatting }

/-- Drop the formatting elements through the latest border. -/
def clearFormatting (builder : Builder) : Builder :=
  { builder with formatting := clearThroughMarker builder.formatting }

/-- Remove an element from the list of formatting elements. -/
def removeFormatting (id : Nat) (builder : Builder) : Builder :=
  { builder with formatting := builder.formatting.filter (fun entry => !entry.isOf id) }

/-- Remove an element from the open elements. -/
def removeOpen (id : Nat) (builder : Builder) : Builder :=
  { builder with openElements := builder.openElements.filter (· != id) }

/-- Whether two tags have one name and the same attributes in any order. -/
def sameTag (first second : Tag) : Bool :=
  first.name == second.name && first.attributes.length == second.attributes.length &&
    first.attributes.all second.attributes.contains

/-- Note the innermost element as a formatting element. Of equal elements not
more than three are kept. -/
def noteFormatting (tag : Tag) (builder : Builder) : Builder :=
  let equal := (recentFormatting builder.formatting).filter (fun entry => sameTag entry.2 tag)
  let reduced := match equal[2]? with
    | some (id, _) => builder.removeFormatting id
    | none => builder
  { reduced with formatting := .element builder.current tag :: reduced.formatting }

/-- Open a formatting element again, as a new element that takes its entry. -/
def reopen (entry : Nat × Tag) (builder : Builder) : Builder :=
  let opened := builder.insertElement entry.2
  { opened with formatting := opened.formatting.map (fun other =>
      if other.isOf entry.1 then .element opened.current entry.2 else other) }

/-- Open the formatting elements again that are not open any more, back to the
latest one that is or to the latest border. -/
def reopenFormatting (builder : Builder) : Builder :=
  let closed := (recentFormatting builder.formatting).takeWhile
    (fun entry => !builder.openElements.contains entry.1)
  closed.reverse.foldl (fun builder entry => builder.reopen entry) builder

/-! ## Special elements and the place in the structure -/

/-- Ordinary elements with rules of their own. -/
def specialTags : List String :=
  ["address", "applet", "area", "article", "aside", "base", "basefont", "bgsound", "blockquote",
   "body", "br", "button", "caption", "center", "col", "colgroup", "dd", "details", "dir", "div",
   "dl", "dt", "embed", "fieldset", "figcaption", "figure", "footer", "form", "frame", "frameset",
   "h1", "h2", "h3", "h4", "h5", "h6", "head", "header", "hgroup", "hr", "html", "iframe", "img",
   "input", "isindex", "li", "link", "listing", "main", "marquee", "menu", "meta", "nav", "noembed",
   "noframes", "noscript", "object", "ol", "p", "param", "plaintext", "pre", "script", "section",
   "select", "source", "style", "summary", "table", "tbody", "td", "template", "textarea", "tfoot",
   "th", "thead", "title", "tr", "track", "ul", "wbr", "xmp"]

/-- Whether an element has rules of its own. -/
def isSpecial (builder : Builder) (id : Nat) : Bool :=
  match builder.vocabularyOf id with
  | .html => specialTags.contains (builder.tagOf id)
  | .math => ["mi", "mo", "mn", "ms", "mtext", "annotation-xml"].contains (builder.tagOf id)
  | .svg => ["foreignObject", "desc", "title"].contains (builder.tagOf id)

/-- Whether a selection stands in a table: the elements around it are searched
up to a template. -/
def selectsInTable (builder : Builder) : List Nat → Bool
  | [] => false
  | id :: rest =>
    if builder.isElement "template" id then false
    else builder.isElement "table" id || selectsInTable builder rest

/-- The place in the structure that the open elements tell. -/
def modeFor (builder : Builder) : List Nat → Mode
  | [] => .inBody
  | id :: rest =>
    let isLast := rest.isEmpty
    if builder.vocabularyOf id != .html then modeFor builder rest
    else
      match builder.tagOf id with
      | "select" => if builder.selectsInTable rest then .inSelectInTable else .inSelect
      | "td" => if isLast then .inBody else .inCell
      | "th" => if isLast then .inBody else .inCell
      | "tr" => .inRow
      | "tbody" => .inTableBody
      | "thead" => .inTableBody
      | "tfoot" => .inTableBody
      | "caption" => .inCaption
      | "colgroup" => .inColumnGroup
      | "table" => .inTable
      | "template" => builder.templateModes.headD .inTemplate
      | "head" => if isLast then .inBody else .inHead
      | "body" => .inBody
      | "frameset" => .inFrameset
      | "html" => if builder.head.isNone then .beforeHead else .afterHead
      | _ => modeFor builder rest

/-- Find the place in the structure anew. -/
def resetMode (builder : Builder) : Builder :=
  builder.goTo (builder.modeFor builder.openElements)

/-! ## Misnested formatting -/

/-- The state of taking misnested formatting apart. -/
structure Adoption where
  /-- The state of reading. -/
  builder : Builder
  /-- The node that is moved next. -/
  moved : Nat
  /-- How many elements were looked at. -/
  count : Nat
  /-- The entry before which the new formatting element is noted. -/
  bookmark : Option Nat

/-- Make a fresh element of a tag that stands nowhere. -/
def createElement (tag : Tag) (builder : Builder) : Builder :=
  { builder with draft := builder.draft.create (.element .html tag.name tag.attributes) }

/-- Look at an element between the block and the formatting element. One that
formats is replaced by a new one that takes what was moved so far; any other one
is no longer open. -/
def adoptStep (block : Nat) (adoption : Adoption) (id : Nat) : Adoption :=
  let count := adoption.count + 1
  let listed := if count > 3 then adoption.builder.removeFormatting id else adoption.builder
  let tag? := listed.formatting.findSome? fun entry =>
    match entry with
    | .element other tag => if other = id then some tag else none
    | .marker => none
  match tag? with
  | none => { adoption with builder := listed.removeOpen id, count }
  | some tag =>
    let fresh := listed.draft.nextId
    let created := listed.createElement tag
    let builder := { created with
      draft := created.draft.move adoption.moved (.inside fresh)
      openElements := created.openElements.map (fun other => if other = id then fresh else other)
      formatting := created.formatting.map (fun entry =>
        if entry.isOf id then .element fresh tag else entry) }
    { builder, moved := fresh, count,
      bookmark := if adoption.moved = block then some fresh else adoption.bookmark }

/-- Put an entry before the entry of an element, or where the entry of another
element was. -/
def placeEntry (bookmark : Option Nat) (old : Nat) (entry : FormattingEntry)
    (entries : List FormattingEntry) : List FormattingEntry :=
  match bookmark with
  | none => entries.map (fun other => if other.isOf old then entry else other)
  | some mark =>
    (entries.filter (fun other => !other.isOf old)).flatMap
      (fun other => if other.isOf mark then [entry, other] else [other])

/-- Take a formatting element apart around the block in it: what is in the block
is formatted inside it, and the block moves out. -/
def adopt (formattingId : Nat) (tag : Tag) (index blockIndex : Nat) (builder : Builder) :
    Builder :=
  let elements := builder.openElements
  let block := elements.getD blockIndex 0
  let ancestor := elements.getD (index + 1) 0
  let between := (elements.take index).drop (blockIndex + 1)
  let adoption := between.foldl (adoptStep block) ⟨builder, block, 0, none⟩
  let moved := adoption.builder
  let detached := { moved with draft := moved.draft.detach adoption.moved }
  let placed := { detached with
    draft := detached.draft.place adoption.moved (detached.spotFor ancestor) }
  let fresh := placed.draft.nextId
  let created := placed.createElement tag
  let filled := { created with
    draft := (created.draft.moveChildren block fresh).place fresh (.inside block) }
  let entries := placeEntry adoption.bookmark formattingId (.element fresh tag) filled.formatting
  { filled with
    formatting := entries
    openElements := (filled.openElements.filter (· != formattingId)).flatMap
      (fun id => if id = block then [fresh, id] else [id]) }

/-- Close an element that has no rules of its own, if it is open inside all
elements that have. -/
def closeOrdinary (tag : String) (builder : Builder) : Builder :=
  let isWanted (id : Nat) : Bool := builder.isElement tag id
  if reaches isWanted builder.isSpecial builder.openElements then
    let closed := builder.closeImplied tag
    { closed with openElements := (closed.openElements.dropWhile (fun id => !isWanted id)).drop 1 }
  else builder

/-- Close formatting elements with a tag, however they are nested with other
elements, in so many rounds at most. -/
def closeFormatting (tag : String) : Nat → Builder → Builder
  | 0, builder => builder
  | rounds + 1, builder =>
    match (recentFormatting builder.formatting).find? (fun entry => entry.2.name == tag) with
    | none => builder.closeOrdinary tag
    | some (id, opened) =>
      match builder.openElements.findIdx? (· == id) with
      | none => builder.removeFormatting id
      | some index =>
        if !reaches (· == id) builder.boundsScope builder.openElements then builder
        else
          let inner := builder.openElements.take index
          match (inner.reverse.findIdx? builder.isSpecial) with
          | none =>
            let closed := { builder with openElements := builder.openElements.drop (index + 1) }
            closed.removeFormatting id
          | some distance =>
            closeFormatting tag rounds (builder.adopt id opened index (index - 1 - distance))

/-- Close a formatting element at its end tag. -/
def endFormatting (tag : String) (builder : Builder) : Builder :=
  let current := builder.current
  if builder.isElement tag current && !builder.formatting.any (fun entry => entry.isOf current) then
    builder.pop
  else closeFormatting tag 8 builder

end Builder

end Questionnaire.Html
