/-
# The rules for tokens

What a token does to a document depends on the place in its structure. Every
place has its rules; a rule may close and open elements, and it may leave the
token to be looked at again at another place. Elements that must be there are
put in when they are missing, and tokens that make no sense are left out, so
that every text is a document.
-/

import Questionnaire.Html.Builder

namespace Questionnaire.Html

/-- A token with its text told apart. -/
inductive Item where
  /-- The declaration of the type. -/
  | doctype (isOld : Bool)
  /-- A start tag. -/
  | startTag (tag : Tag)
  /-- An end tag by its name. -/
  | endTag (name : String)
  /-- A comment. -/
  | comment (content : String)
  /-- Characters that no text holds. -/
  | nulls
  /-- White space. -/
  | blanks (text : List Char)
  /-- Other text. -/
  | letters (text : List Char)
  /-- The end of the document. -/
  | finish
  deriving Repr

/-- What a rule comes to: the item is dealt with, or it is looked at again. -/
inductive Outcome where
  /-- The item is dealt with. -/
  | done (builder : Builder)
  /-- The item is looked at again. -/
  | again (builder : Builder)

namespace Builder

/-- The tags whose elements stand in heads and are read alike everywhere. -/
def headTags : List String :=
  ["base", "basefont", "bgsound", "link", "meta", "noframes", "script", "style", "template",
   "title"]

/-- The tags of the parts of tables. -/
def tablePartTags : List String :=
  ["caption", "col", "colgroup", "tbody", "td", "tfoot", "th", "thead", "tr"]

/-- The tags of headings. -/
def headingTags : List String := ["h1", "h2", "h3", "h4", "h5", "h6"]

/-- The tags of formatting elements, apart from links. -/
def formattingTags : List String :=
  ["b", "big", "code", "em", "font", "i", "s", "small", "strike", "strong", "tt", "u"]

/-- The tags of blocks that are read alike. -/
def blockTags : List String :=
  ["address", "article", "aside", "blockquote", "center", "details", "dialog", "dir", "div", "dl",
   "fieldset", "figcaption", "figure", "footer", "header", "hgroup", "main", "menu", "nav", "ol",
   "p", "section", "summary", "ul"]

/-- A second start tag of the whole document gives its attributes to the first. -/
def mergeHtml (tag : Tag) (builder : Builder) : Builder :=
  if builder.hasOpen "template" then builder
  else
    { builder with
      draft := builder.draft.addAttributes (builder.openElements.getLastD 0) tag.attributes }

/-- Close a template and everything in it. -/
def closeTemplate (builder : Builder) : Builder :=
  let closed := (builder.popThroughTag "template").clearFormatting
  { closed with templateModes := closed.templateModes.drop 1 }.resetMode

/-- The start tag of an element of heads. -/
def startHeadElement (tag : Tag) (builder : Builder) : Builder :=
  match tag.name with
  | "title" => builder.insertTextElement tag (.resolvedText tag.name)
  | "noframes" | "style" | "noscript" => builder.insertTextElement tag (.rawText tag.name)
  | "script" => builder.insertTextElement tag .script
  | "template" =>
    let opened := (((builder.insertElement tag).setMarker).forbidFrameset).goTo .inTemplate
    { opened with templateModes := .inTemplate :: opened.templateModes }
  | _ => builder.insertVoid tag

/-- The end tag of a template. -/
def endTemplate (builder : Builder) : Builder :=
  if builder.hasOpen "template" then builder.closeThoroughly.closeTemplate else builder

/-- Before anything was read. -/
def initialRule (builder : Builder) (item : Item) : Outcome :=
  match item with
  | .blanks _ => .done builder
  | .comment content => .done (builder.insertCommentAt content (.inside 0))
  | .doctype isOld => .done ({ builder with isOld }.goTo .beforeHtml)
  | _ => .again ({ builder with isOld := true }.goTo .beforeHtml)

/-- Open the element of the whole document. -/
def openHtml (tag : Tag) (builder : Builder) : Builder :=
  let id := builder.draft.nextId
  { builder with
    draft := (builder.draft.create (.element .html tag.name tag.attributes)).place id (.inside 0)
    openElements := [id]
    mode := .beforeHead }

/-- Whether an end tag at the start of a document opens what is missing. -/
def opensMissing (name : String) : Bool :=
  ["head", "body", "html", "br"].contains name

/-- Before the element of the whole document. -/
def beforeHtmlRule (builder : Builder) (item : Item) : Outcome :=
  let otherwise : Outcome := .again (builder.openHtml (bareTag "html"))
  match item with
  | .doctype _ => .done builder
  | .blanks _ => .done builder
  | .comment content => .done (builder.insertCommentAt content (.inside 0))
  | .startTag tag => if tag.name = "html" then .done (builder.openHtml tag) else otherwise
  | .endTag name => if opensMissing name then otherwise else .done builder
  | _ => otherwise

/-- Open the head of the document. -/
def openHead (tag : Tag) (builder : Builder) : Builder :=
  let opened := builder.insertElement tag
  { opened with head := some opened.current, mode := .inHead }

/-- Before the head. -/
def beforeHeadRule (builder : Builder) (item : Item) : Outcome :=
  let otherwise : Outcome := .again (builder.openHead (bareTag "head"))
  match item with
  | .doctype _ => .done builder
  | .blanks _ => .done builder
  | .comment content => .done (builder.insertComment content)
  | .startTag tag =>
    if tag.name = "html" then .done (builder.mergeHtml tag)
    else if tag.name = "head" then .done (builder.openHead tag)
    else otherwise
  | .endTag name => if opensMissing name then otherwise else .done builder
  | _ => otherwise

/-- In the head. -/
def inHeadRule (builder : Builder) (item : Item) : Outcome :=
  let otherwise : Outcome := .again (builder.pop.goTo .afterHead)
  match item with
  | .doctype _ => .done builder
  | .blanks text => .done (builder.insertText text)
  | .comment content => .done (builder.insertComment content)
  | .startTag tag =>
    if tag.name = "html" then .done (builder.mergeHtml tag)
    else if tag.name = "head" then .done builder
    else if tag.name = "noscript" || headTags.contains tag.name then
      .done (builder.startHeadElement tag)
    else otherwise
  | .endTag name =>
    if name = "head" then .done (builder.pop.goTo .afterHead)
    else if name = "template" then .done builder.endTemplate
    else if opensMissing name then otherwise
    else .done builder
  | _ => otherwise

/-- After the head. -/
def afterHeadRule (builder : Builder) (item : Item) : Outcome :=
  let otherwise : Outcome := .again ((builder.insertElement (bareTag "body")).goTo .inBody)
  match item with
  | .doctype _ => .done builder
  | .blanks text => .done (builder.insertText text)
  | .comment content => .done (builder.insertComment content)
  | .startTag tag =>
    if tag.name = "html" then .done (builder.mergeHtml tag)
    else if tag.name = "body" then
      .done (((builder.insertElement tag).forbidFrameset).goTo .inBody)
    else if tag.name = "frameset" then .done ((builder.insertElement tag).goTo .inFrameset)
    else if tag.name = "head" then .done builder
    else if headTags.contains tag.name then
      match builder.head with
      | none => .done builder
      | some head =>
        let opened := { builder with openElements := head :: builder.openElements }
        .done ((opened.startHeadElement tag).removeOpen head)
    else otherwise
  | .endTag name =>
    if name = "template" then .done builder.endTemplate
    else if opensMissing name && name != "head" then otherwise
    else .done builder
  | _ => otherwise

/-- The end of the document inside a template. -/
def finishTemplate (builder : Builder) : Outcome :=
  if builder.hasOpen "template" then .again builder.closeTemplate else .done builder

/-- Close list entries before a new one: the nearest entry with one of the tags,
unless an element with rules of its own is in between. -/
def closeEntries (tags : List String) (builder : Builder) : Builder :=
  let passes (id : Nat) : Bool :=
    !builder.isOneOf tags id &&
      (!builder.isSpecial id || builder.isOneOf ["address", "div", "p"] id)
  match (builder.openElements.dropWhile passes).head? with
  | none => builder
  | some id =>
    if builder.isOneOf tags id then builder.closeElement (builder.tagOf id) else builder

/-- The start tag of a form, which cannot stand in another form. -/
def startForm (tag : Tag) (builder : Builder) : Builder :=
  if builder.form.isSome && !builder.hasOpen "template" then builder
  else
    let opened := builder.closeParagraph.insertElement tag
    if opened.hasOpen "template" then opened else { opened with form := some opened.current }

/-- The end tag of a form. What is open in the form stays open. -/
def endForm (builder : Builder) : Builder :=
  if builder.hasOpen "template" then
    if builder.inScope ["form"] then (builder.closeImplied "").popThroughTag "form" else builder
  else
    let cleared := { builder with form := none }
    match builder.form with
    | none => cleared
    | some form =>
      if reaches (· == form) builder.boundsScope builder.openElements then
        (cleared.closeImplied "").removeOpen form
      else cleared

/-- The start tag of a link, which cannot stand in another link. -/
def startLink (tag : Tag) (builder : Builder) : Builder :=
  let ended :=
    match (recentFormatting builder.formatting).find? (fun entry => entry.2.name == "a") with
    | none => builder
    | some (id, _) => ((builder.endFormatting "a").removeFormatting id).removeOpen id
  (ended.reopenFormatting.insertElement tag).noteFormatting tag

/-- The start tag of a formatting element. -/
def startFormatting (tag : Tag) (builder : Builder) : Builder :=
  (builder.reopenFormatting.insertElement tag).noteFormatting tag

/-- The start tag of text that must not break. -/
def startUnbroken (tag : Tag) (builder : Builder) : Builder :=
  let opened := builder.reopenFormatting
  let ended := if opened.inScope ["nobr"] then
      (opened.endFormatting "nobr").reopenFormatting
    else opened
  (ended.insertElement tag).noteFormatting tag

/-- Whether a tag is that of an input that is not shown. -/
def isHiddenInput (tag : Tag) : Bool :=
  (tag.attributes.lookup "type").any (fun value => Text.asciiLower value == "hidden")

/-- The start tag of an input. -/
def startInput (tag : Tag) (builder : Builder) : Builder :=
  let inserted := builder.reopenFormatting.insertVoid tag
  if isHiddenInput tag then inserted else inserted.forbidFrameset

/-- The start tag of a selection. -/
def startSelect (tag : Tag) (builder : Builder) : Builder :=
  let opened := (builder.reopenFormatting.insertElement tag).forbidFrameset
  let tableModes : List Mode := [.inTable, .inCaption, .inTableBody, .inRow, .inCell]
  opened.goTo (if tableModes.contains opened.mode then .inSelectInTable else .inSelect)

/-- The attributes of drawings and formulas that belong to no vocabulary of
their own, with the names that drawings and formulas give them. -/
def foreignAttributes (vocabulary : Vocabulary) (attributes : List (String × String)) :
    List (String × String) :=
  let qualified := ["xlink:actuate", "xlink:arcrole", "xlink:href", "xlink:role", "xlink:show",
    "xlink:title", "xlink:type", "xml:lang", "xml:space", "xmlns", "xmlns:xlink"]
  let drawingNames := ["attributeName", "attributeType", "baseFrequency", "baseProfile", "calcMode",
    "clipPathUnits", "diffuseConstant", "edgeMode", "filterUnits", "glyphRef",
    "gradientTransform", "gradientUnits", "kernelMatrix", "kernelUnitLength", "keyPoints",
    "keySplines", "keyTimes", "lengthAdjust", "limitingConeAngle", "markerHeight", "markerUnits",
    "markerWidth", "maskContentUnits", "maskUnits", "numOctaves", "pathLength",
    "patternContentUnits", "patternTransform", "patternUnits", "pointsAtX", "pointsAtY",
    "pointsAtZ", "preserveAlpha", "preserveAspectRatio", "primitiveUnits", "refX", "refY",
    "repeatCount", "repeatDur", "requiredExtensions", "requiredFeatures", "specularConstant",
    "specularExponent", "spreadMethod", "startOffset", "stdDeviation", "stitchTiles",
    "surfaceScale", "systemLanguage", "tableValues", "targetX", "targetY", "textLength",
    "viewBox", "viewTarget", "xChannelSelector", "yChannelSelector", "zoomAndPan"]
  let names := if vocabulary = .svg then drawingNames
    else if vocabulary = .math then ["definitionURL"] else []
  (attributes.filter (fun entry => !qualified.contains entry.1)).map fun entry =>
    ((names.find? (fun name => Text.asciiLower name == entry.1)).getD entry.1, entry.2)

/-- The start tag of a drawing or a formula. -/
def startForeign (vocabulary : Vocabulary) (tag : Tag) (builder : Builder) : Builder :=
  let adjusted := { tag with attributes := foreignAttributes vocabulary tag.attributes }
  let opened := builder.insertForeign vocabulary adjusted
  if tag.isSelfClosing then opened.pop else opened

/-- A start tag in the body. -/
def startInBody (builder : Builder) (tag : Tag) : Outcome :=
  let name := tag.name
  if name = "html" then .done (builder.mergeHtml tag)
  else if headTags.contains name then .done (builder.startHeadElement tag)
  else if name = "body" then
    let body? := builder.openElements.reverse[1]?
    match body? with
    | none => .done builder
    | some body =>
      if builder.isElement "body" body && !builder.hasOpen "template" then
        .done { builder.forbidFrameset with
          draft := builder.draft.addAttributes body tag.attributes }
      else .done builder
  else if name = "frameset" then
    match builder.openElements.reverse[1]? with
    | none => .done builder
    | some body =>
      if builder.allowsFrameset && builder.isElement "body" body then
        let removed := { builder with
          draft := builder.draft.detach body
          openElements := builder.openElements.drop (builder.openElements.length - 1) }
        .done ((removed.insertElement tag).goTo .inFrameset)
      else .done builder
  else if blockTags.contains name then .done (builder.closeParagraph.insertElement tag)
  else if headingTags.contains name then
    let closed := builder.closeParagraph
    .done ((if closed.currentIs headingTags then closed.pop else closed).insertElement tag)
  else if name = "pre" || name = "listing" then
    .done { (builder.closeParagraph.insertElement tag).forbidFrameset with skipsLineFeed := true }
  else if name = "form" then .done (builder.startForm tag)
  else if name = "li" then
    .done ((builder.forbidFrameset.closeEntries ["li"]).closeParagraph.insertElement tag)
  else if name = "dd" || name = "dt" then
    .done ((builder.forbidFrameset.closeEntries ["dd", "dt"]).closeParagraph.insertElement tag)
  else if name = "plaintext" then
    .done { builder.closeParagraph.insertElement tag with content := .plain }
  else if name = "button" then
    let closed := if builder.inScope ["button"] then
        (builder.closeImplied "").popThroughTag "button"
      else builder
    .done (closed.reopenFormatting.insertElement tag).forbidFrameset
  else if name = "a" then .done (builder.startLink tag)
  else if formattingTags.contains name then .done (builder.startFormatting tag)
  else if name = "nobr" then .done (builder.startUnbroken tag)
  else if ["applet", "marquee", "object"].contains name then
    .done ((builder.reopenFormatting.insertElement tag).setMarker).forbidFrameset
  else if name = "table" then
    let closed := if builder.isOld then builder else builder.closeParagraph
    .done ((closed.insertElement tag).forbidFrameset.goTo .inTable)
  else if ["area", "br", "embed", "img", "keygen", "wbr"].contains name then
    .done (builder.reopenFormatting.insertVoid tag).forbidFrameset
  else if name = "input" then .done (builder.startInput tag)
  else if ["param", "source", "track"].contains name then .done (builder.insertVoid tag)
  else if name = "hr" then .done (builder.closeParagraph.insertVoid tag).forbidFrameset
  else if name = "image" then
    .done (builder.reopenFormatting.insertVoid { tag with name := "img" }).forbidFrameset
  else if name = "textarea" then
    .done { (builder.insertTextElement tag (.resolvedText name)).forbidFrameset with
      skipsLineFeed := true }
  else if name = "xmp" then
    .done ((builder.closeParagraph.reopenFormatting.forbidFrameset).insertTextElement tag
      (.rawText name))
  else if name = "iframe" then .done (builder.forbidFrameset.insertTextElement tag (.rawText name))
  else if name = "noembed" || name = "noscript" then
    .done (builder.insertTextElement tag (.rawText name))
  else if name = "select" then .done (builder.startSelect tag)
  else if name = "optgroup" || name = "option" then
    let closed := if builder.currentIs ["option"] then builder.pop else builder
    .done (closed.reopenFormatting.insertElement tag)
  else if name = "rb" || name = "rtc" then
    let closed := if builder.inScope ["ruby"] then builder.closeImplied "" else builder
    .done (closed.insertElement tag)
  else if name = "rp" || name = "rt" then
    let closed := if builder.inScope ["ruby"] then builder.closeImplied "rtc" else builder
    .done (closed.insertElement tag)
  else if name = "math" then .done (builder.reopenFormatting.startForeign .math tag)
  else if name = "svg" then .done (builder.reopenFormatting.startForeign .svg tag)
  else if tablePartTags.contains name || name = "frame" || name = "head" then .done builder
  else .done (builder.reopenFormatting.insertElement tag)

/-- An end tag in the body. -/
def endInBody (builder : Builder) (name : String) : Outcome :=
  if name = "template" then .done builder.endTemplate
  else if name = "body" then
    .done (if builder.inScope ["body"] then builder.goTo .afterBody else builder)
  else if name = "html" then
    if builder.inScope ["body"] then .again (builder.goTo .afterBody) else .done builder
  else if (name != "p" && blockTags.contains name) ||
      ["button", "listing", "pre"].contains name then
    .done
      (if builder.inScope [name] then (builder.closeImplied "").popThroughTag name else builder)
  else if name = "form" then .done builder.endForm
  else if name = "p" then
    let opened := if builder.inButtonScope "p" then builder
      else builder.insertElement (bareTag "p")
    .done (opened.closeElement "p")
  else if name = "li" then
    .done (if builder.inListScope "li" then builder.closeElement "li" else builder)
  else if name = "dd" || name = "dt" then
    .done (if builder.inScope [name] then builder.closeElement name else builder)
  else if headingTags.contains name then
    .done (if builder.inScope headingTags then
        (builder.closeImplied "").popThrough (fun builder => builder.isOneOf headingTags)
      else builder)
  else if name = "a" || name = "nobr" || formattingTags.contains name then
    .done (builder.endFormatting name)
  else if ["applet", "marquee", "object"].contains name then
    .done (if builder.inScope [name] then
        ((builder.closeImplied "").popThroughTag name).clearFormatting
      else builder)
  else if name = "br" then
    .done (builder.reopenFormatting.insertVoid (bareTag "br")).forbidFrameset
  else .done (builder.closeOrdinary name)

/-- In the body. -/
def inBodyRule (builder : Builder) (item : Item) : Outcome :=
  match item with
  | .nulls => .done builder
  | .blanks text => .done (builder.reopenFormatting.insertText text)
  | .letters text => .done (builder.reopenFormatting.insertText text).forbidFrameset
  | .comment content => .done (builder.insertComment content)
  | .doctype _ => .done builder
  | .startTag tag => builder.startInBody tag
  | .endTag name => builder.endInBody name
  | .finish => if builder.templateModes.isEmpty then .done builder else builder.finishTemplate

/-- In an element that holds text. -/
def inTextRule (builder : Builder) (item : Item) : Outcome :=
  let closed := { builder.pop.goTo builder.returnMode with content := .markup }
  match item with
  | .blanks text => .done (builder.insertText text)
  | .letters text => .done (builder.insertText text)
  | .finish => .again closed
  | .endTag _ => .done closed
  | _ => .done builder

/-- Do what the body would do, with content moved out of the table. -/
def fostered (builder : Builder) (item : Item) : Outcome :=
  match { builder with fosters := true }.inBodyRule item with
  | .done builder => .done { builder with fosters := false }
  | .again builder => .again { builder with fosters := false }

/-- A start tag in a table. -/
def startInTable (builder : Builder) (tag : Tag) : Outcome :=
  let cleared := builder.popBackTo ["table", "template", "html"]
  match tag.name with
  | "caption" => .done ((cleared.setMarker.insertElement tag).goTo .inCaption)
  | "colgroup" => .done ((cleared.insertElement tag).goTo .inColumnGroup)
  | "col" => .again ((cleared.insertElement (bareTag "colgroup")).goTo .inColumnGroup)
  | "tbody" | "tfoot" | "thead" => .done ((cleared.insertElement tag).goTo .inTableBody)
  | "td" | "th" | "tr" => .again ((cleared.insertElement (bareTag "tbody")).goTo .inTableBody)
  | "table" =>
    if builder.inTableScope ["table"] then .again (builder.popThroughTag "table").resetMode
    else .done builder
  | "style" | "script" | "template" => .done (builder.startHeadElement tag)
  | "input" =>
    if isHiddenInput tag then .done (builder.insertVoid tag) else builder.fostered (.startTag tag)
  | "form" =>
    if builder.form.isSome || builder.hasOpen "template" then .done builder
    else
      let opened := builder.insertElement tag
      .done { opened.pop with form := some opened.current }
  | _ => builder.fostered (.startTag tag)

/-- In a table. -/
def inTableRule (builder : Builder) (item : Item) : Outcome :=
  let text : Outcome :=
    if builder.currentIs ["table", "tbody", "template", "tfoot", "thead", "tr"] then
      .again { builder with tableText := [], returnMode := builder.mode, mode := .inTableText }
    else builder.fostered item
  match item with
  | .nulls => text
  | .blanks _ => text
  | .letters _ => text
  | .comment content => .done (builder.insertComment content)
  | .doctype _ => .done builder
  | .startTag tag => builder.startInTable tag
  | .endTag name =>
    if name = "table" then
      .done (if builder.inTableScope ["table"] then (builder.popThroughTag "table").resetMode
        else builder)
    else if name = "template" then .done builder.endTemplate
    else if ["body", "html"].contains name || tablePartTags.contains name then .done builder
    else builder.fostered item
  | .finish => builder.inBodyRule item

/-- Write the text found in a table: in the table if it is white space, and out
of it otherwise. -/
def flushTableText (builder : Builder) : Builder :=
  let emptied := { builder with tableText := [], mode := builder.returnMode }
  if builder.tableText.all Token.isBlank then emptied.insertText builder.tableText
  else
    let written := ({ emptied with fosters := true }.reopenFormatting).insertText builder.tableText
    { written.forbidFrameset with fosters := false }

/-- In the text of a table. -/
def inTableTextRule (builder : Builder) (item : Item) : Outcome :=
  match item with
  | .nulls => .done builder
  | .blanks text => .done { builder with tableText := builder.tableText ++ text }
  | .letters text => .done { builder with tableText := builder.tableText ++ text }
  | _ => .again builder.flushTableText

/-- In the caption of a table. -/
def inCaptionRule (builder : Builder) (item : Item) : Outcome :=
  let closed :=
    (((builder.closeImplied "").popThroughTag "caption").clearFormatting).goTo .inTable
  let isOpen := builder.inTableScope ["caption"]
  match item with
  | .startTag tag =>
    if tablePartTags.contains tag.name then if isOpen then .again closed else .done builder
    else builder.inBodyRule item
  | .endTag name =>
    if name = "caption" then .done (if isOpen then closed else builder)
    else if name = "table" then if isOpen then .again closed else .done builder
    else if ["body", "html"].contains name || tablePartTags.contains name then .done builder
    else builder.inBodyRule item
  | _ => builder.inBodyRule item

/-- In a group of columns. -/
def inColumnGroupRule (builder : Builder) (item : Item) : Outcome :=
  let isOpen := builder.currentIs ["colgroup"]
  let otherwise : Outcome :=
    if isOpen then .again (builder.pop.goTo .inTable) else .done builder
  match item with
  | .blanks text => .done (builder.insertText text)
  | .comment content => .done (builder.insertComment content)
  | .doctype _ => .done builder
  | .startTag tag =>
    if tag.name = "html" then .done (builder.mergeHtml tag)
    else if tag.name = "col" then .done (builder.insertVoid tag)
    else if tag.name = "template" then .done (builder.startHeadElement tag)
    else otherwise
  | .endTag name =>
    if name = "colgroup" then .done (if isOpen then builder.pop.goTo .inTable else builder)
    else if name = "col" then .done builder
    else if name = "template" then .done builder.endTemplate
    else otherwise
  | .finish => builder.inBodyRule item
  | _ => otherwise

/-- The tags of groups of rows. -/
def rowGroupTags : List String := ["tbody", "tfoot", "thead"]

/-- In a group of rows. -/
def inTableBodyRule (builder : Builder) (item : Item) : Outcome :=
  let cleared := builder.popBackTo ["tbody", "tfoot", "thead", "template", "html"]
  let ended : Outcome :=
    if builder.inTableScope rowGroupTags then .again (cleared.pop.goTo .inTable) else .done builder
  match item with
  | .startTag tag =>
    if tag.name = "tr" then .done ((cleared.insertElement tag).goTo .inRow)
    else if tag.name = "th" || tag.name = "td" then
      .again ((cleared.insertElement (bareTag "tr")).goTo .inRow)
    else if tablePartTags.contains tag.name then ended
    else builder.inTableRule item
  | .endTag name =>
    if rowGroupTags.contains name then
      .done (if builder.inTableScope [name] then cleared.pop.goTo .inTable else builder)
    else if name = "table" then ended
    else if ["body", "html"].contains name || tablePartTags.contains name then .done builder
    else builder.inTableRule item
  | _ => builder.inTableRule item

/-- In a row. -/
def inRowRule (builder : Builder) (item : Item) : Outcome :=
  let cleared := builder.popBackTo ["tr", "template", "html"]
  let closed := cleared.pop.goTo .inTableBody
  let isOpen := builder.inTableScope ["tr"]
  match item with
  | .startTag tag =>
    if tag.name = "th" || tag.name = "td" then
      .done (((cleared.insertElement tag).goTo .inCell).setMarker)
    else if tablePartTags.contains tag.name then if isOpen then .again closed else .done builder
    else builder.inTableRule item
  | .endTag name =>
    if name = "tr" then .done (if isOpen then closed else builder)
    else if name = "table" then if isOpen then .again closed else .done builder
    else if rowGroupTags.contains name then
      if builder.inTableScope [name] && isOpen then .again closed else .done builder
    else if ["body", "html"].contains name || tablePartTags.contains name then .done builder
    else builder.inTableRule item
  | _ => builder.inTableRule item

/-- Close the open cell. -/
def closeCell (builder : Builder) : Builder :=
  (((builder.closeImplied "").popThrough
    (fun builder => builder.isOneOf ["td", "th"])).clearFormatting).goTo .inRow

/-- In a cell. -/
def inCellRule (builder : Builder) (item : Item) : Outcome :=
  match item with
  | .startTag tag =>
    if tablePartTags.contains tag.name then
      if builder.inTableScope ["td", "th"] then .again builder.closeCell else .done builder
    else builder.inBodyRule item
  | .endTag name =>
    if name = "td" || name = "th" then
      .done (if builder.inTableScope [name] then
          (((builder.closeImplied "").popThroughTag name).clearFormatting).goTo .inRow
        else builder)
    else if ["body", "caption", "col", "colgroup", "html"].contains name then .done builder
    else if name = "table" || name = "tr" || rowGroupTags.contains name then
      if builder.inTableScope [name] then .again builder.closeCell else .done builder
    else builder.inBodyRule item
  | _ => builder.inBodyRule item

/-- Close the innermost element if it has one of the tags. -/
def popIf (tags : List String) (builder : Builder) : Builder :=
  if builder.currentIs tags then builder.pop else builder

/-- Close a selection. -/
def closeSelect (builder : Builder) : Builder :=
  (builder.popThroughTag "select").resetMode

/-- In a selection. -/
def inSelectRule (builder : Builder) (item : Item) : Outcome :=
  match item with
  | .nulls => .done builder
  | .blanks text => .done (builder.insertText text)
  | .letters text => .done (builder.insertText text)
  | .comment content => .done (builder.insertComment content)
  | .doctype _ => .done builder
  | .startTag tag =>
    match tag.name with
    | "html" => .done (builder.mergeHtml tag)
    | "option" => .done ((builder.popIf ["option"]).insertElement tag)
    | "optgroup" => .done (((builder.popIf ["option"]).popIf ["optgroup"]).insertElement tag)
    | "select" => .done (if builder.inSelectScope "select" then builder.closeSelect else builder)
    | "input" | "keygen" | "textarea" =>
      if builder.inSelectScope "select" then .again builder.closeSelect else .done builder
    | "script" | "template" => .done (builder.startHeadElement tag)
    | _ => .done builder
  | .endTag name =>
    match name with
    | "optgroup" =>
      let inGroup := (builder.openElements[1]?).any (builder.isElement "optgroup")
      .done ((if inGroup then builder.popIf ["option"] else builder).popIf ["optgroup"])
    | "option" => .done (builder.popIf ["option"])
    | "select" => .done (if builder.inSelectScope "select" then builder.closeSelect else builder)
    | "template" => .done builder.endTemplate
    | _ => .done builder
  | .finish => builder.inBodyRule item

/-- In a selection in a table. -/
def inSelectInTableRule (builder : Builder) (item : Item) : Outcome :=
  let tags := ["caption", "table", "tbody", "tfoot", "thead", "tr", "td", "th"]
  match item with
  | .startTag tag =>
    if tags.contains tag.name then .again builder.closeSelect else builder.inSelectRule item
  | .endTag name =>
    if tags.contains name then
      if builder.inTableScope [name] then .again builder.closeSelect else .done builder
    else builder.inSelectRule item
  | _ => builder.inSelectRule item

/-- Go on in a template as in another place. -/
def inTemplateAs (mode : Mode) (builder : Builder) : Outcome :=
  .again { builder with templateModes := mode :: builder.templateModes.drop 1, mode }

/-- In a template. -/
def inTemplateRule (builder : Builder) (item : Item) : Outcome :=
  match item with
  | .startTag tag =>
    if headTags.contains tag.name then .done (builder.startHeadElement tag)
    else
      match tag.name with
      | "caption" | "colgroup" | "tbody" | "tfoot" | "thead" => builder.inTemplateAs .inTable
      | "col" => builder.inTemplateAs .inColumnGroup
      | "tr" => builder.inTemplateAs .inTableBody
      | "td" | "th" => builder.inTemplateAs .inRow
      | _ => builder.inTemplateAs .inBody
  | .endTag name => .done (if name = "template" then builder.endTemplate else builder)
  | .finish => builder.finishTemplate
  | _ => builder.inBodyRule item

/-- After the body. -/
def afterBodyRule (builder : Builder) (item : Item) : Outcome :=
  let otherwise : Outcome := .again (builder.goTo .inBody)
  match item with
  | .blanks _ => builder.inBodyRule item
  | .comment content =>
    .done (builder.insertCommentAt content (.inside (builder.openElements.getLastD 0)))
  | .doctype _ => .done builder
  | .startTag tag => if tag.name = "html" then .done (builder.mergeHtml tag) else otherwise
  | .endTag name => if name = "html" then .done (builder.goTo .afterAfterBody) else otherwise
  | .finish => .done builder
  | _ => otherwise

/-- After the whole document. -/
def afterAfterBodyRule (builder : Builder) (item : Item) : Outcome :=
  let otherwise : Outcome := .again (builder.goTo .inBody)
  match item with
  | .blanks _ => builder.inBodyRule item
  | .comment content => .done (builder.insertCommentAt content (.inside 0))
  | .doctype _ => .done builder
  | .startTag tag => if tag.name = "html" then .done (builder.mergeHtml tag) else otherwise
  | .finish => .done builder
  | _ => otherwise

/-- In a frameset. -/
def inFramesetRule (builder : Builder) (item : Item) : Outcome :=
  match item with
  | .blanks text => .done (builder.insertText text)
  | .comment content => .done (builder.insertComment content)
  | .startTag tag =>
    match tag.name with
    | "html" => .done (builder.mergeHtml tag)
    | "frameset" => .done (builder.insertElement tag)
    | "frame" => .done (builder.insertVoid tag)
    | "noframes" => .done (builder.startHeadElement tag)
    | _ => .done builder
  | .endTag name =>
    if name = "frameset" && builder.openElements.length > 1 then
      let closed := builder.pop
      .done (if closed.currentIs ["frameset"] then closed else closed.goTo .afterFrameset)
    else .done builder
  | _ => .done builder

/-- After a frameset. -/
def afterFramesetRule (builder : Builder) (item : Item) : Outcome :=
  match item with
  | .blanks text => .done (builder.insertText text)
  | .comment content => .done (builder.insertComment content)
  | .startTag tag =>
    if tag.name = "html" then .done (builder.mergeHtml tag)
    else if tag.name = "noframes" then .done (builder.startHeadElement tag)
    else .done builder
  | .endTag name => .done (if name = "html" then builder.goTo .afterAfterFrameset else builder)
  | _ => .done builder

/-- After a document with a frameset. -/
def afterAfterFramesetRule (builder : Builder) (item : Item) : Outcome :=
  match item with
  | .blanks _ => builder.inBodyRule item
  | .comment content => .done (builder.insertCommentAt content (.inside 0))
  | .startTag tag =>
    if tag.name = "html" then .done (builder.mergeHtml tag)
    else if tag.name = "noframes" then .done (builder.startHeadElement tag)
    else .done builder
  | _ => .done builder

/-- The rule of the place in the structure. -/
def ordinaryRule (builder : Builder) (item : Item) : Outcome :=
  match builder.mode with
  | .initial => builder.initialRule item
  | .beforeHtml => builder.beforeHtmlRule item
  | .beforeHead => builder.beforeHeadRule item
  | .inHead => builder.inHeadRule item
  | .afterHead => builder.afterHeadRule item
  | .inBody => builder.inBodyRule item
  | .inText => builder.inTextRule item
  | .inTable => builder.inTableRule item
  | .inTableText => builder.inTableTextRule item
  | .inCaption => builder.inCaptionRule item
  | .inColumnGroup => builder.inColumnGroupRule item
  | .inTableBody => builder.inTableBodyRule item
  | .inRow => builder.inRowRule item
  | .inCell => builder.inCellRule item
  | .inSelect => builder.inSelectRule item
  | .inSelectInTable => builder.inSelectInTableRule item
  | .inTemplate => builder.inTemplateRule item
  | .afterBody => builder.afterBodyRule item
  | .inFrameset => builder.inFramesetRule item
  | .afterFrameset => builder.afterFramesetRule item
  | .afterAfterBody => builder.afterAfterBodyRule item
  | .afterAfterFrameset => builder.afterAfterFramesetRule item

end Builder

end Questionnaire.Html
