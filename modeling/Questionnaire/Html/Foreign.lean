/-
# Drawings and formulas in documents

Inside drawings and formulas tokens have other rules: elements keep their
vocabulary, names have their own case, and a tag that can only be that of an
ordinary element ends the drawing. Some of their elements hold ordinary content
again.
-/

import Questionnaire.Html.Rules

namespace Questionnaire.Html.Builder

/-- The names of drawings that have capital letters. -/
def drawingTags : List String :=
  ["altGlyph", "altGlyphDef", "altGlyphItem", "animateColor", "animateMotion", "animateTransform",
   "clipPath", "feBlend", "feColorMatrix", "feComponentTransfer", "feComposite",
   "feConvolveMatrix", "feDiffuseLighting", "feDisplacementMap", "feDistantLight", "feDropShadow",
   "feFlood", "feFuncA", "feFuncB", "feFuncG", "feFuncR", "feGaussianBlur", "feImage", "feMerge",
   "feMergeNode", "feMorphology", "feOffset", "fePointLight", "feSpecularLighting", "feSpotLight",
   "feTile", "feTurbulence", "foreignObject", "glyphRef", "linearGradient", "radialGradient",
   "textPath"]

/-- The tags that end drawings and formulas. -/
def breakingTags : List String :=
  ["b", "big", "blockquote", "body", "br", "center", "code", "dd", "div", "dl", "dt", "em",
   "embed", "h1", "h2", "h3", "h4", "h5", "h6", "head", "hr", "i", "img", "li", "listing", "menu",
   "meta", "nobr", "ol", "p", "pre", "ruby", "s", "small", "span", "strong", "strike", "sub",
   "sup", "table", "tt", "u", "ul", "var"]

/-- Whether a start tag ends drawings and formulas. -/
def breaksOut (tag : Tag) : Bool :=
  breakingTags.contains tag.name ||
    (tag.name == "font" &&
      tag.attributes.any (fun entry => ["color", "face", "size"].contains entry.1))

/-- Whether an element of formulas holds text. -/
def holdsFormulaText (builder : Builder) (id : Nat) : Bool :=
  builder.vocabularyOf id == .math && ["mi", "mo", "mn", "ms", "mtext"].contains (builder.tagOf id)

/-- Whether an element of drawings or formulas holds ordinary content. -/
def holdsOrdinary (builder : Builder) (id : Nat) : Bool :=
  match (builder.draft.node id).content with
  | .element .svg tag _ => ["foreignObject", "desc", "title"].contains tag
  | .element .math "annotation-xml" attributes =>
    (attributes.lookup "encoding").any fun value =>
      ["text/html", "application/xhtml+xml"].contains (Text.asciiLower value)
  | _ => false

/-- Whether an item is read by the rules of drawings and formulas. -/
def isForeign (builder : Builder) (item : Item) : Bool :=
  let current := builder.current
  if builder.openElements.isEmpty || builder.vocabularyOf current == .html then false
  else
    let isText := match item with
      | .nulls => true
      | .blanks _ => true
      | .letters _ => true
      | _ => false
    let start? := match item with
      | .startTag tag => some tag.name
      | _ => none
    let inFormulaText := builder.holdsFormulaText current &&
      (isText || start?.any (fun name => name != "mglyph" && name != "malignmark"))
    let inAnnotation := builder.vocabularyOf current == .math &&
      builder.tagOf current == "annotation-xml" && start? == some "svg"
    let inOrdinary := builder.holdsOrdinary current && (isText || start?.isSome)
    let isEnd := match item with
      | .finish => true
      | _ => false
    !(inFormulaText || inAnnotation || inOrdinary || isEnd)

/-- Close drawings and formulas up to an element that holds ordinary content. -/
def leaveForeign (builder : Builder) : Builder :=
  { builder with
    openElements := builder.openElements.dropWhile fun id =>
      !(builder.vocabularyOf id == .html || builder.holdsFormulaText id ||
        builder.holdsOrdinary id) }

/-- The number of elements to close for an end tag in drawings and formulas: up
to the first one with its name, whatever the case, unless an ordinary element
comes before. -/
def closingCount (builder : Builder) (name : String) (count : Nat) : List Nat → Option Nat
  | [] => none
  | id :: rest =>
    if builder.vocabularyOf id == .html then none
    else if Text.asciiLower (builder.tagOf id) = name then some (count + 1)
    else closingCount builder name (count + 1) rest

/-- The rule for drawings and formulas. -/
def foreignRule (builder : Builder) (item : Item) : Outcome :=
  match item with
  | .nulls => .done (builder.insertText [replacementCharacter])
  | .blanks text => .done (builder.insertText text)
  | .letters text => .done (builder.insertText text).forbidFrameset
  | .comment content => .done (builder.insertComment content)
  | .doctype _ => .done builder
  | .finish => .done builder
  | .startTag tag =>
    if breaksOut tag then builder.leaveForeign.ordinaryRule item
    else
      let vocabulary := builder.vocabularyOf builder.current
      let name := if vocabulary = .svg then
          (drawingTags.find? (fun name => Text.asciiLower name == tag.name)).getD tag.name
        else tag.name
      .done (builder.startForeign vocabulary { tag with name })
  | .endTag name =>
    if name = "br" || name = "p" then builder.leaveForeign.ordinaryRule item
    else
      match builder.closingCount name 0 builder.openElements with
      | some count => .done { builder with openElements := builder.openElements.drop count }
      | none =>
        let around := builder.openElements.dropWhile (fun id => builder.vocabularyOf id != .html)
        if around.length ≤ 1 then .done builder else builder.ordinaryRule item

end Questionnaire.Html.Builder
