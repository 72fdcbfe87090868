import MailQuote.Html.Document
import MailQuote.Html.Token

namespace MailQuote.Html

namespace Foreign

def svgElements : List String :=
  ["altGlyph", "altGlyphDef", "altGlyphItem", "animateColor", "animateMotion",
    "animateTransform", "clipPath", "feBlend", "feColorMatrix", "feComponentTransfer",
    "feComposite", "feConvolveMatrix", "feDiffuseLighting", "feDisplacementMap",
    "feDistantLight", "feDropShadow", "feFlood", "feFuncA", "feFuncB", "feFuncG",
    "feFuncR", "feGaussianBlur", "feImage", "feMerge", "feMergeNode", "feMorphology",
    "feOffset", "fePointLight", "feSpecularLighting", "feSpotLight", "feTile",
    "feTurbulence", "foreignObject", "glyphRef", "linearGradient", "radialGradient",
    "textPath"]

def svgAttributes : List String :=
  ["attributeName", "attributeType", "baseFrequency", "baseProfile", "calcMode",
    "clipPathUnits", "diffuseConstant", "edgeMode", "filterUnits", "glyphRef",
    "gradientTransform", "gradientUnits", "kernelMatrix", "kernelUnitLength",
    "keyPoints", "keySplines", "keyTimes", "lengthAdjust", "limitingConeAngle",
    "markerHeight", "markerUnits", "markerWidth", "maskContentUnits", "maskUnits",
    "numOctaves", "pathLength", "patternContentUnits", "patternTransform",
    "patternUnits", "pointsAtX", "pointsAtY", "pointsAtZ", "preserveAlpha",
    "preserveAspectRatio", "primitiveUnits", "refX", "refY", "repeatCount", "repeatDur",
    "requiredExtensions", "requiredFeatures", "specularConstant", "specularExponent",
    "spreadMethod", "startOffset", "stdDeviation", "stitchTiles", "surfaceScale",
    "systemLanguage", "tableValues", "targetX", "targetY", "textLength", "viewBox",
    "viewTarget", "xChannelSelector", "yChannelSelector", "zoomAndPan"]

def qualifiedAttributes : List (String × AttrName) := [
  ("xlink:actuate", ⟨.xlink, "actuate"⟩), ("xlink:arcrole", ⟨.xlink, "arcrole"⟩),
  ("xlink:href", ⟨.xlink, "href"⟩), ("xlink:role", ⟨.xlink, "role"⟩),
  ("xlink:show", ⟨.xlink, "show"⟩), ("xlink:title", ⟨.xlink, "title"⟩),
  ("xlink:type", ⟨.xlink, "type"⟩), ("xml:base", ⟨.xml, "base"⟩),
  ("xml:lang", ⟨.xml, "lang"⟩), ("xml:space", ⟨.xml, "space"⟩),
  ("xmlns", ⟨.xmlns, "xmlns"⟩), ("xmlns:xlink", ⟨.xmlns, "xlink"⟩)]

/-- The spelling of a name that a table gives, or the name as it is. -/
def respell (table : List String) (name : String) : String :=
  match table.find? fun spelling => lowerAscii spelling == name with
  | some spelling => spelling
  | none => name

def elementName (space : Namespace) (name : String) : Name :=
  match space with
  | .svg => ⟨.svg, respell svgElements name⟩
  | space => ⟨space, name⟩

def attrName (space : Namespace) (name : String) : AttrName :=
  let plain := match space with
    | .svg => respell svgAttributes name
    | .mathml => if name = "definitionurl" then "definitionURL" else name
    | .html => name
  match space with
  | .html => ⟨.plain, plain⟩
  | _ => (qualifiedAttributes.lookup plain).getD ⟨.plain, plain⟩

def attributes (space : Namespace) (given : List (String × String)) : List Attr :=
  Attr.addAll [] (given.map fun (name, value) => ⟨attrName space name, value⟩)

def breakouts : List String :=
  ["b", "big", "blockquote", "body", "br", "center", "code", "dd", "div", "dl", "dt",
    "em", "embed", "h1", "h2", "h3", "h4", "h5", "h6", "head", "hr", "i", "img", "li",
    "listing", "menu", "meta", "nobr", "ol", "p", "pre", "ruby", "s", "small", "span",
    "strong", "strike", "sub", "sup", "table", "tt", "u", "ul", "var"]

def breaksOut (tag : Tag) : Bool :=
  breakouts.contains tag.name ||
    (tag.name == "font" &&
      tag.attributes.any fun attr => ["color", "face", "size"].contains attr.1)

end Foreign

namespace Doctype

/-- Beginnings of public identifiers of old document types, in lower case. -/
def legacyPublicPrefixes : List String := [
  "-//advasoft ltd//dtd html 3.0 aswedit + extensions//",
  "-//as//dtd html 3.0 aswedit + extensions//",
  "-//ietf//dtd html 2.0 level 1//",
  "-//ietf//dtd html 2.0 level 2//",
  "-//ietf//dtd html 2.0 strict level 1//",
  "-//ietf//dtd html 2.0 strict level 2//",
  "-//ietf//dtd html 2.0 strict//",
  "-//ietf//dtd html 2.0//",
  "-//ietf//dtd html 2.1e//",
  "-//ietf//dtd html 3.0//",
  "-//ietf//dtd html 3.2 final//",
  "-//ietf//dtd html 3.2//",
  "-//ietf//dtd html 3//",
  "-//ietf//dtd html level 0//",
  "-//ietf//dtd html level 1//",
  "-//ietf//dtd html level 2//",
  "-//ietf//dtd html level 3//",
  "-//ietf//dtd html strict level 0//",
  "-//ietf//dtd html strict level 1//",
  "-//ietf//dtd html strict level 2//",
  "-//ietf//dtd html strict level 3//",
  "-//ietf//dtd html strict//",
  "-//ietf//dtd html//",
  "-//metrius//dtd metrius presentational//",
  "-//microsoft//dtd internet explorer 2.0 html strict//",
  "-//microsoft//dtd internet explorer 2.0 html//",
  "-//microsoft//dtd internet explorer 2.0 tables//",
  "-//microsoft//dtd internet explorer 3.0 html strict//",
  "-//microsoft//dtd internet explorer 3.0 html//",
  "-//microsoft//dtd internet explorer 3.0 tables//",
  "-//netscape comm. corp.//dtd html//",
  "-//netscape comm. corp.//dtd strict html//",
  "-//o'reilly and associates//dtd html 2.0//",
  "-//o'reilly and associates//dtd html extended 1.0//",
  "-//o'reilly and associates//dtd html extended relaxed 1.0//",
  "-//softquad software//dtd hotmetal pro 6.0::19990601::extensions to html 4.0//",
  "-//softquad//dtd hotmetal pro 4.0::19971010::extensions to html 4.0//",
  "-//spyglass//dtd html 2.0 extended//",
  "-//sq//dtd html 2.0 hotmetal + extensions//",
  "-//sun microsystems corp.//dtd hotjava html//",
  "-//sun microsystems corp.//dtd hotjava strict html//",
  "-//w3c//dtd html 3 1995-03-24//",
  "-//w3c//dtd html 3.2 draft//",
  "-//w3c//dtd html 3.2 final//",
  "-//w3c//dtd html 3.2//",
  "-//w3c//dtd html 3.2s draft//",
  "-//w3c//dtd html 4.0 frameset//",
  "-//w3c//dtd html 4.0 transitional//",
  "-//w3c//dtd html experimental 19960712//",
  "-//w3c//dtd html experimental 970421//",
  "-//w3c//dtd w3 html//",
  "-//w3o//dtd w3 html 3.0//",
  "-//webtechs//dtd mozilla html 2.0//",
  "-//webtechs//dtd mozilla html//"]

/-- Public identifiers of old document types, in lower case. -/
def legacyPublicIds : List String := [
  "-//w3o//dtd w3 html strict 3.0//en//",
  "-/w3c/dtd html 4.0 transitional/en",
  "html"]

/-- The system identifier of an old document type, in lower case. -/
def legacySystemId : String :=
  "http:" ++ "//www.ibm.com/data/dtd/v11/ibmxhtml1-transitional.dtd"

/-- Beginnings of public identifiers that are old unless a system identifier
goes with them, in lower case. -/
def transitionalPublicPrefixes : List String := [
  "-//w3c//dtd html 4.01 frameset//",
  "-//w3c//dtd html 4.01 transitional//"]

def beginsWithAny (texts : List String) (text : String) : Bool :=
  texts.any fun opening => (Text.after? opening.toList text.toList).isSome

def isLegacy (declaration : Doctype) : Bool :=
  let publicId := (declaration.publicId.map lowerAscii).getD ""
  declaration.damaged || declaration.name != some "html" ||
    legacyPublicIds.contains publicId ||
    declaration.systemId.map lowerAscii == some legacySystemId ||
    beginsWithAny legacyPublicPrefixes publicId ||
    (declaration.systemId.isNone && beginsWithAny transitionalPublicPrefixes publicId)

end Doctype

inductive Phase where
  | initial
  | beforeHtml
  | beforeHead
  | inHead
  | afterHead
  | inBody
  | inText
  | inTable
  | inTableText
  | inCaption
  | inColumnGroup
  | inTableBody
  | inRow
  | inCell
  | inSelect
  | inSelectInTable
  | inTemplate
  | afterBody
  | inFrameset
  | afterFrameset
  | afterAfterBody
  | afterAfterFrameset
deriving DecidableEq, Repr

structure Open where
  id : NodeId
  name : Name
deriving DecidableEq, Repr

/-- An element whose formatting is carried over into later elements, or a mark
that it is not carried across. -/
inductive Entry where
  | marker
  | element (id : NodeId) (tag : Tag)
deriving DecidableEq, Repr

structure Builder where
  document : Document
  /-- the open elements, the innermost first -/
  opened : List Open
  /-- formatting that is carried over, the latest first -/
  formatting : List Entry
  phase : Phase
  /-- the phase to go back to after text -/
  returnPhase : Phase
  /-- the phases inside the open templates, the innermost first -/
  templatePhases : List Phase
  /-- text inside a table that has not been placed yet -/
  pending : List (List Char × Bool)
  /-- whether the document is one for old browsers -/
  legacy : Bool
  head : Option NodeId
  form : Option NodeId
  /-- whether a frame set may still take the place of the body -/
  framesetOk : Bool
  /-- whether a line feed that comes next is dropped -/
  skipLineFeed : Bool
  /-- whether misplaced content goes before the table -/
  fostering : Bool
  /-- the nodes that stand for the contents of templates -/
  templates : List (NodeId × NodeId)
  /-- how the text that follows is to be read -/
  reading : Reading

/-- What a token leads to: the construction after it, and whether the token is
to be looked at again. -/
structure Step where
  builder : Builder
  again : Bool

namespace Builder

def start : Builder where
  document := .empty
  opened := []
  formatting := []
  phase := .initial
  returnPhase := .initial
  templatePhases := []
  pending := []
  legacy := false
  head := none
  form := none
  framesetOk := true
  skipLineFeed := false
  fostering := false
  templates := []
  reading := .markup

def done (builder : Builder) : Step := ⟨builder, false⟩

def redo (builder : Builder) (phase : Phase) : Step := ⟨{ builder with phase }, true⟩

def goto (builder : Builder) (phase : Phase) : Builder := { builder with phase }

def settled (builder : Builder) : Builder := { builder with framesetOk := false }

def current? (builder : Builder) : Option Name :=
  builder.opened.head?.map Open.name

def currentIs (builder : Builder) (localName : String) : Bool :=
  builder.current?.any fun name => name.isHtml localName

def currentHas (builder : Builder) (holds : Name → Bool) : Bool :=
  builder.current?.any holds

/-- Whether an open element is in sight: no element that bounds the scope is
inside it. -/
def inScopeBy (scope : Name → Bool) (target : Open → Bool) : List Open → Bool
  | [] => false
  | element :: outer =>
      if target element then true
      else if scope element.name then false
      else inScopeBy scope target outer

def inScope (builder : Builder) (scope : Name → Bool) (localName : String) : Bool :=
  inScopeBy scope (fun element => element.name.isHtml localName) builder.opened

def isOpen (builder : Builder) (localName : String) : Bool :=
  builder.opened.any fun element => element.name.isHtml localName

def pop (builder : Builder) : Builder :=
  { builder with opened := builder.opened.drop 1 }

def popThrough (builder : Builder) (holds : Name → Bool) : Builder :=
  { builder with
    opened := (builder.opened.dropWhile fun element => !holds element.name).drop 1 }

def popThroughNamed (builder : Builder) (localName : String) : Builder :=
  builder.popThrough fun name => name.isHtml localName

def popDownTo (builder : Builder) (holds : Name → Bool) : Builder :=
  { builder with opened := builder.opened.dropWhile fun element => !holds element.name }

def closeImplied (builder : Builder) : Builder :=
  builder.popDownTo fun name => !name.isImplied

def closeImpliedExcept (builder : Builder) (localName : String) : Builder :=
  builder.popDownTo fun name => !(name.isImplied && !name.isHtml localName)

def unopen (builder : Builder) (target : NodeId) : Builder :=
  { builder with opened := builder.opened.eraseP fun element => element.id == target }

def push (builder : Builder) (element : Open) : Builder :=
  { builder with opened := element :: builder.opened }

def closeParagraph (builder : Builder) : Builder :=
  (builder.closeImpliedExcept "p").popThroughNamed "p"

def closeParagraphInScope (builder : Builder) : Builder :=
  if builder.inScope Name.isButtonScope "p" then builder.closeParagraph else builder

def root? (builder : Builder) : Option NodeId :=
  builder.opened.getLast?.map Open.id

inductive Spot where
  /-- at the end of a node -/
  | inside (parent : NodeId)
  /-- before a table, or at the end of another node if the table has no place -/
  | before (table otherwise : NodeId)
  /-- at the end of the document -/
  | top

def holder (builder : Builder) (target : NodeId) : NodeId :=
  (builder.templates.lookup target).getD target

def fosterSpot (builder : Builder) : List Open → Spot
  | [] =>
      match builder.root? with
      | some root => .inside root
      | none => .top
  | element :: outer =>
      if element.name.isHtml "template" then .inside (builder.holder element.id)
      else if element.name.isHtml "table" then
        match outer with
        | next :: _ => .before element.id next.id
        | [] => .inside element.id
      else builder.fosterSpot outer

def spotIn (builder : Builder) (target : Open) : Spot :=
  if builder.fostering && target.name.isTablePart then builder.fosterSpot builder.opened
  else .inside (builder.holder target.id)

def spot (builder : Builder) : Spot :=
  match builder.opened with
  | [] => .top
  | element :: _ => builder.spotIn element

def place (builder : Builder) (node : NodeId) : Spot → Builder
  | .inside parent => { builder with document := builder.document.append parent node }
  | .before table otherwise =>
      { builder with
        document :=
          if builder.document.hasParent table then builder.document.insertBefore table node
          else builder.document.append otherwise node }
  | .top => { builder with document := builder.document.appendTop node }

def addText (builder : Builder) (content : List Char) : Builder :=
  let text := String.ofList content
  match builder.spot with
  | .inside parent => { builder with document := builder.document.appendText parent text }
  | .before table otherwise =>
      { builder with
        document :=
          if builder.document.hasParent table then
            builder.document.insertTextBefore table text
          else builder.document.appendText otherwise text }
  | .top => builder

def addCommentAt (builder : Builder) (spot : Spot) (content : String) : Builder :=
  let (id, document) := builder.document.create (.comment content)
  { builder with document }.place id spot

def addComment (builder : Builder) (content : String) : Builder :=
  builder.addCommentAt builder.spot content

def addTopComment (builder : Builder) (content : String) : Builder :=
  builder.addCommentAt .top content

def addRootComment (builder : Builder) (content : String) : Builder :=
  match builder.root? with
  | some root => builder.addCommentAt (.inside root) content
  | none => builder.addTopComment content

/-- Makes an element without a place. The contents of a template are kept under
a node of their own, which never becomes part of the document. -/
def make (builder : Builder) (name : Name) (attributes : List Attr) : NodeId × Builder :=
  let (id, document) := builder.document.create (.element name attributes)
  if name.isHtml "template" then
    let (contents, document) := document.create (.element name [])
    (id, { builder with document, templates := (id, contents) :: builder.templates })
  else (id, { builder with document })

def add (builder : Builder) (name : Name) (attributes : List Attr) : NodeId × Builder :=
  let spot := builder.spot
  let (id, builder) := builder.make name attributes
  (id, builder.place id spot)

def addOpen (builder : Builder) (name : Name) (attributes : List Attr) : NodeId × Builder :=
  let (id, builder) := builder.add name attributes
  (id, builder.push ⟨id, name⟩)

def insertTag (builder : Builder) (tag : Tag) : NodeId × Builder :=
  builder.addOpen (.html tag.name) (Foreign.attributes .html tag.attributes)

def insert (builder : Builder) (tag : Tag) : Builder :=
  (builder.insertTag tag).2

def insertVoid (builder : Builder) (tag : Tag) : Builder :=
  (builder.add (.html tag.name) (Foreign.attributes .html tag.attributes)).2

def insertNamed (builder : Builder) (localName : String) : NodeId × Builder :=
  builder.addOpen (.html localName) []

/-- Adds and opens the HTML element of a tag, whose text is read in a given
way. -/
def insertText (builder : Builder) (tag : Tag) (reading : Reading) : Builder :=
  let builder := builder.insert tag
  { builder with reading, returnPhase := builder.phase, phase := .inText }

def addAttributes (builder : Builder) (target : NodeId) (tag : Tag) : Builder :=
  let attributes := Foreign.attributes .html tag.attributes
  { builder with document := builder.document.addAttributes target attributes }

/-- The phase inside a list of choices, given the open elements around it. -/
def selectPhase : List Open → Phase
  | [] => .inSelect
  | element :: outer =>
      if element.name.isHtml "template" then .inSelect
      else if element.name.isHtml "table" then .inSelectInTable
      else selectPhase outer

def phaseFor (builder : Builder) : List Open → Phase
  | [] => .inBody
  | element :: outer =>
      let other := builder.phaseFor outer
      if element.name.space != .html then other
      else
        match element.name.localName with
        | "select" => selectPhase outer
        | "td" | "th" => if outer.isEmpty then other else .inCell
        | "tr" => .inRow
        | "tbody" | "thead" | "tfoot" => .inTableBody
        | "caption" => .inCaption
        | "colgroup" => .inColumnGroup
        | "table" => .inTable
        | "template" => builder.templatePhases.head?.getD .inTemplate
        | "head" => if outer.isEmpty then other else .inHead
        | "body" => .inBody
        | "frameset" => .inFrameset
        | "html" => if builder.head.isSome then .afterHead else .beforeHead
        | _ => other

def resetPhase (builder : Builder) : Phase :=
  builder.phaseFor builder.opened

def reset (builder : Builder) : Builder :=
  builder.goto builder.resetPhase

end Builder

end MailQuote.Html
