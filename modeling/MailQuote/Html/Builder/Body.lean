import MailQuote.Html.Builder.Basic

namespace MailQuote.Html

namespace Entry

def isFor (target : NodeId) : Entry → Bool
  | .marker => false
  | .element id _ => id == target

/-- Whether two tags make the same element. The order of attributes does not
count. -/
def sameTag (first second : Tag) : Bool :=
  first.name == second.name &&
    Foreign.attributes .html first.attributes == Foreign.attributes .html second.attributes

def isMarker : Entry → Bool
  | .marker => true
  | .element .. => false

end Entry

namespace Builder

def recent (entries : List Entry) : List Entry :=
  entries.takeWhile fun entry => !entry.isMarker

def dropRecent (entries : List Entry) : List Entry :=
  (entries.dropWhile fun entry => !entry.isMarker).drop 1

def markFormatting (builder : Builder) : Builder :=
  { builder with formatting := .marker :: builder.formatting }

/-- Forgets the formatting since the latest mark, and the mark. -/
def clearFormatting (builder : Builder) : Builder :=
  { builder with formatting := dropRecent builder.formatting }

def forget (builder : Builder) (target : NodeId) : Builder :=
  { builder with formatting := builder.formatting.eraseP (Entry.isFor target) }

def isSettled (builder : Builder) : Entry → Bool
  | .marker => true
  | .element id _ => builder.opened.any fun element => element.id == id

def replaceEntry (target : NodeId) (entry : Entry) : List Entry → List Entry
  | [] => []
  | first :: others =>
      if first.isFor target then entry :: others
      else first :: replaceEntry target entry others

/-- Opens elements again, for entries from the earliest to the latest. -/
def reopen (builder : Builder) : List Entry → Builder
  | [] => builder
  | .marker :: others => builder.reopen others
  | .element id tag :: others =>
      let (new, builder) := builder.insertTag tag
      { builder with formatting := replaceEntry id (.element new tag) builder.formatting
        }.reopen others

/-- Opens the latest formatting elements again that are not open. -/
def carryFormatting (builder : Builder) : Builder :=
  let closed := builder.formatting.takeWhile fun entry => !builder.isSettled entry
  builder.reopen closed.reverse

/-- Forgets the earliest of three recent entries that are like a tag. -/
def limitEntries (tag : Tag) (entries : List Entry) : List Entry :=
  let like := (recent entries).filterMap fun entry =>
    match entry with
    | .element id known => if Entry.sameTag tag known then some id else none
    | .marker => none
  match like with
  | _ :: _ :: third :: others =>
      entries.eraseP (Entry.isFor ((third :: others).getLast?.getD third))
  | _ => entries

def insertFormatting (builder : Builder) (tag : Tag) : Builder :=
  let builder := { builder with formatting := limitEntries tag builder.formatting }
  let (id, builder) := builder.insertTag tag
  { builder with formatting := .element id tag :: builder.formatting }

def formattingNamed? (builder : Builder) (localName : String) : Option (NodeId × Tag) :=
  (recent builder.formatting).findSome? fun entry =>
    match entry with
    | .element id tag => if tag.name = localName then some (id, tag) else none
    | .marker => none

/-- Closes open elements up to the one that an end tag names. A special element
in between makes the end tag void. -/
def closeNamed (builder : Builder) (localName : String) : Builder :=
  let inner := builder.opened.takeWhile fun element =>
    !element.name.isHtml localName && !element.name.isSpecial
  match builder.opened.drop inner.length with
  | [] => builder
  | element :: _ =>
      if element.name.isHtml localName then
        { builder with opened := builder.opened.drop (inner.length + 1) }
      else builder

/-- The elements between a formatting element and a block inside it, while they
are split off one by one. -/
structure Splitting where
  builder : Builder
  /-- the elements that stay open, the outermost first -/
  kept : List Open
  /-- the node that goes into the next element -/
  last : NodeId
  /-- the first new element, after which the split element is entered -/
  bookmark : Option NodeId
  count : Nat

/-- Splits off one element. The first three that are still formatting are made
anew; others are closed. -/
def Splitting.step (splitting : Splitting) (element : Open) : Splitting :=
  let builder := splitting.builder
  let count := splitting.count + 1
  let entry := builder.formatting.find? (Entry.isFor element.id)
  match entry with
  | some (.element _ tag) =>
      if 3 < count then { splitting with builder := builder.forget element.id, count }
      else
        let (new, builder) := builder.make (.html tag.name)
          (Foreign.attributes .html tag.attributes)
        let builder := { builder with
          formatting := replaceEntry element.id (.element new tag) builder.formatting
          document := builder.document.append new splitting.last }
        { builder
          kept := ⟨new, .html tag.name⟩ :: splitting.kept
          last := new
          bookmark := splitting.bookmark.or (some new)
          count }
  | _ => { splitting with count }

/-- Enters an element directly after another one that was entered. -/
def enterAfter (mark : NodeId) (entry : Entry) : List Entry → List Entry
  | [] => []
  | first :: others =>
      if first.isFor mark then entry :: first :: others
      else first :: enterAfter mark entry others

/-- Splits a formatting element in two: one before a block inside it, and one
inside the block. -/
def splitAround (builder : Builder) (formatting : NodeId) (tag : Tag)
    (inner : List Open) (block : Open) (between outer : List Open) : Builder :=
  let splitting := between.foldl Splitting.step ⟨builder, [], block.id, none, 0⟩
  let builder := splitting.builder
  let builder :=
    match outer with
    | common :: _ => builder.place splitting.last (builder.spotIn common)
    | [] => builder
  let (new, builder) := builder.make (.html tag.name)
    (Foreign.attributes .html tag.attributes)
  let document := builder.document.moveChildren block.id new
  let entry := Entry.element new tag
  { builder with
    document := document.append block.id new
    formatting :=
      match splitting.bookmark with
      | some mark =>
          (enterAfter mark entry builder.formatting).eraseP (Entry.isFor formatting)
      | none => replaceEntry formatting entry builder.formatting
    opened :=
      inner ++ [⟨new, .html tag.name⟩, block] ++ splitting.kept.reverse ++ outer }

/-- One round of closing a misplaced formatting element, or none if there is
nothing more to do. -/
def misplacedRound (builder : Builder) (localName : String) : Builder × Bool :=
  match builder.formattingNamed? localName with
  | none => (builder.closeNamed localName, false)
  | some (id, tag) =>
      let above := builder.opened.takeWhile fun element => element.id != id
      match builder.opened.drop above.length with
      | [] => (builder.forget id, false)
      | _ :: outer =>
          if !inScopeBy Name.isScope (fun element => element.id == id) builder.opened then
            (builder, false)
          else
            let between := (above.reverse.takeWhile fun element => !element.name.isSpecial).reverse
            match (above.reverse.drop between.length) with
            | [] => ({ builder with opened := outer }.forget id, false)
            | block :: inner =>
                (builder.splitAround id tag inner.reverse block between outer, true)

def misplacedRounds : (rounds : Nat) → Builder → (localName : String) → Builder
  | 0, builder, _ => builder
  | rounds + 1, builder, localName =>
      match builder.misplacedRound localName with
      | (builder, true) => misplacedRounds rounds builder localName
      | (builder, false) => builder

def closeFormatting (builder : Builder) (localName : String) : Builder :=
  let plain :=
    match builder.opened with
    | element :: _ =>
        element.name.isHtml localName &&
          !builder.formatting.any (Entry.isFor element.id)
    | [] => false
  if plain then builder.pop else misplacedRounds 8 builder localName

def closeOpenLink (builder : Builder) : Builder :=
  match builder.formattingNamed? "a" with
  | some (id, _) => ((builder.closeFormatting "a").forget id).unopen id
  | none => builder

def isHeadTag (tag : Tag) : Bool :=
  ["base", "basefont", "bgsound", "link", "meta", "noframes", "script", "style",
    "template", "title"].contains tag.name

def mergeRoot (builder : Builder) (tag : Tag) : Builder :=
  match builder.root? with
  | some root =>
      if builder.isOpen "template" then builder else builder.addAttributes root tag
  | none => builder

def insertRoot (builder : Builder) (attributes : List (String × String)) : Builder :=
  let (id, builder) := builder.make (.html "html") (Foreign.attributes .html attributes)
  (builder.place id .top).push ⟨id, .html "html"⟩

def initial (builder : Builder) : Token → Step
  | .chars _ true => builder.done
  | .comment content => (builder.addTopComment content).done
  | _ => { builder with legacy := true }.redo .beforeHtml

def declare (builder : Builder) (declaration : Doctype) : Builder :=
  if builder.phase = .initial then
    let (id, document) := builder.document.create
      (.doctype (declaration.name.getD ""))
    { builder with document, legacy := declaration.isLegacy, phase := .beforeHtml
      }.place id .top
  else builder

def beforeHtml (builder : Builder) (token : Token) : Step :=
  match token with
  | .comment content => (builder.addTopComment content).done
  | .chars _ true => builder.done
  | .open tag =>
      if tag.name = "html" then
        ((builder.insertRoot tag.attributes).goto .beforeHead).done
      else (builder.insertRoot []).redo .beforeHead
  | .close tag =>
      if ["head", "body", "html", "br"].contains tag.name then
        (builder.insertRoot []).redo .beforeHead
      else builder.done
  | _ => (builder.insertRoot []).redo .beforeHead

def impliedHead (builder : Builder) : Step :=
  let (id, builder) := builder.insertNamed "head"
  { builder with head := some id }.redo .inHead

def beforeHead (builder : Builder) (token : Token) : Step :=
  match token with
  | .chars _ true => builder.done
  | .comment content => (builder.addComment content).done
  | .open tag =>
      if tag.name = "html" then (builder.mergeRoot tag).done
      else if tag.name = "head" then
        let (id, builder) := builder.insertTag tag
        ({ builder with head := some id }.goto .inHead).done
      else builder.impliedHead
  | .close tag =>
      if ["head", "body", "html", "br"].contains tag.name then builder.impliedHead
      else builder.done
  | _ => builder.impliedHead

def closeTemplate (builder : Builder) : Builder :=
  if builder.isOpen "template" then
    let builder := builder.popDownTo fun name => !name.isThoroughlyImplied
    let builder := (builder.popThroughNamed "template").clearFormatting
    { builder with templatePhases := builder.templatePhases.drop 1 }.reset
  else builder

def openTemplate (builder : Builder) (tag : Tag) : Builder :=
  let builder := (builder.insert tag).markFormatting.settled.goto .inTemplate
  { builder with templatePhases := .inTemplate :: builder.templatePhases }

def headTag? (builder : Builder) (tag : Tag) : Option Builder :=
  match tag.name with
  | "base" | "basefont" | "bgsound" | "link" | "meta" => some (builder.insertVoid tag)
  | "title" => some (builder.insertText tag (.referring "title"))
  | "noframes" | "style" | "noscript" =>
      some (builder.insertText tag (.verbatim tag.name))
  | "script" => some (builder.insertText tag .script)
  | "template" => some (builder.openTemplate tag)
  | _ => none

def inHead (builder : Builder) (token : Token) : Step :=
  match token with
  | .chars content true => (builder.addText content).done
  | .comment content => (builder.addComment content).done
  | .open tag =>
      if tag.name = "html" then (builder.mergeRoot tag).done
      else if tag.name = "head" then builder.done
      else
        match builder.headTag? tag with
        | some builder => builder.done
        | none => builder.pop.redo .afterHead
  | .close tag =>
      if tag.name = "head" then (builder.pop.goto .afterHead).done
      else if tag.name = "template" then builder.closeTemplate.done
      else if ["body", "html", "br"].contains tag.name then builder.pop.redo .afterHead
      else builder.done
  | _ => builder.pop.redo .afterHead

def impliedBody (builder : Builder) : Step :=
  (builder.insertNamed "body").2.redo .inBody

def lateHeadTag (builder : Builder) (tag : Tag) : Builder :=
  match builder.head with
  | some head =>
      let opened := builder.push ⟨head, .html "head"⟩
      ((opened.headTag? tag).getD opened).unopen head
  | none => builder

def afterHead (builder : Builder) (token : Token) : Step :=
  match token with
  | .chars content true => (builder.addText content).done
  | .comment content => (builder.addComment content).done
  | .open tag =>
      if tag.name = "html" then (builder.mergeRoot tag).done
      else if tag.name = "body" then ((builder.insert tag).settled.goto .inBody).done
      else if tag.name = "frameset" then ((builder.insert tag).goto .inFrameset).done
      else if isHeadTag tag then (builder.lateHeadTag tag).done
      else if tag.name = "head" then builder.done
      else builder.impliedBody
  | .close tag =>
      if tag.name = "template" then builder.closeTemplate.done
      else if ["body", "html", "br"].contains tag.name then builder.impliedBody
      else builder.done
  | _ => builder.impliedBody

def inText (builder : Builder) (token : Token) : Step :=
  match token with
  | .chars content _ => (builder.addText content).done
  | .stop => builder.pop.redo builder.returnPhase
  | .close _ => (builder.pop.goto builder.returnPhase).done
  | _ => builder.done

def isBlockTag (name : String) : Bool :=
  ["address", "article", "aside", "blockquote", "center", "details", "dialog", "dir",
    "div", "dl", "fieldset", "figcaption", "figure", "footer", "header", "hgroup",
    "main", "menu", "nav", "ol", "p", "section", "summary", "ul"].contains name

def isBlockEnd (name : String) : Bool :=
  name != "p" && (isBlockTag name || ["button", "listing", "pre"].contains name)

def isFormattingTag (name : String) : Bool :=
  ["b", "big", "code", "em", "font", "i", "s", "small", "strike", "strong", "tt",
    "u"].contains name

def isMisplacedTag (name : String) : Bool :=
  ["caption", "col", "colgroup", "frame", "head", "tbody", "td", "tfoot", "th", "thead",
    "tr"].contains name

def isHiddenInput (tag : Tag) : Bool :=
  match tag.attributes.lookup "type" with
  | some value => sameAscii value "hidden"
  | none => false

def body? (builder : Builder) : Option NodeId :=
  match builder.opened.reverse with
  | _ :: second :: _ => if second.name.isHtml "body" then some second.id else none
  | _ => none

def mergeBody (builder : Builder) (tag : Tag) : Builder :=
  match builder.body? with
  | some body =>
      if builder.isOpen "template" then builder
      else builder.settled.addAttributes body tag
  | none => builder

def replaceBody (builder : Builder) (tag : Tag) : Builder :=
  match builder.body? with
  | some body =>
      if builder.framesetOk then
        let outermost := builder.opened.drop (builder.opened.length - 1)
        ({ builder with document := builder.document.detach body, opened := outermost
          }.insert tag).goto .inFrameset
      else builder
  | none => builder

/-- The open list item that a new one ends, if there is one. -/
def openItem? (isItem : Name → Bool) : List Open → Option String
  | [] => none
  | element :: outer =>
      if isItem element.name then some element.name.localName
      else if element.name.stopsItems then none
      else openItem? isItem outer

def closeItem (builder : Builder) (localName : String) : Builder :=
  (builder.closeImpliedExcept localName).popThroughNamed localName

def insertItem (builder : Builder) (tag : Tag) : Builder :=
  let isItem := fun (name : Name) =>
    if tag.name = "li" then name.isHtml "li" else name.isAmong ["dd", "dt"]
  let builder := builder.settled
  let builder :=
    match openItem? isItem builder.opened with
    | some localName => builder.closeItem localName
    | none => builder
  builder.closeParagraphInScope.insert tag

def insertForm (builder : Builder) (tag : Tag) : Builder :=
  let inTemplate := builder.isOpen "template"
  if builder.form.isSome && !inTemplate then builder
  else
    let (id, builder) := builder.closeParagraphInScope.insertTag tag
    if inTemplate then builder else { builder with form := some id }

def closeForm (builder : Builder) : Builder :=
  if builder.isOpen "template" then
    if builder.inScope Name.isScope "form" then
      builder.closeImplied.popThroughNamed "form"
    else builder
  else
    match builder.form with
    | none => builder
    | some form =>
        let builder := { builder with form := none }
        if inScopeBy Name.isScope (fun element => element.id == form) builder.opened then
          builder.closeImplied.unopen form
        else builder

def gotoSelect (builder : Builder) : Builder :=
  match builder.phase with
  | .inTable | .inCaption | .inTableBody | .inRow | .inCell =>
      builder.goto .inSelectInTable
  | _ => builder.goto .inSelect

def insertForeign (builder : Builder) (space : Namespace) (tag : Tag) : Builder :=
  let name : Name := ⟨space, tag.name⟩
  let attributes := Foreign.attributes space tag.attributes
  if tag.selfClosing then (builder.add name attributes).2
  else (builder.addOpen name attributes).2

def insertInlineVoid (builder : Builder) (tag : Tag) : Builder :=
  let builder := builder.carryFormatting.insertVoid tag
  if tag.name = "input" && isHiddenInput tag then builder else builder.settled

def insertHeading (builder : Builder) (tag : Tag) : Builder :=
  let builder := builder.closeParagraphInScope
  let builder :=
    if builder.currentHas (·.isAmong Name.headings) then builder.pop else builder
  builder.insert tag

def insertButton (builder : Builder) (tag : Tag) : Builder :=
  let builder :=
    if builder.inScope Name.isScope "button" then
      builder.closeImplied.popThroughNamed "button"
    else builder
  (builder.carryFormatting.insert tag).settled

def insertNobr (builder : Builder) (tag : Tag) : Builder :=
  let builder := builder.carryFormatting
  let builder :=
    if builder.inScope Name.isScope "nobr" then
      (builder.closeFormatting "nobr").carryFormatting
    else builder
  builder.insertFormatting tag

def insertTable (builder : Builder) (tag : Tag) : Builder :=
  let builder := if builder.legacy then builder else builder.closeParagraphInScope
  (builder.insert tag).settled.goto .inTable

def insertOption (builder : Builder) (tag : Tag) : Builder :=
  let builder := if builder.currentIs "option" then builder.pop else builder
  builder.carryFormatting.insert tag

def insertRuby (builder : Builder) (tag : Tag) : Builder :=
  let builder :=
    if builder.inScope Name.isScope "ruby" then
      if tag.name = "rb" ∨ tag.name = "rtc" then builder.closeImplied
      else builder.closeImpliedExcept "rtc"
    else builder
  builder.insert tag

def insertPreformatted (builder : Builder) (tag : Tag) : Builder :=
  { (builder.closeParagraphInScope.insert tag).settled with skipLineFeed := true }

def bodyTag (builder : Builder) (tag : Tag) : Builder :=
  match tag.name with
  | "html" => builder.mergeRoot tag
  | "body" => builder.mergeBody tag
  | "frameset" => builder.replaceBody tag
  | "h1" | "h2" | "h3" | "h4" | "h5" | "h6" => builder.insertHeading tag
  | "pre" | "listing" => builder.insertPreformatted tag
  | "form" => builder.insertForm tag
  | "li" | "dd" | "dt" => builder.insertItem tag
  | "plaintext" =>
      { builder.closeParagraphInScope.insert tag with reading := .endless }
  | "button" => builder.insertButton tag
  | "a" => builder.closeOpenLink.carryFormatting.insertFormatting tag
  | "nobr" => builder.insertNobr tag
  | "applet" | "marquee" | "object" =>
      (builder.carryFormatting.insert tag).markFormatting.settled
  | "table" => builder.insertTable tag
  | "area" | "br" | "embed" | "img" | "keygen" | "wbr" | "input" =>
      builder.insertInlineVoid tag
  | "image" => builder.insertInlineVoid { tag with name := "img" }
  | "param" | "source" | "track" => builder.insertVoid tag
  | "hr" => (builder.closeParagraphInScope.insertVoid tag).settled
  | "textarea" =>
      { builder.settled.insertText tag (.referring "textarea") with skipLineFeed := true }
  | "xmp" =>
      builder.closeParagraphInScope.carryFormatting.settled.insertText tag
        (.verbatim "xmp")
  | "iframe" => builder.settled.insertText tag (.verbatim "iframe")
  | "noembed" | "noscript" => builder.insertText tag (.verbatim tag.name)
  | "select" => (builder.carryFormatting.insert tag).settled.gotoSelect
  | "optgroup" | "option" => builder.insertOption tag
  | "rb" | "rtc" | "rp" | "rt" => builder.insertRuby tag
  | "math" => builder.insertForeign .mathml tag
  | "svg" => builder.insertForeign .svg tag
  | name =>
      if isHeadTag tag then (builder.headTag? tag).getD builder
      else if isBlockTag name then builder.closeParagraphInScope.insert tag
      else if isFormattingTag name then builder.carryFormatting.insertFormatting tag
      else if isMisplacedTag name then builder
      else builder.carryFormatting.insert tag

def closeHeading (builder : Builder) : Builder :=
  let isHeading := fun (name : Name) => name.isAmong Name.headings
  if inScopeBy Name.isScope (fun element => isHeading element.name) builder.opened then
    builder.closeImplied.popThrough isHeading
  else builder

/-- The end tag of a paragraph. It opens one if none is open. -/
def endParagraph (builder : Builder) : Builder :=
  if builder.inScope Name.isButtonScope "p" then builder.closeParagraph
  else (builder.insertNamed "p").2.closeParagraph

/-- The end tag of an element that is closed where it is in sight. -/
def closeInScope (builder : Builder) (localName : String) : Builder :=
  if builder.inScope Name.isScope localName then
    builder.closeImplied.popThroughNamed localName
  else builder

def bodyEnd (builder : Builder) (tag : Tag) : Step :=
  match tag.name with
  | "template" => builder.closeTemplate.done
  | "body" =>
      (if builder.inScope Name.isScope "body" then builder.goto .afterBody
        else builder).done
  | "html" =>
      if builder.inScope Name.isScope "body" then builder.redo .afterBody
      else builder.done
  | "form" => builder.closeForm.done
  | "p" => builder.endParagraph.done
  | "li" =>
      (if builder.inScope Name.isListScope "li" then builder.closeItem "li"
        else builder).done
  | "dd" | "dt" =>
      (if builder.inScope Name.isScope tag.name then builder.closeItem tag.name
        else builder).done
  | "h1" | "h2" | "h3" | "h4" | "h5" | "h6" => builder.closeHeading.done
  | "applet" | "marquee" | "object" =>
      (if builder.inScope Name.isScope tag.name then
          (builder.closeInScope tag.name).clearFormatting
        else builder).done
  | "br" => (builder.insertInlineVoid ⟨"br", [], false⟩).done
  | name =>
      if isBlockEnd name then (builder.closeInScope name).done
      else if name = "a" ∨ name = "nobr" ∨ isFormattingTag name then
        (builder.closeFormatting name).done
      else (builder.closeNamed name).done

def templateStop (builder : Builder) : Step :=
  if builder.isOpen "template" then
    let builder := (builder.popThroughNamed "template").clearFormatting
    let builder := { builder with templatePhases := builder.templatePhases.drop 1 }
    builder.redo builder.resetPhase
  else builder.done

def inBody (builder : Builder) (token : Token) : Step :=
  match token with
  | .chars content blank =>
      let builder := builder.carryFormatting.addText content
      (if blank then builder else builder.settled).done
  | .comment content => (builder.addComment content).done
  | .open tag => (builder.bodyTag tag).done
  | .close tag => builder.bodyEnd tag
  | .stop => if builder.templatePhases.isEmpty then builder.done else builder.templateStop
  | _ => builder.done

end Builder

end MailQuote.Html
