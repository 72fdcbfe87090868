import MailQuote.Html.Builder.Body

namespace MailQuote.Html

namespace Builder

/-- Treats a token as in the body, and places its content before the table. -/
def foster (builder : Builder) (token : Token) : Step :=
  let step := { builder with fostering := true }.inBody token
  { step with builder := { step.builder with fostering := false } }

def tableTag (builder : Builder) (tag : Tag) : Step :=
  match tag.name with
  | "caption" =>
      (((builder.popDownTo Name.isTableScope).markFormatting.insert tag).goto .inCaption).done
  | "colgroup" =>
      (((builder.popDownTo Name.isTableScope).insert tag).goto .inColumnGroup).done
  | "col" =>
      ((builder.popDownTo Name.isTableScope).insertNamed "colgroup").2.redo .inColumnGroup
  | "tbody" | "tfoot" | "thead" =>
      (((builder.popDownTo Name.isTableScope).insert tag).goto .inTableBody).done
  | "td" | "th" | "tr" =>
      ((builder.popDownTo Name.isTableScope).insertNamed "tbody").2.redo .inTableBody
  | "table" =>
      if builder.inScope Name.isTableScope "table" then
        let builder := builder.popThroughNamed "table"
        builder.redo builder.resetPhase
      else builder.done
  | "style" | "script" | "template" => ((builder.headTag? tag).getD builder).done
  | "input" =>
      if isHiddenInput tag then (builder.insertVoid tag).done else builder.foster (.open tag)
  | "form" =>
      if builder.isOpen "template" || builder.form.isSome then builder.done
      else
        let (id, builder) := builder.add (.html "form") (Foreign.attributes .html tag.attributes)
        { builder with form := some id }.done
  | _ => builder.foster (.open tag)

def tableEnd (builder : Builder) (tag : Tag) : Step :=
  match tag.name with
  | "table" =>
      (if builder.inScope Name.isTableScope "table" then
          (builder.popThroughNamed "table").reset
        else builder).done
  | "body" | "caption" | "col" | "colgroup" | "html" | "tbody" | "td" | "tfoot" | "th"
  | "thead" | "tr" => builder.done
  | "template" => builder.closeTemplate.done
  | _ => builder.foster (.close tag)

def tableText (builder : Builder) (token : Token) : Step :=
  if builder.currentHas Name.isTablePart then
    { builder with returnPhase := builder.phase }.redo .inTableText
  else builder.foster token

def inTable (builder : Builder) (token : Token) : Step :=
  match token with
  | .chars .. | .null => builder.tableText token
  | .comment content => (builder.addComment content).done
  | .open tag => builder.tableTag tag
  | .close tag => builder.tableEnd tag
  | .stop => builder.inBody token
  | _ => builder.done

/-- Places the text that was found inside a table. Text that is not all white
space goes before the table. -/
def placePending (builder : Builder) : Builder :=
  let pending := builder.pending
  let builder := { builder with pending := [] }
  if pending.all Prod.snd then
    pending.foldl (fun builder (content, _) => builder.addText content) builder
  else
    pending.foldl
      (fun builder (content, blank) => (builder.foster (.chars content blank)).builder)
      builder

def inTableText (builder : Builder) (token : Token) : Step :=
  match token with
  | .chars content blank =>
      { builder with pending := builder.pending ++ [(content, blank)] }.done
  | .null => builder.done
  | _ => builder.placePending.redo builder.returnPhase

def closeCaption (builder : Builder) : Builder :=
  (builder.closeImplied.popThroughNamed "caption").clearFormatting

def inCaption (builder : Builder) (token : Token) : Step :=
  match token with
  | .open tag =>
      if ["caption", "col", "colgroup", "tbody", "td", "tfoot", "th", "thead",
          "tr"].contains tag.name then
        if builder.inScope Name.isTableScope "caption" then builder.closeCaption.redo .inTable
        else builder.done
      else builder.inBody token
  | .close tag =>
      match tag.name with
      | "caption" =>
          (if builder.inScope Name.isTableScope "caption" then
              builder.closeCaption.goto .inTable
            else builder).done
      | "table" =>
          if builder.inScope Name.isTableScope "caption" then
            builder.closeCaption.redo .inTable
          else builder.done
      | "body" | "col" | "colgroup" | "html" | "tbody" | "td" | "tfoot" | "th" | "thead"
      | "tr" => builder.done
      | _ => builder.inBody token
  | _ => builder.inBody token

/-- Ends a group of columns for a token that does not belong into it. -/
def leaveColumns (builder : Builder) : Step :=
  if builder.currentIs "colgroup" then builder.pop.redo .inTable else builder.done

def inColumnGroup (builder : Builder) (token : Token) : Step :=
  match token with
  | .chars content true => (builder.addText content).done
  | .comment content => (builder.addComment content).done
  | .open tag =>
      match tag.name with
      | "html" => (builder.mergeRoot tag).done
      | "col" => (builder.insertVoid tag).done
      | "template" => (builder.openTemplate tag).done
      | _ => builder.leaveColumns
  | .close tag =>
      match tag.name with
      | "colgroup" =>
          (if builder.currentIs "colgroup" then builder.pop.goto .inTable else builder).done
      | "col" => builder.done
      | "template" => builder.closeTemplate.done
      | _ => builder.leaveColumns
  | .stop => builder.inBody token
  | _ => builder.leaveColumns

def isRowHolder (name : Name) : Bool :=
  name.isAmong ["tbody", "tfoot", "thead", "template", "html"]

def isCellHolder (name : Name) : Bool :=
  name.isAmong ["tr", "template", "html"]

def isCell (name : Name) : Bool :=
  name.isAmong ["td", "th"]

/-- Ends a group of rows for a token that does not belong into it. -/
def leaveRows (builder : Builder) : Step :=
  let isOuter := fun (element : Open) => element.name.isAmong ["table", "tbody", "tfoot"]
  if inScopeBy Name.isTableScope isOuter builder.opened then
    (builder.popDownTo isRowHolder).pop.redo .inTable
  else builder.done

def inTableBody (builder : Builder) (token : Token) : Step :=
  match token with
  | .open tag =>
      match tag.name with
      | "tr" => (((builder.popDownTo isRowHolder).insert tag).goto .inRow).done
      | "th" | "td" => ((builder.popDownTo isRowHolder).insertNamed "tr").2.redo .inRow
      | "caption" | "col" | "colgroup" | "tbody" | "tfoot" | "thead" => builder.leaveRows
      | _ => builder.inTable token
  | .close tag =>
      match tag.name with
      | "tbody" | "tfoot" | "thead" =>
          (if builder.inScope Name.isTableScope tag.name then
              (builder.popDownTo isRowHolder).pop.goto .inTable
            else builder).done
      | "table" => builder.leaveRows
      | "body" | "caption" | "col" | "colgroup" | "html" | "td" | "th" | "tr" => builder.done
      | _ => builder.inTable token
  | _ => builder.inTable token

def closeRow (builder : Builder) : Builder :=
  (builder.popDownTo isCellHolder).pop

def leaveRow (builder : Builder) : Step :=
  if builder.inScope Name.isTableScope "tr" then builder.closeRow.redo .inTableBody
  else builder.done

def inRow (builder : Builder) (token : Token) : Step :=
  match token with
  | .open tag =>
      match tag.name with
      | "th" | "td" =>
          (((builder.popDownTo isCellHolder).insert tag).goto .inCell).markFormatting.done
      | "caption" | "col" | "colgroup" | "tbody" | "tfoot" | "thead" | "tr" =>
          builder.leaveRow
      | _ => builder.inTable token
  | .close tag =>
      match tag.name with
      | "tr" =>
          (if builder.inScope Name.isTableScope "tr" then builder.closeRow.goto .inTableBody
            else builder).done
      | "table" => builder.leaveRow
      | "tbody" | "tfoot" | "thead" =>
          if builder.inScope Name.isTableScope tag.name then builder.leaveRow
          else builder.done
      | "body" | "caption" | "col" | "colgroup" | "html" | "td" | "th" => builder.done
      | _ => builder.inTable token
  | _ => builder.inTable token

def closeCell (builder : Builder) : Builder :=
  (builder.closeImplied.popThrough isCell).clearFormatting

def inCell (builder : Builder) (token : Token) : Step :=
  match token with
  | .open tag =>
      if ["caption", "col", "colgroup", "tbody", "td", "tfoot", "th", "thead",
          "tr"].contains tag.name then
        if inScopeBy Name.isTableScope (fun element => isCell element.name) builder.opened then
          builder.closeCell.redo .inRow
        else builder.done
      else builder.inBody token
  | .close tag =>
      match tag.name with
      | "td" | "th" =>
          (if builder.inScope Name.isTableScope tag.name then
              (builder.closeImplied.popThroughNamed tag.name).clearFormatting.goto .inRow
            else builder).done
      | "body" | "caption" | "col" | "colgroup" | "html" => builder.done
      | "table" | "tbody" | "tfoot" | "thead" | "tr" =>
          if builder.inScope Name.isTableScope tag.name then builder.closeCell.redo .inRow
          else builder.done
      | _ => builder.inBody token
  | _ => builder.inBody token

def closeSelect (builder : Builder) : Builder :=
  builder.popThroughNamed "select"

def popIf (builder : Builder) (localName : String) : Builder :=
  if builder.currentIs localName then builder.pop else builder

def endSelect (builder : Builder) : Step :=
  (if builder.inScope Name.isSelectScope "select" then builder.closeSelect.reset
    else builder).done

/-- Ends a list of choices for a token that does not belong into it. -/
def leaveSelect (builder : Builder) : Step :=
  let builder := builder.closeSelect
  builder.redo builder.resetPhase

def closeGroup (builder : Builder) : Builder :=
  let inGroup := (builder.opened.drop 1).head?.any fun element =>
    element.name.isHtml "optgroup"
  let builder := if inGroup then builder.popIf "option" else builder
  builder.popIf "optgroup"

def inSelect (builder : Builder) (token : Token) : Step :=
  match token with
  | .chars content _ => (builder.addText content).done
  | .comment content => (builder.addComment content).done
  | .open tag =>
      match tag.name with
      | "html" => (builder.mergeRoot tag).done
      | "option" => ((builder.popIf "option").insert tag).done
      | "optgroup" => (((builder.popIf "option").popIf "optgroup").insert tag).done
      | "select" => builder.endSelect
      | "input" | "keygen" | "textarea" =>
          if builder.inScope Name.isSelectScope "select" then builder.leaveSelect
          else builder.done
      | "script" | "template" => ((builder.headTag? tag).getD builder).done
      | _ => builder.done
  | .close tag =>
      match tag.name with
      | "optgroup" => builder.closeGroup.done
      | "option" => (builder.popIf "option").done
      | "select" => builder.endSelect
      | "template" => builder.closeTemplate.done
      | _ => builder.done
  | .stop => builder.inBody token
  | _ => builder.done

def endsTableSelect (name : String) : Bool :=
  ["caption", "table", "tbody", "tfoot", "thead", "tr", "td", "th"].contains name

def inSelectInTable (builder : Builder) (token : Token) : Step :=
  match token with
  | .open tag =>
      if endsTableSelect tag.name then builder.leaveSelect else builder.inSelect token
  | .close tag =>
      if endsTableSelect tag.name then
        if builder.inScope Name.isTableScope tag.name then builder.leaveSelect
        else builder.done
      else builder.inSelect token
  | _ => builder.inSelect token

/-- Goes to the phase inside a template that its content calls for. -/
def templateRedo (builder : Builder) (phase : Phase) : Step :=
  { builder with templatePhases := phase :: builder.templatePhases.drop 1 }.redo phase

def inTemplate (builder : Builder) (token : Token) : Step :=
  match token with
  | .chars .. | .comment _ => builder.inBody token
  | .open tag =>
      if isHeadTag tag then ((builder.headTag? tag).getD builder).done
      else
        match tag.name with
        | "caption" | "colgroup" | "tbody" | "tfoot" | "thead" =>
            builder.templateRedo .inTable
        | "col" => builder.templateRedo .inColumnGroup
        | "tr" => builder.templateRedo .inTableBody
        | "td" | "th" => builder.templateRedo .inRow
        | _ => builder.templateRedo .inBody
  | .close tag =>
      (if tag.name = "template" then builder.closeTemplate else builder).done
  | .stop => builder.templateStop
  | _ => builder.done

def afterBody (builder : Builder) (token : Token) : Step :=
  match token with
  | .chars _ true => builder.inBody token
  | .comment content => (builder.addRootComment content).done
  | .open tag =>
      if tag.name = "html" then (builder.mergeRoot tag).done else builder.redo .inBody
  | .close tag =>
      if tag.name = "html" then (builder.goto .afterAfterBody).done
      else builder.redo .inBody
  | .stop => builder.done
  | _ => builder.redo .inBody

def afterAfterBody (builder : Builder) (token : Token) : Step :=
  match token with
  | .chars _ true => builder.inBody token
  | .comment content => (builder.addTopComment content).done
  | .open tag =>
      if tag.name = "html" then (builder.mergeRoot tag).done else builder.redo .inBody
  | .stop => builder.done
  | _ => builder.redo .inBody

def inFrameset (builder : Builder) (token : Token) : Step :=
  match token with
  | .chars content true => (builder.addText content).done
  | .comment content => (builder.addComment content).done
  | .open tag =>
      (match tag.name with
      | "html" => builder.mergeRoot tag
      | "frameset" => builder.insert tag
      | "frame" => builder.insertVoid tag
      | "noframes" => (builder.headTag? tag).getD builder
      | _ => builder).done
  | .close tag =>
      if tag.name = "frameset" && 1 < builder.opened.length then
        let builder := builder.pop
        (if builder.currentIs "frameset" then builder else builder.goto .afterFrameset).done
      else builder.done
  | _ => builder.done

def afterFrameset (builder : Builder) (token : Token) : Step :=
  match token with
  | .chars content true => (builder.addText content).done
  | .comment content => (builder.addComment content).done
  | .open tag =>
      (match tag.name with
      | "html" => builder.mergeRoot tag
      | "noframes" => (builder.headTag? tag).getD builder
      | _ => builder).done
  | .close tag =>
      (if tag.name = "html" then builder.goto .afterAfterFrameset else builder).done
  | _ => builder.done

def afterAfterFrameset (builder : Builder) (token : Token) : Step :=
  match token with
  | .chars _ true => builder.inBody token
  | .comment content => (builder.addTopComment content).done
  | .open tag =>
      (match tag.name with
      | "html" => builder.mergeRoot tag
      | "noframes" => (builder.headTag? tag).getD builder
      | _ => builder).done
  | _ => builder.done

def isForeign (builder : Builder) (token : Token) : Bool :=
  match builder.current?, token with
  | none, _ => false
  | _, .stop => false
  | some name, token =>
      if name.space = .html then false
      else
        match token with
        | .chars .. | .null => !(name.isMathText || name.isSvgHost)
        | .open tag =>
            if name.isMathText && tag.name != "mglyph" && tag.name != "malignmark" then false
            else if name.isSvgHost then false
            else !(name == ⟨.mathml, "annotation-xml"⟩ && tag.name == "svg")
        | _ => true

def readsSections (builder : Builder) : Bool :=
  builder.currentHas fun name => name.space != .html

def holdsHtml (name : Name) : Bool :=
  name.space == .html || name.isMathText || name.isSvgHost

def breakOut (builder : Builder) : Step :=
  ⟨builder.pop.popDownTo holdsHtml, true⟩

def insertForeignTag (builder : Builder) (tag : Tag) : Builder :=
  let space := (builder.current?.map Name.space).getD .html
  let name := Foreign.elementName space tag.name
  let attributes := Foreign.attributes space tag.attributes
  if tag.selfClosing then (builder.add name attributes).2
  else (builder.addOpen name attributes).2

inductive ForeignEnd where
  /-- the open elements that are left -/
  | closed (outer : List Open)
  /-- the end tag is one of the HTML around the foreign content -/
  | html
  /-- nothing -/
  | void

/-- What an end tag closes, from the innermost open element on. -/
def foreignEnd (localName : String) : (first : Bool) → List Open → ForeignEnd
  | _, [] => .void
  | _, [_] => .void
  | first, element :: outer =>
      if !first && element.name.space == .html then .html
      else if lowerAscii element.name.localName == localName then .closed outer
      else foreignEnd localName false outer

/-- A token in foreign content. End tags of HTML elements are left to the given
phase. -/
def inForeign (builder : Builder) (inHtml : Builder → Token → Step) (token : Token) :
    Step :=
  match token with
  | .null => (builder.addText ['\ufffd']).done
  | .chars content blank =>
      let builder := if blank then builder else builder.settled
      (builder.addText content).done
  | .comment content => (builder.addComment content).done
  | .open tag =>
      if Foreign.breaksOut tag then builder.breakOut else (builder.insertForeignTag tag).done
  | .close tag =>
      match foreignEnd tag.name true builder.opened with
      | .closed outer => { builder with opened := outer }.done
      | .html => inHtml builder token
      | .void => builder.done
  | _ => builder.done

def inPhase (builder : Builder) (token : Token) : Step :=
  match builder.phase with
  | .initial => builder.initial token
  | .beforeHtml => builder.beforeHtml token
  | .beforeHead => builder.beforeHead token
  | .inHead => builder.inHead token
  | .afterHead => builder.afterHead token
  | .inBody => builder.inBody token
  | .inText => builder.inText token
  | .inTable => builder.inTable token
  | .inTableText => builder.inTableText token
  | .inCaption => builder.inCaption token
  | .inColumnGroup => builder.inColumnGroup token
  | .inTableBody => builder.inTableBody token
  | .inRow => builder.inRow token
  | .inCell => builder.inCell token
  | .inSelect => builder.inSelect token
  | .inSelectInTable => builder.inSelectInTable token
  | .inTemplate => builder.inTemplate token
  | .afterBody => builder.afterBody token
  | .inFrameset => builder.inFrameset token
  | .afterFrameset => builder.afterFrameset token
  | .afterAfterBody => builder.afterAfterBody token
  | .afterAfterFrameset => builder.afterAfterFrameset token

def step (builder : Builder) (token : Token) : Step :=
  if builder.isForeign token then builder.inForeign inPhase token
  else builder.inPhase token

def settle : (fuel : Nat) → Builder → Token → Builder
  | 0, builder, _ => builder
  | fuel + 1, builder, token =>
      match builder.step token with
      | ⟨builder, true⟩ => settle fuel builder token
      | ⟨builder, false⟩ => builder

def dropLineFeed : Token → Option Token
  | .chars ('\n' :: content) blank =>
      if content.isEmpty then none else some (.chars content blank)
  | token => some token

def consume (builder : Builder) (token : Token) : Builder :=
  let skip := builder.skipLineFeed
  let builder := { builder with skipLineFeed := false }
  match if skip then dropLineFeed token else some token with
  | none => builder
  | some .slip => builder
  | some (.doctype declaration) => builder.declare declaration
  | some token =>
      let builder := match token with
        | .open _ | .close _ => { builder with reading := .markup }
        | _ => builder
      settle (2 * builder.opened.length + 40) builder token

/-- Adds what a text stands for. Every round takes at least one character. -/
def read : (fuel : Nat) → Builder → List Char → Builder
  | 0, builder, _ => builder
  | _ + 1, builder, [] => builder
  | fuel + 1, builder, text =>
      let (tokens, rest) := Lexer.next builder.reading builder.readsSections text
      read fuel (tokens.foldl consume builder) rest

end Builder

def Document.parse (text : String) : Document :=
  let chars := withoutMark text.toList
  let builder := Builder.start.read (chars.length + 1) chars
  (builder.consume .stop).document.settle

end MailQuote.Html
