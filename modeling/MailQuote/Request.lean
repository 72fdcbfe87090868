import MailQuote.Apply
import MailQuote.Html.Parse

namespace MailQuote

open Html

/-- The bodies of a message, and what is to be done with their quotes. -/
structure Request where
  html : Option String
  text : Option String
  options : Options := {}
  handlers : List Handler := Handler.builtin

namespace Request

/-- The result of acting upon the quotes of a document that stands for a given
HTML text. -/
def ofDocument (source : String) (document : Document) (handlers : List Handler)
    (options : Options) : Outcome :=
  let quoted := collect document handlers options
  if quoted.isEmpty then .unchanged (trimmed source)
  else
    let result := document.apply quoted options.mode options.label
    .quoted (trimmed result.renderBody) .handlers

/-- The result for the HTML body. A body without quotes is kept as it is. -/
def htmlOutcome (request : Request) : Outcome :=
  match request.html with
  | none => .empty
  | some html =>
      if isBlankText html then .empty
      else ofDocument html (Document.parse html) request.handlers request.options

def textOutcome (request : Request) : Outcome :=
  match request.text with
  | none => .empty
  | some text => if isBlankText text then .empty else scan text

def documentEvents (source : String) (document : Document) (handlers : List Handler)
    (options : Options) : List Event :=
  let quoted := collect document handlers options
  let collecting := Collect.events document handlers options
  if quoted.isEmpty then collecting
  else
    let result := document.apply quoted options.mode options.label
    let before := source.utf8ByteSize
    let after := result.renderBody.utf8ByteSize
    collecting ++ applyEvents document quoted options.mode ++
      [⟨.debug, s!"Unquoted HTML body ({options.mode.title}): {before} -> {after} bytes"⟩]

def htmlEvents (request : Request) : List Event :=
  match request.html with
  | none => []
  | some html =>
      if isBlankText html then []
      else documentEvents html (Document.parse html) request.handlers request.options

def textEvents (request : Request) : List Event :=
  match request.text with
  | none => []
  | some text => if isBlankText text then [] else scanEvents text

end Request

def htmlContent (html : String) (options : Options) : String :=
  ({ html := some html, text := none, options : Request }).htmlOutcome.content

def textContent (text : String) : String :=
  ({ html := none, text := some text : Request }).textOutcome.content

end MailQuote
