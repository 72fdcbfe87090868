import MailQuote.Json.Read
import MailQuote.Mime

namespace MailQuote

inductive Event.Level where
  | trace
  | debug
  | warn
deriving DecidableEq, Repr

structure Event where
  level : Event.Level
  message : String
deriving DecidableEq, Repr

def Event.Level.name : Event.Level → String
  | .trace => "TRACE"
  | .debug => "DEBUG"
  | .warn => "WARN"

inductive Failure where
  /-- the selector of a handler has a mistake in it -/
  | invalidSelector (handler selector : String)
  /-- the structure of a message is damaged -/
  | structure (fault : Mime.Header.Fault)
  /-- the content of a message cannot be decoded -/
  | decoding (fault : Base64.Fault)
  /-- the options cannot be read -/
  | options (fault : Json.Fault)
deriving DecidableEq, Repr

def Failure.message : Failure → String
  | .invalidSelector handler selector =>
      s!"Invalid selector for handler {handler}: {selector}"
  | .structure fault => s!"Failed to parse message structure: {fault.message}"
  | .decoding fault => s!"Failed to decode content: {fault.message}"
  | .options fault => s!"Invalid options: {fault.message}"

/-- What is done with quotes. -/
inductive Mode where
  /-- they are deleted -/
  | remove
  /-- they are folded away under a summary -/
  | wrap
deriving DecidableEq, Repr

/-- How many levels of nested quotes are acted upon. -/
inductive Depth where
  /-- quotes that lie inside at most `max` other quotes -/
  | levels (max : UInt32)
  /-- quotes at any depth -/
  | infinite
deriving DecidableEq, Repr

def defaultLabel : String := "Show embedded message"

/-- What is to be done with the quotes of a body. -/
structure Options where
  mode : Mode := .remove
  /-- whether quotes that look like a forwarded message are left alone -/
  ignoreFirstForward : Bool := false
  depth : Depth := .infinite
  /-- the label of folded quotes -/
  label : String := defaultLabel
deriving DecidableEq, Repr

def Mode.name : Mode → String
  | .remove => "remove"
  | .wrap => "wrap"

def Mode.title : Mode → String
  | .remove => "Remove"
  | .wrap => "Wrap"

/-- Whether a quote that lies inside the given number of quotes is acted upon. -/
def Depth.allows : Depth → (ancestors : Nat) → Bool
  | .levels max, ancestors => ancestors ≤ max.toNat
  | .infinite, _ => true

def Depth.text : Depth → String
  | .levels max => toString max.toNat
  | .infinite => "infinite"

namespace Options

def withMode (options : Options) (mode : Mode) : Options :=
  { options with mode }

def withDepth (options : Options) (depth : Depth) : Options :=
  { options with depth }

def withIgnoreFirstForward (options : Options) (ignoreFirstForward : Bool) : Options :=
  { options with ignoreFirstForward }

def withLabel (options : Options) (label : String) : Options :=
  { options with label }

def localized (options : Options) (translate : String → String) : Options :=
  options.withLabel (translate defaultLabel)

end Options

/-- How the quotes of a body were recognized. -/
inductive Method where
  /-- by the markup that a mail program leaves around a quote -/
  | handlers
  /-- by a marker or by quoted lines in running text -/
  | pattern
deriving DecidableEq, Repr

def Method.name : Method → String
  | .handlers => "handlers"
  | .pattern => "pattern"

/-- The result for one body. Values that are read from data may combine the two
last fields freely; those that this library computes have a method exactly when
they had quotes. -/
structure Outcome where
  content : String
  hadQuotes : Bool
  method : Option Method
deriving DecidableEq, Repr

namespace Outcome

def empty : Outcome := ⟨"", false, none⟩

def unchanged (content : String) : Outcome := ⟨content, false, none⟩

/-- The result for a body whose quotes were removed or folded away. -/
def quoted (content : String) (method : Method) : Outcome :=
  ⟨content, true, some method⟩

end Outcome

/-- The result for each body that a message has. -/
structure Bodies where
  html : Option Outcome
  text : Option Outcome
deriving DecidableEq, Repr

namespace Bodies

def hadQuotes (bodies : Bodies) : Bool :=
  bodies.html.any Outcome.hadQuotes || bodies.text.any Outcome.hadQuotes

def contentOf (outcome : Option Outcome) : String :=
  (outcome.map Outcome.content).getD ""

/-- The content of the HTML body unless that is empty, or else of the plain text
body. -/
def bestContent (bodies : Bodies) : String :=
  let html := contentOf bodies.html
  if html.isEmpty then contentOf bodies.text else html

end Bodies

end MailQuote
