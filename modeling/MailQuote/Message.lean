import MailQuote.Request

namespace MailQuote

open Mime

inductive Slot where
  | text
  | html
deriving DecidableEq, Repr

structure Selection where
  text : Option String := none
  html : Option String := none
deriving DecidableEq, Repr

/-- What a type of content has in its name if it is meant for a slot. -/
def Slot.mediaName : Slot → String
  | .text => "text/plain"
  | .html => "text/html"

namespace Selection

def get (selection : Selection) : Slot → Option String
  | .text => selection.text
  | .html => selection.html

def fill (selection : Selection) (slot : Slot) (body : String) : Selection :=
  match slot with
  | .text => { selection with text := some body }
  | .html => { selection with html := some body }

def accepts (selection : Selection) (type : ContentType) (slot : Slot) : Bool :=
  type.mentions slot.mediaName && (selection.get slot).isNone

def slotFor? (selection : Selection) (type : ContentType) : Option Slot :=
  [Slot.text, .html].find? (selection.accepts type)

variable (charsets : Charsets)

/-- A selection after one more part. A part that cannot be decoded is passed
over. -/
def offer (selection : Selection) (part : Entity) : Selection :=
  match selection.slotFor? part.type with
  | none => selection
  | some slot =>
      match part.text? charsets with
      | .ok body => selection.fill slot body
      | .error _ => selection

def offerEvents (selection : Selection) (part : Entity) : List Event :=
  match selection.slotFor? part.type, part.text? charsets with
  | some _, .error fault =>
      [⟨.warn, s!"Skipping {part.type.media} part: {(Failure.decoding fault).message}"⟩]
  | _, _ => []

def offerAll (selection : Selection) : List Entity → Selection
  | [] => selection
  | part :: others => (selection.offer charsets part).offerAll others

def offerAllEvents (selection : Selection) : List Entity → List Event
  | [] => []
  | part :: others =>
      selection.offerEvents charsets part ++
        (selection.offer charsets part).offerAllEvents others

def ofRoot (root : Entity) : Except Failure Selection :=
  match root.text? charsets with
  | .error fault => .error (.decoding fault)
  | .ok body =>
      let slot := if root.type.mentions Slot.html.mediaName then .html else .text
      .ok (({} : Selection).fill slot body)

def ofMessage (message : Message) : Except Failure Selection :=
  match message.parts with
  | .none => ofRoot charsets message.root
  | parts => .ok (({} : Selection).offerAll charsets parts.leaves)

def events (message : Message) : List Event :=
  ({} : Selection).offerAllEvents charsets message.parts.leaves

end Selection

def Selection.request (selection : Selection) (options : Options) : Request :=
  { html := selection.html, text := selection.text, options }

def Selection.bodies (selection : Selection) (options : Options) : Bodies where
  html := selection.html.map fun _ => (selection.request options).htmlOutcome
  text := selection.text.map fun _ => (selection.request options).textOutcome

def readMessage (charsets : Charsets) (raw : Octets) : Except Failure (Message × Selection) := do
  let message ← (Message.read charsets raw).mapError Failure.structure
  let selection ← Selection.ofMessage charsets message
  pure (message, selection)

def Bodies.ofMessage (raw : Octets) (options : Options)
    (charsets : Charsets := Charset.ofLabel?) : Except Failure Bodies :=
  (readMessage charsets raw).map fun (_, selection) => selection.bodies options

def flagText (value : Bool) : String :=
  if value then "true" else "false"

def Bodies.event (bodies : Bodies) : Event :=
  let html := flagText bodies.html.isSome
  let text := flagText bodies.text.isSome
  let quotes := flagText bodies.hadQuotes
  ⟨.debug, s!"Unquoted message: html={html} text={text} quotes={quotes}"⟩

def Bodies.eventsOfMessage (raw : Octets) (options : Options)
    (charsets : Charsets := Charset.ofLabel?) : List Event :=
  match readMessage charsets raw with
  | .error _ => []
  | .ok (message, selection) =>
      let request := selection.request options
      Selection.events charsets message ++ request.htmlEvents ++ request.textEvents ++
        [(selection.bodies options).event]

end MailQuote
