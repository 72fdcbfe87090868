import MailQuote.Outcome.Data

namespace MailQuote

open Json

def Outcome.optionToValue : Option Outcome → Value
  | some outcome => outcome.toValue
  | none => .null

namespace Bodies

def toValue (bodies : Bodies) : Value :=
  .record [
    ("html", Outcome.optionToValue bodies.html),
    ("text", Outcome.optionToValue bodies.text)]

def toJson (bodies : Bodies) : String :=
  bodies.toValue.render

structure Draft where
  html : Option (Option Outcome) := none
  text : Option (Option Outcome) := none

def Draft.finish (draft : Draft) : Bodies :=
  ⟨draft.html.getD none, draft.text.getD none⟩

/-- Reads one member of a bodies object. Members with other names are passed
over. -/
def Draft.read (draft : Draft) (key : String) (value : Value) : Except Fault Draft :=
  if key = "html" then
    (once key draft.html (value.toOption Outcome.ofValue)).map
      fun html => { draft with html := some html }
  else if key = "text" then
    (once key draft.text (value.toOption Outcome.ofValue)).map
      fun text => { draft with text := some text }
  else ignored draft value

def arrayForm : String := "struct MessageBodies with 2 elements"

def ofItems (items : Items) : Except Fault Bodies := do
  let (html, items) ← items.require (Value.toOption Outcome.ofValue) 0 arrayForm
  let (text, items) ← items.require (Value.toOption Outcome.ofValue) 1 arrayForm
  items.finish ⟨html, text⟩

def ofValue : Value → Except Fault Bodies
  | .object members => (members.read Draft.read {}).map Draft.finish
  | .array items => ofItems items
  | value => .error (value.mismatch "struct MessageBodies")

def ofJson (text : String) : Except Fault Bodies :=
  Json.read ofValue text

end Bodies

end MailQuote
