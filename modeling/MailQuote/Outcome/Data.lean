import MailQuote.Basic

namespace MailQuote

open Json

def Method.table : List (String × Method) :=
  [("handlers", .handlers), ("pattern", .pattern)]

def Method.optionToValue : Option Method → Value
  | some method => .text method.name
  | none => .null

namespace Outcome

def toValue (outcome : Outcome) : Value :=
  .record [
    ("content", .text outcome.content),
    ("had_quotes", .bool outcome.hadQuotes),
    ("detection_method", Method.optionToValue outcome.method)]

def toJson (outcome : Outcome) : String :=
  outcome.toValue.render

structure Draft where
  content : Option String := none
  hadQuotes : Option Bool := none
  method : Option (Option Method) := none

/-- The outcome that has been read. Only the method may be left out. -/
def Draft.finish (draft : Draft) : Except Fault Outcome :=
  match draft.content, draft.hadQuotes with
  | none, _ => .error (.missingField "content")
  | _, none => .error (.missingField "had_quotes")
  | some content, some hadQuotes => .ok ⟨content, hadQuotes, draft.method.getD none⟩

/-- Reads one member of an outcome object. Members with other names are passed
over. -/
def Draft.read (draft : Draft) (key : String) (value : Value) : Except Fault Draft :=
  if key = "content" then
    (once key draft.content value.toText).map
      fun content => { draft with content := some content }
  else if key = "had_quotes" then
    (once key draft.hadQuotes value.toBool).map
      fun hadQuotes => { draft with hadQuotes := some hadQuotes }
  else if key = "detection_method" then
    (once key draft.method (value.toOption (Value.toNamed Method.table))).map
      fun method => { draft with method := some method }
  else ignored draft value

def arrayForm : String := "struct UnquoteResult with 3 elements"

def ofItems (items : Items) : Except Fault Outcome := do
  let (content, items) ← items.require Value.toText 0 arrayForm
  let (hadQuotes, items) ← items.require Value.toBool 1 arrayForm
  let (method, items) ← items.require (Value.toOption (Value.toNamed Method.table)) 2 arrayForm
  items.finish ⟨content, hadQuotes, method⟩

def ofValue : Value → Except Fault Outcome
  | .object members =>
      match members.read Draft.read {} with
      | .ok draft => draft.finish
      | .error fault => .error fault
  | .array items => ofItems items
  | value => .error (value.mismatch "struct UnquoteResult")

def ofJson (text : String) : Except Fault Outcome :=
  Json.read ofValue text

end Outcome

end MailQuote
