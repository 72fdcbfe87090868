import MailQuote.Basic

namespace MailQuote

open Json

def Mode.table : List (String × Mode) :=
  [("remove", .remove), ("wrap", .wrap)]

/-- How deep a field may be nested inside the record that holds it. -/
def Depth.maxNesting : Nat := 126

def Depth.toValue : Depth → Value
  | .levels max => .nat max.toNat
  | .infinite => .text "infinite"

def Depth.ofName (name : String) : Except Fault Depth :=
  if sameAscii name "infinite" then .ok .infinite else .error (.unknownDepth name)

def Depth.noVariant : Fault :=
  .noVariant "DepthRepr"

def Depth.ofValue (value : Value) : Except Fault Depth :=
  if value.isSound && value.nesting ≤ Depth.maxNesting then
    match value with
    | .number number =>
        match number.quantity with
        | .integer count =>
            if 0 ≤ count ∧ count < 0x100000000 then .ok (.levels (.ofNat count.toNat))
            else .error Depth.noVariant
        | _ => .error Depth.noVariant
    | .string (some name) => Depth.ofName name
    | _ => .error Depth.noVariant
  else .error .malformed

namespace Options

def toValue (options : Options) : Value :=
  .record [
    ("mode", .text options.mode.name),
    ("ignore_first_forward", .bool options.ignoreFirstForward),
    ("depth", options.depth.toValue),
    ("label", .text options.label)]

def toJson (options : Options) : String :=
  options.toValue.render

structure Draft where
  mode : Option Mode := none
  ignoreFirstForward : Option Bool := none
  depth : Option Depth := none
  label : Option String := none

def Draft.finish (draft : Draft) : Options :=
  let default : Options := {}
  { mode := draft.mode.getD default.mode
    ignoreFirstForward := draft.ignoreFirstForward.getD default.ignoreFirstForward
    depth := draft.depth.getD default.depth
    label := draft.label.getD default.label }

/-- Reads one member of an options object. Members with other names are passed
over. -/
def Draft.read (draft : Draft) (key : String) (value : Value) : Except Fault Draft :=
  if key = "mode" then
    (once key draft.mode (value.toNamed Mode.table)).map
      fun mode => { draft with mode := some mode }
  else if key = "ignore_first_forward" then
    (once key draft.ignoreFirstForward value.toBool).map
      fun flag => { draft with ignoreFirstForward := some flag }
  else if key = "depth" then
    (once key draft.depth (Depth.ofValue value)).map
      fun depth => { draft with depth := some depth }
  else if key = "label" then
    (once key draft.label value.toText).map
      fun label => { draft with label := some label }
  else ignored draft value

/-- Reads options from an array of fields, the last of which may be left out. -/
def ofItems (items : Items) : Except Fault Options := do
  let default : Options := {}
  let (mode, items) ← items.readOr (Value.toNamed Mode.table) default.mode
  let (ignoreFirstForward, items) ← items.readOr Value.toBool default.ignoreFirstForward
  let (depth, items) ← items.readOr Depth.ofValue default.depth
  let (label, items) ← items.readOr Value.toText default.label
  items.finish { mode, ignoreFirstForward, depth, label }

def ofValue : Value → Except Fault Options
  | .object members => (members.read Draft.read {}).map Draft.finish
  | .array items => ofItems items
  | value => .error (value.mismatch "struct UnquoteOptions")

def ofJson (text : String) : Except Fault Options :=
  Json.read ofValue text

end Options

end MailQuote
