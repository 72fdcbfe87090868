import MailQuote.Json.Basic
import MailQuote.Text
import MailQuote.Character

namespace MailQuote.Json

def isSpace (c : Char) : Bool :=
  c == ' ' || c == '\n' || c == '\t' || c == '\r'

def skipSpace (text : List Char) : List Char :=
  text.dropWhile isSpace

inductive Piece where
  | char (c : Char)
  /-- a UTF-16 code unit that is given by its number -/
  | unit (value : Nat)
deriving DecidableEq

def hexValue? (c : Char) : Option Nat :=
  if '0' ≤ c ∧ c ≤ '9' then some (c.toNat - '0'.toNat)
  else if 'a' ≤ c ∧ c ≤ 'f' then some (c.toNat - 'a'.toNat + 10)
  else if 'A' ≤ c ∧ c ≤ 'F' then some (c.toNat - 'A'.toNat + 10)
  else none

def unit? (first second third fourth : Char) : Option Nat := do
  let a ← hexValue? first
  let b ← hexValue? second
  let c ← hexValue? third
  let d ← hexValue? fourth
  pure (((a * 16 + b) * 16 + c) * 16 + d)

def escaped? : Char → Option Char
  | '"' => some '"'
  | '\\' => some '\\'
  | '/' => some '/'
  | 'b' => some '\x08'
  | 'f' => some '\x0c'
  | 'n' => some '\n'
  | 'r' => some '\r'
  | 't' => some '\t'
  | _ => none

/-- The pieces of a string up to its closing quote, and the text after it. -/
def readPieces : List Char → Option (List Piece × List Char)
  | [] => none
  | '"' :: rest => some ([], rest)
  | '\\' :: 'u' :: a :: b :: c :: d :: rest => do
      let value ← unit? a b c d
      let (pieces, rest) ← readPieces rest
      pure (.unit value :: pieces, rest)
  | '\\' :: e :: rest => do
      let c ← escaped? e
      let (pieces, rest) ← readPieces rest
      pure (.char c :: pieces, rest)
  | c :: rest => do
      if c < ' ' then none
      let (pieces, rest) ← readPieces rest
      pure (.char c :: pieces, rest)

def isHigh (value : Nat) : Bool :=
  0xD800 ≤ value && value < 0xDC00

def isLow (value : Nat) : Bool :=
  0xDC00 ≤ value && value < 0xE000

/-- The characters that pieces stand for. Both halves of a surrogate pair have
to be there. -/
def joinPieces : List Piece → Option (List Char)
  | [] => some []
  | .char c :: rest => (joinPieces rest).map (c :: ·)
  | .unit high :: .unit low :: rest =>
      if isHigh high then
        if isLow low then
          let c := Char.ofNat (0x10000 + (high - 0xD800) * 0x400 + (low - 0xDC00))
          (joinPieces rest).map (c :: ·)
        else none
      else if isLow high then none
      else (joinPieces (.unit low :: rest)).map (Char.ofNat high :: ·)
  | .unit value :: rest =>
      if isHigh value || isLow value then none
      else (joinPieces rest).map (Char.ofNat value :: ·)

def readString (text : List Char) : Option (Option String × List Char) :=
  (readPieces text).map fun (pieces, rest) =>
    ((joinPieces pieces).map String.ofList, rest)

/-- The whole part of a number: a zero, or digits that do not begin with one. -/
def readWhole (text : List Char) : Option (List Char × List Char) :=
  match text.takeWhile Char.isDigit with
  | [] => none
  | '0' :: _ :: _ => none
  | digits => some (digits, text.dropWhile Char.isDigit)

def readDigits (text : List Char) : Option (List Char × List Char) :=
  match text.takeWhile Char.isDigit with
  | [] => none
  | digits => some (digits, text.dropWhile Char.isDigit)

def readFraction : List Char → Option (Option (List Char) × List Char)
  | '.' :: rest => (readDigits rest).map fun (digits, rest) => (some digits, rest)
  | text => some (none, text)

def decimalValue (digits : List Char) : Nat :=
  digits.foldl (fun value c => value * 10 + (c.toNat - '0'.toNat)) 0

def readPower (negative : Bool) (text : List Char) : Option (Option Int × List Char) :=
  (readDigits text).map fun (digits, rest) =>
    let value : Int := decimalValue digits
    (some (if negative then -value else value), rest)

def readExponent : List Char → Option (Option Int × List Char)
  | c :: rest =>
      if c = 'e' ∨ c = 'E' then
        match rest with
        | '+' :: rest => readPower false rest
        | '-' :: rest => readPower true rest
        | rest => readPower false rest
      else some (none, c :: rest)
  | [] => some (none, [])

def readNumber (negative : Bool) (text : List Char) : Option (Number × List Char) := do
  let (whole, text) ← readWhole text
  let (fraction, text) ← readFraction text
  let (exponent, text) ← readExponent text
  pure (⟨negative, whole, fraction, exponent⟩, text)

def readWord (expected : List Char) (value : Value) (text : List Char) :
    Value × List Char :=
  match Text.after? expected text with
  | some rest => (value, rest)
  | none => (.broken, [])

def readNumeral (negative : Bool) (text : List Char) : Value × List Char :=
  match readNumber negative text with
  | some (value, rest) => (.number value, rest)
  | none => (.broken, [])

mutual
def readValue : (fuel : Nat) → List Char → Value × List Char
  | 0, _ => (.broken, [])
  | fuel + 1, text =>
      match skipSpace text with
      | [] => (.broken, [])
      | '"' :: rest =>
          match readString rest with
          | some (value, rest) => (.string value, rest)
          | none => (.broken, [])
      | '[' :: rest =>
          match skipSpace rest with
          | ']' :: rest => (.array .done, rest)
          | rest =>
              let (items, rest) := readItems fuel rest
              (.array items, rest)
      | '{' :: rest =>
          match skipSpace rest with
          | '}' :: rest => (.object .done, rest)
          | rest =>
              let (members, rest) := readMembers fuel rest
              (.object members, rest)
      | 'n' :: rest => readWord ['u', 'l', 'l'] .null rest
      | 't' :: rest => readWord ['r', 'u', 'e'] (.bool true) rest
      | 'f' :: rest => readWord ['a', 'l', 's', 'e'] (.bool false) rest
      | '-' :: rest => readNumeral true rest
      | text => readNumeral false text

def readItems : (fuel : Nat) → List Char → Items × List Char
  | 0, _ => (.broken, [])
  | fuel + 1, text =>
      let (head, rest) := readValue fuel text
      match skipSpace rest with
      | ']' :: rest => (.cons head .done, rest)
      | ',' :: rest =>
          match skipSpace rest with
          | ']' :: _ => (.cons head .broken, [])
          | rest =>
              let (tail, rest) := readItems fuel rest
              (.cons head tail, rest)
      | _ => (.cons head .broken, [])

def readMembers : (fuel : Nat) → List Char → Members × List Char
  | 0, _ => (.stray .broken, [])
  | fuel + 1, text =>
      match text with
      | '"' :: rest =>
          match readString rest with
          | none => (.stray .broken, [])
          | some (key, rest) =>
              match skipSpace rest with
              | ':' :: rest =>
                  let (value, rest) := readValue fuel rest
                  match skipSpace rest with
                  | '}' :: rest => (.cons key value .done, rest)
                  | ',' :: rest =>
                      let (tail, rest) := readMembers fuel (skipSpace rest)
                      (.cons key value tail, rest)
                  | _ => (.cons key value (.stray .broken), [])
              | _ => (.cons key .broken (.stray .broken), [])
      | text => (.stray (readValue fuel text).1, [])
end

/-- A JSON text: its value, and whether only white space follows. -/
structure Source where
  value : Value
  ended : Bool

def Source.ofText (text : List Char) : Source :=
  let (value, rest) := readValue (2 * text.length + 2) text
  ⟨value, (skipSpace rest).isEmpty⟩

def parse? (text : String) : Option Value :=
  let source := Source.ofText text.toList
  if source.ended && source.value.isWhole then some source.value else none

inductive Fault where
  /-- the text is no JSON text of the expected form -/
  | malformed
  | mismatch (found expected : String)
  | unknownVariant (found : String) (allowed : List String)
  | duplicateField (name : String)
  | missingField (name : String)
  | invalidLength (count : Nat) (expected : String)
  | noVariant (name : String)
  | unknownDepth (found : String)
deriving DecidableEq, Repr

def ticked (name : String) : String :=
  "\x60" ++ name ++ "\x60"

def Fault.message : Fault → String
  | .malformed => "malformed JSON"
  | .mismatch found expected => s!"invalid type: {found}, expected {expected}"
  | .unknownVariant found allowed =>
      let names := " or ".intercalate (allowed.map ticked)
      s!"unknown variant {ticked found}, expected {names}"
  | .duplicateField name => s!"duplicate field {ticked name}"
  | .missingField name => s!"missing field {ticked name}"
  | .invalidLength count expected => s!"invalid length {count}, expected {expected}"
  | .noVariant name => s!"data did not match any variant of untagged enum {name}"
  | .unknownDepth found => s!"unknown depth: {found}"

/-- What a value is called in a fault, unless it cannot be read at all. -/
def Value.description? : Value → Option String
  | .null => some "null"
  | .bool value => some ("boolean " ++ ticked (if value then "true" else "false"))
  | .number value =>
      match value.quantity with
      | .integer value => some s!"integer {ticked (toString value)}"
      | .float value => some s!"floating point {ticked (Decimal.text value)}"
      | .excessive => none
  | .string value => value.map fun text => s!"string {quoted text}"
  | .array _ => some "sequence"
  | .object _ => some "map"
  | .broken => none

def Value.mismatch (value : Value) (expected : String) : Fault :=
  match value.description? with
  | some found => .mismatch found expected
  | none => .malformed

def Value.toBool : Value → Except Fault Bool
  | .bool value => .ok value
  | value => .error (value.mismatch "a boolean")

def Value.toText : Value → Except Fault String
  | .string (some value) => .ok value
  | value => .error (value.mismatch "a string")

def Value.toOption (read : Value → Except Fault α) : Value → Except Fault (Option α)
  | .null => .ok none
  | value => (read value).map some

def named (table : List (String × α)) (name : String) : Except Fault α :=
  match table.lookup name with
  | some value => .ok value
  | none => .error (.unknownVariant name (table.map Prod.fst))

/-- Reads one of a few named values: its name, or an object with its name as
the only key and null under it. -/
def Value.toNamed (table : List (String × α)) : Value → Except Fault α
  | .string (some name) => named table name
  | .object (.stray found) => .error (found.mismatch "variant identifier")
  | .object (.cons (some name) content tail) =>
      match named table name with
      | .error fault => .error fault
      | .ok value =>
          match content, tail with
          | .null, .done => .ok value
          | .null, _ => .error .malformed
          | _, _ => .error (content.mismatch "unit")
  | _ => .error .malformed

def Members.read (step : σ → (key : String) → Value → Except Fault σ) :
    σ → Members → Except Fault σ
  | state, .done => .ok state
  | state, .cons (some key) value tail =>
      match step state key value with
      | .ok next => Members.read step next tail
      | .error fault => .error fault
  | _, _ => .error .malformed

def ignored (state : σ) (value : Value) : Except Fault σ :=
  if value.isWhole then .ok state else .error .malformed

def once (name : String) (known : Option α) (read : Except Fault α) : Except Fault α :=
  if known.isSome then .error (.duplicateField name) else read

def Items.finish (value : α) : Items → Except Fault α
  | .done => .ok value
  | _ => .error .malformed

/-- Reads the next element of an array, or keeps a default at the end. -/
def Items.readOr (read : Value → Except Fault α) (default : α) (items : Items) :
    Except Fault (α × Items) :=
  match items with
  | .cons head tail => (read head).map (·, tail)
  | .done => .ok (default, .done)
  | .broken => .error .malformed

/-- Reads the element with a given index of an array that must have it. -/
def Items.require (read : Value → Except Fault α) (index : Nat) (expected : String)
    (items : Items) : Except Fault (α × Items) :=
  match items with
  | .cons head tail => (read head).map (·, tail)
  | .done => .error (.invalidLength index expected)
  | .broken => .error .malformed

def read (decode : Value → Except Fault α) (text : String) : Except Fault α :=
  let source := Source.ofText text.toList
  match decode source.value with
  | .ok value => if source.ended then .ok value else .error .malformed
  | .error fault => .error fault

end MailQuote.Json
