import MailQuote.Text

namespace MailQuote

namespace Selector

inductive Comparison where
  | equal
  /-- one of the words of the value -/
  | includes
  /-- the value, or what precedes a dash in it -/
  | dashMatch
  | prefixMatch
  | suffixMatch
  | substringMatch
deriving DecidableEq, Repr

inductive CaseRule where
  | sensitive
  | insensitive
  /-- it does not count in HTML elements -/
  | insensitiveInHtml
deriving DecidableEq, Repr

inductive ValueTest where
  | present
  | compare (comparison : Comparison) (expected : String) (rule : CaseRule)
deriving DecidableEq, Repr

/-- A condition on a single element, other than a negation. -/
inductive Condition where
  | universal
  /-- the element belongs to no vocabulary -/
  | noNamespace
  | typeName (name : String)
  | id (name : String)
  | hasClass (name : String)
  /-- an attribute, of any vocabulary or of none -/
  | attribute (anySpace : Bool) (name : String) (test : ValueTest)
  | root
  | empty
  | firstChild
  | lastChild
  | onlyChild
  | onlyOfType
  /-- the position among the siblings is `step · n + offset` for some `n` -/
  | nth (step offset : Int) (ofType fromEnd : Bool)
  | link
  /-- a state or a role that no element of a message has -/
  | never
deriving DecidableEq, Repr

/-- A condition on a single element. -/
inductive Simple where
  | plain (condition : Condition)
  /-- some of the conditions do not hold -/
  | negated (conditions : List Condition)
deriving DecidableEq, Repr

inductive Combinator where
  | descendant
  | child
  | adjacent
  | sibling
deriving DecidableEq, Repr

/-- Conditions on an element, and on elements that it stands to in some way. -/
inductive Complex where
  | compound (conditions : List Simple)
  | combined (other : Complex) (combinator : Combinator) (conditions : List Simple)
deriving DecidableEq, Repr

end Selector

/-- A selector: an element is selected if one of the alternatives holds. -/
structure Selector where
  alternatives : List Selector.Complex
deriving DecidableEq, Repr

namespace Selector

inductive Token where
  | ident (name : String)
  /-- a name with a parenthesis, which opens a block -/
  | function (name : String)
  /-- a number sign with a name -/
  | hash (name : String)
  | text (value : String)
  /-- a whole number, and whether it has a sign -/
  | number (value : Int) (signed : Bool)
  /-- a whole number with a unit -/
  | dimension (value : Int) (unit : String)
  | space
  | delim (c : Char)
  | colon
  | comma
  | includes
  | dashMatch
  | prefixMatch
  | suffixMatch
  | substringMatch
  | openSquare
  | closeSquare
  | closeParen
  /-- anything that no selector has in it -/
  | other
deriving DecidableEq, Repr

end Selector

namespace Selector.Lexer

def isSpace (c : Char) : Bool :=
  c == ' ' || c == '\t' || c == '\n' || c == '\x0c' || c == '\r'

def isLineEnd (c : Char) : Bool :=
  c == '\n' || c == '\x0c' || c == '\r'

def startsName (c : Char) : Bool :=
  c.isAlpha || c == '_' || c == '\x00' || 0x80 ≤ c.toNat

def inName (c : Char) : Bool :=
  startsName c || c.isDigit || c == '-'

def atLineEnd (text : List Char) : Bool :=
  text.head?.any isLineEnd

def atName : List Char → Bool
  | '-' :: '\\' :: _ => true
  | '-' :: c :: _ => startsName c || c == '-'
  | '\\' :: rest => !atLineEnd rest
  | c :: _ => startsName c
  | [] => false

def hexValue? (c : Char) : Option Nat :=
  if c.isDigit then some (c.toNat - '0'.toNat)
  else
    let lower := Text.lowerAscii c
    if 'a' ≤ lower ∧ lower ≤ 'f' then some (lower.toNat - 'a'.toNat + 10) else none

def ofCode (code : Nat) : Char :=
  if code = 0 ∨ 0x10FFFF < code ∨ (0xD800 ≤ code ∧ code < 0xE000) then '\ufffd'
  else Char.ofNat code

/-- At most six hexadecimal digits: their value and the text after them. -/
def hexDigits : (left value : Nat) → List Char → Nat × List Char
  | left + 1, value, c :: rest =>
      match hexValue? c with
      | some digit => hexDigits left (value * 16 + digit) rest
      | none => (value, c :: rest)
  | _, value, text => (value, text)

def dropSpace : List Char → List Char
  | '\r' :: '\n' :: rest => rest
  | c :: rest => if isSpace c then rest else c :: rest
  | [] => []

/-- The character of an escape whose backslash has been read. -/
def escape : List Char → Char × List Char
  | [] => ('\ufffd', [])
  | c :: rest =>
      if (hexValue? c).isSome then
        let (code, rest) := hexDigits 6 0 (c :: rest)
        (ofCode code, dropSpace rest)
      else if c = '\x00' then ('\ufffd', rest)
      else (c, rest)

def readName : (fuel : Nat) → List Char → List Char × List Char
  | 0, text => ([], text)
  | _, [] => ([], [])
  | fuel + 1, c :: rest =>
      if c = '\\' then
        if atLineEnd rest then ([], c :: rest)
        else
          let (first, rest) := escape rest
          let (name, rest) := readName fuel rest
          (first :: name, rest)
      else if inName c then
        let (name, rest) := readName fuel rest
        ((if c = '\x00' then '\ufffd' else c) :: name, rest)
      else ([], c :: rest)

def name (text : List Char) : String × List Char :=
  let (found, rest) := readName (text.length + 1) text
  (String.ofList found, rest)

/-- A string whose opening quote has been read, unless a line ends in it. -/
def readString (quote : Char) : (fuel : Nat) → List Char → Option (List Char × List Char)
  | 0, _ => none
  | _, [] => some ([], [])
  | fuel + 1, c :: rest =>
      if c = quote then some ([], rest)
      else if isLineEnd c then none
      else if c = '\\' then
        if rest.isEmpty then some ([], [])
        else if atLineEnd rest then readString quote fuel (dropSpace rest)
        else
          let (first, rest) := escape rest
          (readString quote fuel rest).map fun (content, rest) => (first :: content, rest)
      else
        let first := if c = '\x00' then '\ufffd' else c
        (readString quote fuel rest).map fun (content, rest) => (first :: content, rest)

def string (quote : Char) (text : List Char) : Token × List Char :=
  match readString quote (text.length + 1) text with
  | some (content, rest) => (.text (String.ofList content), rest)
  | none => (.other, text)

def skipComment : List Char → List Char
  | [] => []
  | '*' :: '/' :: rest => rest
  | _ :: rest => skipComment rest

def atDigits : List Char → Bool
  | '.' :: c :: _ => c.isDigit
  | c :: _ => c.isDigit
  | [] => false

def afterFraction? : List Char → Option (List Char)
  | '.' :: c :: rest => if c.isDigit then some ((c :: rest).dropWhile Char.isDigit) else none
  | _ => none

def afterExponent? : List Char → Option (List Char)
  | e :: rest =>
      if e = 'e' ∨ e = 'E' then
        match rest with
        | sign :: c :: more =>
            if sign.isDigit then some (rest.dropWhile Char.isDigit)
            else if (sign = '+' ∨ sign = '-') ∧ c.isDigit then
              some ((c :: more).dropWhile Char.isDigit)
            else none
        | [c] => if c.isDigit then some [] else none
        | [] => none
      else none
  | [] => none

def clamp (value : Int) : Int :=
  max (-0x80000000) (min 0x7FFFFFFF value)

def digitsValue (digits : List Char) : Nat :=
  digits.foldl (fun value c => value * 10 + (c.toNat - '0'.toNat)) 0

/-- A number, with its unit if there is one, whose sign has been read. Only
whole numbers are told apart. -/
def number (negative signed : Bool) (text : List Char) : Token × List Char :=
  let digits := text.takeWhile Char.isDigit
  let size : Int := digitsValue digits
  let value := clamp (if negative then -size else size)
  let rest := text.dropWhile Char.isDigit
  let afterFraction := afterFraction? rest
  let rest := afterFraction.getD rest
  let afterExponent := afterExponent? rest
  let rest := afterExponent.getD rest
  let whole := afterFraction.isNone && afterExponent.isNone
  match rest with
  | '%' :: rest => (.other, rest)
  | rest =>
      if atName rest then
        let (unit, rest) := name rest
        (if whole then .dimension value unit else .other, rest)
      else (if whole then .number value signed else .other, rest)

def nameLike (text : List Char) : Token × List Char :=
  match name text with
  | (found, '(' :: rest) => (.function found, rest)
  | (found, rest) => (.ident found, rest)

def hashLike (text : List Char) : Token × List Char :=
  if atName text then
    let (found, rest) := name text
    (.hash found, rest)
  else
    match text with
    | c :: _ =>
        if c.isDigit || c == '-' then (.other, (name text).2) else (.delim '#', text)
    | [] => (.delim '#', text)

def signed (sign : Char) (text : List Char) : Token × List Char :=
  if atDigits text then number (sign == '-') true text
  else if sign = '-' ∧ text.take 2 = ['-', '>'] then (.other, text)
  else if sign = '-' ∧ atName (sign :: text) then nameLike (sign :: text)
  else (.delim sign, text)

/-- The first token of a text that is neither empty nor at a comment. -/
def first (c : Char) (rest : List Char) : Token × List Char :=
  match c, rest with
  | '"', rest => string '"' rest
  | '\'', rest => string '\'' rest
  | '#', rest => hashLike rest
  | '$', '=' :: rest => (.suffixMatch, rest)
  | '*', '=' :: rest => (.substringMatch, rest)
  | '^', '=' :: rest => (.prefixMatch, rest)
  | '|', '=' :: rest => (.dashMatch, rest)
  | '~', '=' :: rest => (.includes, rest)
  | '(', rest => (.other, rest)
  | ')', rest => (.closeParen, rest)
  | '[', rest => (.openSquare, rest)
  | ']', rest => (.closeSquare, rest)
  | ',', rest => (.comma, rest)
  | ':', rest => (.colon, rest)
  | ';', rest => (.other, rest)
  | '+', rest => signed '+' rest
  | '-', rest => signed '-' rest
  | '@', rest => (.other, rest)
  | '\\', rest => if atLineEnd rest then (.other, rest) else nameLike (c :: rest)
  | c, rest =>
      if isSpace c then (.space, rest.dropWhile isSpace)
      else if atDigits (c :: rest) then number false false (c :: rest)
      else if startsName c then nameLike (c :: rest)
      else (.delim c, rest)

def readAll : (fuel : Nat) → List Char → List Token
  | 0, _ => []
  | _, [] => []
  | fuel + 1, '/' :: '*' :: rest => readAll fuel (skipComment rest)
  | fuel + 1, c :: rest =>
      let (token, rest) := first c rest
      token :: readAll fuel rest

def tokens (text : String) : List Token :=
  let chars := text.toList
  readAll (chars.length + 1) chars

end Selector.Lexer

end MailQuote
