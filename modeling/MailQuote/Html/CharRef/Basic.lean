import MailQuote.Html.CharRef.Capitals
import MailQuote.Html.CharRef.Small
import MailQuote.Text

namespace MailQuote.Html

namespace CharRef

/-- The references that begin with a given letter. A name without a semicolon
may be followed by other letters. -/
def namesFrom : (first : Char) → List (String × String)
  | 'A' => namesUpperA
  | 'B' => namesUpperB
  | 'C' => namesUpperC
  | 'D' => namesUpperD
  | 'E' => namesUpperE
  | 'F' => namesUpperF
  | 'G' => namesUpperG
  | 'H' => namesUpperH
  | 'I' => namesUpperI
  | 'J' => namesUpperJ
  | 'K' => namesUpperK
  | 'L' => namesUpperL
  | 'M' => namesUpperM
  | 'N' => namesUpperN
  | 'O' => namesUpperO
  | 'P' => namesUpperP
  | 'Q' => namesUpperQ
  | 'R' => namesUpperR
  | 'S' => namesUpperS
  | 'T' => namesUpperT
  | 'U' => namesUpperU
  | 'V' => namesUpperV
  | 'W' => namesUpperW
  | 'X' => namesUpperX
  | 'Y' => namesUpperY
  | 'Z' => namesUpperZ
  | 'a' => namesLowerA
  | 'b' => namesLowerB
  | 'c' => namesLowerC
  | 'd' => namesLowerD
  | 'e' => namesLowerE
  | 'f' => namesLowerF
  | 'g' => namesLowerG
  | 'h' => namesLowerH
  | 'i' => namesLowerI
  | 'j' => namesLowerJ
  | 'k' => namesLowerK
  | 'l' => namesLowerL
  | 'm' => namesLowerM
  | 'n' => namesLowerN
  | 'o' => namesLowerO
  | 'p' => namesLowerP
  | 'q' => namesLowerQ
  | 'r' => namesLowerR
  | 's' => namesLowerS
  | 't' => namesLowerT
  | 'u' => namesLowerU
  | 'v' => namesLowerV
  | 'w' => namesLowerW
  | 'x' => namesLowerX
  | 'y' => namesLowerY
  | 'z' => namesLowerZ
  | _ => []

end CharRef

structure CharRef where
  chars : List Char
  /-- whether its semicolon is missing -/
  unfinished : Bool

namespace CharRef

def isAlnum (c : Char) : Bool :=
  c.isAlphanum

/-- A name that a text begins with, what it stands for, and the text after it. -/
structure Hit where
  name : List Char
  chars : List Char
  rest : List Char

def longer (first second : Option Hit) : Option Hit :=
  match first, second with
  | some a, some b => if a.name.length < b.name.length then some b else some a
  | some a, none => some a
  | none, found => found

def longest (text : List Char) : List (String × String) → Option Hit
  | [] => none
  | (name, value) :: others =>
      let found := (Text.after? name.toList text).map fun rest =>
        ⟨name.toList, value.toList, rest⟩
      longer found (longest text others)

/-- The most frequent references. All of them are finished, and none is the
beginning of another name. -/
def frequent : List (String × String) :=
  [("amp;", "&"), ("lt;", "<"), ("gt;", ">"), ("quot;", "\""), ("nbsp;", "\u00a0")]

def named? (text : List Char) : Option Hit :=
  match longest text frequent with
  | some found => some found
  | none =>
      match text with
      | [] => none
      | first :: _ => longest text (namesFrom first)

/-- Characters that the numbers from 128 to 159 stand for. Those without an
entry stand for themselves. -/
def legacy : List (Nat × Nat) := [
  (0x80, 0x20AC), (0x82, 0x201A), (0x83, 0x0192), (0x84, 0x201E), (0x85, 0x2026),
  (0x86, 0x2020), (0x87, 0x2021), (0x88, 0x02C6), (0x89, 0x2030), (0x8A, 0x0160),
  (0x8B, 0x2039), (0x8C, 0x0152), (0x8E, 0x017D), (0x91, 0x2018), (0x92, 0x2019),
  (0x93, 0x201C), (0x94, 0x201D), (0x95, 0x2022), (0x96, 0x2013), (0x97, 0x2014),
  (0x98, 0x02DC), (0x99, 0x2122), (0x9A, 0x0161), (0x9B, 0x203A), (0x9C, 0x0153),
  (0x9E, 0x017E), (0x9F, 0x0178)]

/-- The character that a number stands for. Numbers of no character stand for
the replacement character. -/
def ofNumber (number : Nat) : Char :=
  if number = 0 ∨ 0x10FFFF < number ∨ (0xD800 ≤ number ∧ number < 0xE000) then '\ufffd'
  else
    match legacy.lookup number with
    | some found => Char.ofNat found
    | none => Char.ofNat number

def digitValue (c : Char) : Nat :=
  if c.isDigit then c.toNat - '0'.toNat
  else (Text.lowerAscii c).toNat - 'a'.toNat + 10

def isHexDigit (c : Char) : Bool :=
  c.isDigit || ('a' ≤ Text.lowerAscii c && Text.lowerAscii c ≤ 'f')

/-- A reference by number whose mark has been read, with the text after it. -/
def numbered? (base : Nat) (isDigit : Char → Bool) (text : List Char) :
    Option (CharRef × List Char) :=
  match text.takeWhile isDigit with
  | [] => none
  | digits =>
      let number := digits.foldl (fun value c => value * base + digitValue c) 0
      match text.dropWhile isDigit with
      | ';' :: rest => some (⟨[ofNumber number], false⟩, rest)
      | rest => some (⟨[ofNumber number], true⟩, rest)

/-- The text from which reading goes on when letters are given back together with
the character after them, which ended them. A carriage return among what is given
back has become a line feed of its own: a line feed after it counts as well. At the
very beginning it is lost instead. -/
def giveBack (letters after : List Char) : List Char :=
  match letters, after with
  | [], '\r' :: after => after
  | letters, '\r' :: after => letters ++ '\n' :: after
  | letters, after => letters ++ after

def beginsName (chars : List Char) : Bool :=
  match chars with
  | [] => true
  | first :: _ => (namesFrom first).any fun (name, _) => chars.isPrefixOf name.toList

/-- The text from which reading goes on after a hit, when `kept` is given back from
it. Reading stops at the first character with which no name begins any more; that
character and those between it and the hit are given back. -/
def Hit.resume (found : Hit) (kept : List Char) : List Char :=
  let letters := found.rest.takeWhile isAlnum
  if beginsName (found.name ++ letters) then
    giveBack (kept ++ letters) (found.rest.dropWhile isAlnum)
  else kept ++ found.rest

/-- Whether a name counts for nothing inside an attribute value: it has no
semicolon, and an equals sign, a letter or a digit follows. -/
def isPlain (found : Hit) : Bool :=
  found.name.getLast? != some ';' &&
    match found.rest with
    | c :: _ => c == '=' || isAlnum c
    | [] => false

def orText (found : Option (CharRef × List Char)) (text : List Char) :
    Option CharRef × List Char :=
  match found with
  | some (reference, rest) => (some reference, rest)
  | none => (none, text)

/-- The character reference whose ampersand has been read, if there is one, and the
text from which reading goes on. -/
def read (inValue : Bool) (text : List Char) : Option CharRef × List Char :=
  match text with
  | '#' :: 'x' :: rest => orText (numbered? 16 isHexDigit rest) text
  | '#' :: 'X' :: rest => orText (numbered? 16 isHexDigit rest) text
  | '#' :: rest => orText (numbered? 10 Char.isDigit rest) text
  | _ =>
      match named? text with
      | none => (none, giveBack (text.takeWhile isAlnum) (text.dropWhile isAlnum))
      | some found =>
          if inValue && isPlain found then (none, found.resume found.name)
          else (some ⟨found.chars, found.name.getLast? != some ';'⟩, found.resume [])

end CharRef

end MailQuote.Html
