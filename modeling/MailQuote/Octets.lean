import MailQuote.Text

namespace MailQuote

abbrev Octets := List UInt8

namespace Octet

def tab : UInt8 := 9
def lineFeed : UInt8 := 10
def carriageReturn : UInt8 := 13
def space : UInt8 := 32
def hyphen : UInt8 := 45
def colon : UInt8 := 58
def equals : UInt8 := 61

def isBreak (octet : UInt8) : Bool :=
  octet == lineFeed || octet == carriageReturn

/-- A space, a tab, or a character that ends a line or a page. -/
def isBlank (octet : UInt8) : Bool :=
  octet == space || octet == tab || octet == lineFeed || octet == 12 ||
    octet == carriageReturn

def hexDigit? (octet : UInt8) : Option UInt8 :=
  if 48 ≤ octet && octet ≤ 57 then some (octet - 48)
  else if 65 ≤ octet && octet ≤ 70 then some (octet - 55)
  else if 97 ≤ octet && octet ≤ 102 then some (octet - 87)
  else none

end Octet

namespace Octets

def ofText (text : List Char) : Octets :=
  text.flatMap String.utf8EncodeChar

/-- The text in which every octet stands for the character with its number. -/
def latin (octets : Octets) : List Char :=
  octets.map fun octet => Char.ofNat octet.toNat

def lines (octets : Octets) : List Octets :=
  Text.split Octet.lineFeed octets

def afterLine? (octets : Octets) : Option Octets :=
  (Text.cut? Octet.lineFeed octets).map Prod.snd

def withoutBreak (octets : Octets) : Octets :=
  match octets.reverse with
  | [] => []
  | last :: others =>
      if last = Octet.lineFeed then
        match others with
        | [] => []
        | before :: opening =>
            if before = Octet.carriageReturn then opening.reverse else others.reverse
      else octets

end Octets

namespace Base64

inductive Flaw where
  /-- letters are missing -/
  | length
  /-- a letter does not belong to the alphabet -/
  | letter
  /-- there is too much padding -/
  | padding
deriving DecidableEq, Repr

/-- A flaw, and the position of the octet that shows it. -/
structure Fault where
  flaw : Flaw
  position : Nat
deriving DecidableEq, Repr

def Flaw.message : Flaw → String
  | .length => "invalid length"
  | .letter => "invalid symbol"
  | .padding => "invalid padding length"

def Fault.message (fault : Fault) : String :=
  s!"Base64 decode error: {fault.flaw.message} at {fault.position}"

def letter? (octet : UInt8) : Option Nat :=
  if 65 ≤ octet && octet ≤ 90 then some (octet.toNat - 65)
  else if 97 ≤ octet && octet ≤ 122 then some (octet.toNat - 71)
  else if 48 ≤ octet && octet ≤ 57 then some (octet.toNat + 4)
  else if octet = 43 then some 62
  else if octet = 47 then some 63
  else none

def pad : UInt8 := Octet.equals

/-- The values of letters, the first of which has the given position. -/
def letters : (position : Nat) → Octets → Except Fault (List Nat)
  | _, [] => .ok []
  | position, octet :: rest =>
      match letter? octet with
      | none => .error ⟨.letter, position⟩
      | some value => (letters (position + 1) rest).map (value :: ·)

/-- The octets that the letters of one group stand for. Bits beyond the last
whole octet are dropped. -/
def octetsOf : List Nat → Octets
  | a :: b :: rest =>
      (a * 4 + b / 16).toUInt8 ::
        match rest with
        | [] => []
        | c :: rest =>
            (b % 16 * 16 + c / 4).toUInt8 ::
              match rest with
              | [] => []
              | d :: _ => [(c % 4 * 64 + d).toUInt8]
  | _ => []

def unpadded (group : Octets) : Octets :=
  (group.reverse.dropWhile (· == pad)).reverse

def decodeGroup (position : Nat) (group : Octets) : Except Fault Octets :=
  let kept := unpadded group
  if kept.length < 2 then .error ⟨.padding, position + kept.length⟩
  else (letters position kept).map octetsOf

/-- The octets of groups, the first of which begins at the given position. -/
def decodeFrom : (position : Nat) → Octets → Except Fault Octets
  | _, [] => .ok []
  | position, a :: b :: c :: d :: rest =>
      match decodeGroup position [a, b, c, d] with
      | .error fault => .error fault
      | .ok group => (decodeFrom (position + 4) rest).map (group ++ ·)
  | position, _ => .error ⟨.length, position⟩

/-- The octets that a text in base64 stands for. Octets that are passed over do not
count in positions either. -/
def decodePassing (passed : UInt8 → Bool) (octets : Octets) : Except Fault Octets :=
  decodeFrom 0 (octets.filter fun octet => !passed octet)

/-- The octets that a text in base64 with white space in it stands for. -/
def decode (octets : Octets) : Except Fault Octets :=
  decodePassing Octet.isBlank octets

end Base64

namespace QuotedPrintable

/-- Whether an octet may stand in the text at all; others are passed over. -/
def isPrintable (octet : UInt8) : Bool :=
  octet == Octet.tab || octet == Octet.lineFeed || octet == Octet.carriageReturn ||
    (32 ≤ octet && octet ≤ 126)

def trimLine (line : Octets) : Octets :=
  (line.reverse.dropWhile Octet.isBlank).reverse

/-- The octets of a line, and whether a line break follows them. -/
def decodeLine : Octets → Octets × Bool
  | [] => ([], true)
  | octet :: rest =>
      if octet = Octet.equals then
        match rest with
        | [] => ([], false)
        | [digit] => ([octet, digit], true)
        | first :: second :: rest =>
            let (decoded, breaks) := decodeLine rest
            match Octet.hexDigit? first, Octet.hexDigit? second with
            | some high, some low => ((high * 16 + low) :: decoded, breaks)
            | _, _ => (octet :: first :: second :: decoded, breaks)
      else
        let (decoded, breaks) := decodeLine rest
        (octet :: decoded, breaks)

def decodeLines : List Octets → Octets
  | [] => []
  | [line] => (decodeLine (trimLine line)).1
  | line :: others =>
      let (decoded, breaks) := decodeLine (trimLine line)
      decoded ++ (if breaks then [Octet.carriageReturn, Octet.lineFeed] else []) ++
        decodeLines others

def decode (octets : Octets) : Octets :=
  decodeLines (Octets.lines (octets.filter isPrintable))

end QuotedPrintable

inductive TransferEncoding where
  | base64
  | quotedPrintable
  /-- the body stands as it is -/
  | identity
deriving DecidableEq, Repr

namespace TransferEncoding

/-- The encoding with a given name in lower case. A body under any other name
stands as it is. -/
def ofName (name : String) : TransferEncoding :=
  if name = "base64" then .base64
  else if name = "quoted-printable" then .quotedPrintable
  else .identity

def decode : TransferEncoding → Octets → Except Base64.Fault Octets
  | .base64, octets => Base64.decode octets
  | .quotedPrintable, octets => .ok (QuotedPrintable.decode octets)
  | .identity, octets => .ok octets

end TransferEncoding

end MailQuote
