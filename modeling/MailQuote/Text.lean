namespace MailQuote

namespace Text

def byteSize : List Char → Nat
  | [] => 0
  | c :: rest => c.utf8Size + byteSize rest

/-- The leading part of `text` that takes exactly `size` bytes, if the text
can be cut there. -/
def takeBytes? : (size : Nat) → (text : List Char) → Option (List Char)
  | 0, _ => some []
  | _ + 1, [] => none
  | size + 1, c :: rest =>
      if c.utf8Size ≤ size + 1 then
        (takeBytes? (size + 1 - c.utf8Size) rest).map (c :: ·)
      else none

/-- What stands between the separators of a text. There is always one piece
more than there are separators. -/
def split [BEq α] (separator : α) : List α → List (List α)
  | [] => [[]]
  | c :: rest =>
      if c == separator then [] :: split separator rest
      else
        match split separator rest with
        | [] => [[c]]
        | piece :: others => (c :: piece) :: others

def cut? [BEq α] (separator : α) : List α → Option (List α × List α)
  | [] => none
  | c :: rest =>
      if c == separator then some ([], rest)
      else (cut? separator rest).map fun (before, after) => (c :: before, after)

def occurs [BEq α] (wanted : List α) : List α → Bool
  | [] => wanted.isEmpty
  | c :: rest => wanted.isPrefixOf (c :: rest) || occurs wanted rest

/-- The lines of a text, without the line feeds between them. -/
def lines : List Char → List (List Char)
  | [] => [[]]
  | c :: rest =>
      if c = '\n' then [] :: lines rest
      else
        match lines rest with
        | [] => [[c]]
        | line :: others => (c :: line) :: others

def unlines : List (List Char) → List Char
  | [] => []
  | [line] => line
  | line :: others => line ++ '\n' :: unlines others

/-- Lines with the byte position at which each begins, when the first begins
at `start`. -/
def placeLines : (start : Nat) → List (List Char) → List (Nat × List Char)
  | _, [] => []
  | start, line :: others =>
      (start, line) :: placeLines (start + byteSize line + 1) others

/-- The lines of a text with the byte position at which each begins. -/
def placedLines (text : List Char) : List (Nat × List Char) :=
  placeLines 0 (lines text)

def lowerAscii (c : Char) : Char :=
  if 'A' ≤ c ∧ c ≤ 'Z' then Char.ofNat (c.toNat + 32) else c

def sameAscii (first second : List Char) : Bool :=
  first.map lowerAscii == second.map lowerAscii

/-- Simple case folding of every character whose folded form, or whose only
preimage, lies in the Latin-1 block. The letters `k`, `s`, `å`, `µ`, `ß` and
`ÿ` have a partner beyond that block. -/
def fold (c : Char) : Char :=
  if 'A' ≤ c ∧ c ≤ 'Z' then Char.ofNat (c.toNat + 32)
  else if 'À' ≤ c ∧ c ≤ 'Þ' ∧ c ≠ '×' then Char.ofNat (c.toNat + 32)
  else if c = '\u212a' then 'k'
  else if c = '\u017f' then 's'
  else if c = '\u212b' then 'å'
  else if c = '\u039c' ∨ c = '\u03bc' then 'µ'
  else if c = '\u1e9e' then 'ß'
  else if c = '\u0178' then 'ÿ'
  else c

def sameLetter (first second : Char) : Bool :=
  fold first == fold second

end Text

def lowerAscii (text : String) : String :=
  String.ofList (text.toList.map Text.lowerAscii)

def sameAscii (first second : String) : Bool :=
  Text.sameAscii first.toList second.toList

namespace Text

def after? [DecidableEq α] : (expected : List α) → (text : List α) → Option (List α)
  | [], text => some text
  | _ :: _, [] => none
  | e :: expected, c :: text => if e = c then after? expected text else none

def afterAscii? : (expected : List Char) → (text : List Char) → Option (List Char)
  | [], text => some text
  | _ :: _, [] => none
  | e :: expected, c :: text =>
      if lowerAscii e = lowerAscii c then afterAscii? expected text else none

def isBlank (c : Char) : Bool :=
  let n := c.toNat
  (0x09 ≤ n && n ≤ 0x0D) || n == 0x20 || n == 0x85 || n == 0xA0 ||
    n == 0x1680 || (0x2000 ≤ n && n ≤ 0x200A) || n == 0x2028 ||
    n == 0x2029 || n == 0x202F || n == 0x205F || n == 0x3000

def trimStart (text : List Char) : List Char :=
  text.dropWhile isBlank

def trimEnd (text : List Char) : List Char :=
  (text.reverse.dropWhile isBlank).reverse

def trim (text : List Char) : List Char :=
  trimEnd (trimStart text)

def allBlank (text : List Char) : Bool :=
  text.all isBlank

def runs (keep : Char → Bool) : List Char → List (List Char)
  | [] => []
  | c :: rest =>
      if keep c then
        match rest with
        | [] => [[c]]
        | d :: _ =>
            if keep d then
              match runs keep rest with
              | [] => [[c]]
              | run :: others => (c :: run) :: others
            else [c] :: runs keep rest
      else runs keep rest

def words (text : List Char) : List (List Char) :=
  runs (fun c => !isBlank c) text

end Text

def trimmed (text : String) : String :=
  String.ofList (Text.trim text.toList)

def isBlankText (text : String) : Bool :=
  Text.allBlank text.toList

end MailQuote
