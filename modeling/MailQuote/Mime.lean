import MailQuote.Charset
import MailQuote.Character

namespace MailQuote.Mime

structure Field where
  name : Octets
  value : Octets
deriving DecidableEq, Repr

inductive Header.Fault where
  /-- a line that begins with a space goes on no field -/
  | overhanging
  /-- a carriage return without a line feed stands where a field should begin -/
  | loneReturn
deriving DecidableEq, Repr

def Header.Fault.message : Header.Fault → String
  | .overhanging =>
      "Header cannot start with a space; it is likely an overhanging line from a previous header"
  | .loneReturn => "Headers were followed by an unexpected lone CR character!"

namespace Header

def goesOn : Octets → Bool
  | octet :: _ => octet == Octet.space || octet == Octet.tab
  | [] => false

/-- The octets up to the line feed that ends a field, and those after it. -/
def takeField : Octets → Octets × Octets
  | [] => ([], [])
  | octet :: rest =>
      if octet = Octet.lineFeed && !goesOn rest then ([], rest)
      else
        let (taken, others) := takeField rest
        (octet :: taken, others)

def isBreak (octet : UInt8) : Bool :=
  octet == Octet.carriageReturn || octet == Octet.lineFeed

def withoutBreaks (octets : Octets) : Octets :=
  (octets.reverse.dropWhile isBreak).reverse

def inName (octet : UInt8) : Bool :=
  octet != Octet.colon && octet != Octet.lineFeed

/-- The first field of octets, and what follows it. A line without a colon is a
field without a value. -/
def readField (octets : Octets) : Field × Octets :=
  let name := octets.takeWhile inName
  match octets.dropWhile inName with
  | [] => (⟨name, []⟩, [])
  | mark :: rest =>
      if mark = Octet.colon then
        let (taken, others) := takeField (rest.dropWhile (· == Octet.space))
        (⟨name, withoutBreaks taken⟩, others)
      else (⟨name, []⟩, rest)

inductive Opening where
  | field
  | fault (fault : Fault)
  /-- the header ends, and the body follows -/
  | body (body : Octets)

def opening : Octets → Opening
  | [] => .body []
  | octet :: rest =>
      if octet = Octet.lineFeed then .body rest
      else if octet = Octet.carriageReturn then
        match rest with
        | [] => .fault .loneReturn
        | next :: rest =>
            if next = Octet.lineFeed then .body rest else .fault .loneReturn
      else if octet = Octet.space then .fault .overhanging
      else .field

def readFields : (fuel : Nat) → Octets → Except Fault (List Field × Octets)
  | 0, octets => .ok ([], octets)
  | fuel + 1, octets =>
      match opening octets with
      | .body body => .ok ([], body)
      | .fault fault => .error fault
      | .field =>
          let (field, rest) := readField octets
          (readFields fuel rest).map fun (fields, body) => (field :: fields, body)

def read (octets : Octets) : Except Fault (List Field × Octets) :=
  readFields (octets.length + 1) octets

end Header

/-- The value of a field as it is written. It is UTF-8 if it can be read so. -/
def Field.source (field : Field) : List Char :=
  (Utf8.decode? field.value).getD field.value.latin

def Field.isNamed (field : Field) (name : String) : Bool :=
  Text.sameAscii field.name.latin name.toList

/-! The text of a field: its lines joined, and its encoded words read. White
space between two encoded words does not count. -/

inductive Piece where
  | plain (text : List Char)
  | blank (text : List Char)
  /-- the end of a line -/
  | fold
  /-- an encoded word that has been read -/
  | word (text : List Char)
deriving DecidableEq, Repr

namespace Word

variable (charsets : Charsets)

/-- The octets of the text of an encoded word in base64, which has no spaces. -/
def fromBase64? (text : List Char) : Option Octets :=
  (Base64.decodePassing Octet.isBreak (Octets.ofText text)).toOption

/-- The octets of the text of an encoded word in quoted-printable, in which a
low line stands for a space. -/
def fromQuoted (text : List Char) : Octets :=
  let spaced := text.map fun c => if c = '_' then ' ' else c
  let kept := Text.trimEnd spaced
  QuotedPrintable.decode (Octets.ofText kept) ++
    Octets.ofText (spaced.drop kept.length)

/-- The octets of the text of an encoded word in an encoding given by a
letter. -/
def octets? (letter : List Char) (text : List Char) : Option Octets :=
  if letter = ['B'] || letter = ['b'] then fromBase64? text
  else if letter = ['Q'] || letter = ['q'] then some (fromQuoted text)
  else none

/-- The text of an encoded word: a character set, an encoding, and a text. -/
def decode? (content : List Char) : Option (List Char) := do
  let (label, content) ← Text.cut? '?' content
  let (letter, text) ← Text.cut? '?' content
  let octets ← octets? letter text
  let charset ← charsets label
  pure (charset.decode octets)

def isBorder (c : Char) : Bool :=
  Text.isBlank c || c == '"' || c == '(' || c == ')' || c == '<' || c == '>' || c == ','

/-- Whether an encoded word may begin or end next to the character with a given
number in a line. -/
def bordersAt (line : List Char) (number : Nat) : Bool :=
  match (line.drop number).head? with
  | some c => isBorder c
  | none => true

def cutPair? (first second : Char) : List Char → Option (List Char × List Char)
  | [] => none
  | c :: rest =>
      if c = first && rest.head? = some second then some ([], rest.tail)
      else (cutPair? first second rest).map fun (before, after) => (c :: before, after)

/-- The content of an encoded word and what follows it, when the word can end
only at a border. The content begins at byte `start` of the line. -/
def close? (line : List Char) :
    (fuel start : Nat) → List Char → Option (List Char × List Char)
  | 0, _, _ => none
  | fuel + 1, start, text =>
      match cutPair? '?' '=' text with
      | none => none
      | some (content, after) =>
          let beyond := start + Text.byteSize content + 2
          if bordersAt line beyond then some (content, after)
          else
            (close? line fuel beyond after).map fun (more, after) =>
              (content ++ '?' :: '=' :: more, after)

def surrounding (text : List Char) : Piece :=
  if Text.allBlank text then .blank text else .plain text

def piece (content : List Char) : Piece :=
  match decode? charsets content with
  | some text => .word text
  | none => .plain ('=' :: '?' :: content ++ ['?', '='])

/-- The pieces of the part of a line that begins at byte `start`. -/
def piecesFrom (line : List Char) : (fuel start : Nat) → List Char → List Piece
  | 0, _, _ => []
  | fuel + 1, start, text =>
      match cutPair? '=' '?' text with
      | none => [surrounding text]
      | some (before, after) =>
          let opening := start + Text.byteSize before
          let inside := opening + 2
          if opening != 0 && !bordersAt line (opening - 1) then
            .plain (before ++ ['=', '?']) :: piecesFrom line fuel inside after
          else
            surrounding before ::
              match close? line fuel inside after with
              | some (content, rest) =>
                  piece charsets content ::
                    piecesFrom line fuel (inside + Text.byteSize content + 2) rest
              | none => .plain ['=', '?'] :: piecesFrom line fuel inside after

def piecesOfLine (line : List Char) : List Piece :=
  let line := Text.trimStart line
  piecesFrom charsets line (line.length + 1) 0 line

def withoutReturn (line : List Char) : List Char :=
  if line.getLast? = some '\r' then line.dropLast else line

def linesOf (source : List Char) : List (List Char) :=
  match (Text.split '\n' source).reverse with
  | [] => []
  | last :: others =>
      (others.map withoutReturn).reverse ++ (if last.isEmpty then [] else [last])

def pieces (source : List Char) : List Piece :=
  [Piece.fold].intercalate ((linesOf source).map (piecesOfLine charsets))

inductive Before where
  | other
  | word
  /-- white space after an encoded word -/
  | wordAndBlank (text : List Char)
  /-- white space with the end of a line after an encoded word -/
  | wordAndFold (text : List Char)

def Before.held : Before → List Char
  | .wordAndBlank text => text
  | .wordAndFold text => text
  | _ => []

/-- The text of pieces. The end of a line counts as a space. -/
def join : Before → List Piece → List Char
  | _, [] => []
  | before, .plain text :: others => before.held ++ text ++ join .other others
  | _, .word text :: others => text ++ join .word others
  | .word, .blank text :: others => join (.wordAndBlank text) others
  | _, .blank text :: others => text ++ join .other others
  | .word, .fold :: others => join (.wordAndFold [' ']) others
  | .wordAndBlank text, .fold :: others => join (.wordAndFold (text ++ [' '])) others
  | _, .fold :: others => ' ' :: join .other others

end Word

def Field.text (charsets : Charsets) (field : Field) : String :=
  String.ofList (Word.join .other (Word.pieces charsets field.source))

def textOf? (charsets : Charsets) (name : String) (fields : List Field) : Option String :=
  (fields.find? fun field => field.isNamed name).map (Field.text charsets)

/-! The parameters after the value of a field. A parameter whose name ends in a
star is percent-encoded and says its character set, and one that is numbered is
a piece of a longer one. -/

abbrev Parameters := List (String × String)

namespace Parameters

def put (name value : String) : Parameters → Parameters
  | [] => [(name, value)]
  | (known, old) :: others =>
      if name < known then (name, value) :: (known, old) :: others
      else if name = known then (name, value) :: others
      else (known, old) :: put name value others

def remove (name : String) (parameters : Parameters) : Parameters :=
  parameters.filter fun entry => entry.1 != name

def has (parameters : Parameters) (name : String) : Bool :=
  (parameters.lookup name).isSome

def unquoted (value : List Char) : List Char :=
  match value with
  | '"' :: rest =>
      if rest.getLast? = some '"' then rest.dropLast else value
  | _ => value

def ofText? (text : List Char) : Option (String × String) :=
  (Text.cut? '=' text).map fun (name, value) =>
    (String.ofList (Text.lower (Text.trim name)),
      String.ofList (unquoted (Text.trim value)))

/-- The parameters that are written one after another, the last of several with
one name. -/
def ofTexts (texts : List (List Char)) : Parameters :=
  (texts.filterMap ofText?).foldl (fun known (name, value) => known.put name value) []

def stem? (ending : String) (name : String) : Option String :=
  (Text.after? ending.toList.reverse name.toList.reverse).map
    fun rest => String.ofList rest.reverse

/-- The stems of the names that end in a given way, unless they are names
themselves. -/
def stems (ending : String) (parameters : Parameters) : List String :=
  (parameters.filterMap fun entry => stem? ending entry.1).filter
    fun stem => !parameters.has stem

def percentDecode : Octets → Octets
  | [] => []
  | octet :: rest =>
      if octet = 37 then
        match rest with
        | [] => [octet]
        | first :: rest =>
            match Octet.hexDigit? first with
            | none => octet :: percentDecode (first :: rest)
            | some high =>
                match rest with
                | [] => [octet, first]
                | second :: rest =>
                    match Octet.hexDigit? second with
                    | none => octet :: first :: percentDecode (second :: rest)
                    | some low => (high * 16 + low) :: percentDecode rest
      else octet :: percentDecode rest

def labelOf (value : List Char) : List Char :=
  value.takeWhile (· != '\'')

def afterLabel (value : List Char) : List Char :=
  match Text.cut? '\'' value with
  | none => []
  | some (_, rest) =>
      match Text.cut? '\'' rest with
      | none => []
      | some (_, encoded) => encoded

/-- Whether a name is that of a piece of the parameter whose first piece has
the name `first`. -/
def continues (first name : String) : Bool :=
  match stem? "*0" first with
  | some stem => (Text.after? (stem ++ "*").toList name.toList).isSome
  | none => false

/-- The encoded name whose value says the character set for a given one: the
first piece of the same parameter, or the name itself. -/
def labelSource (stems : List String) (name : String) : String :=
  ((stems.filter fun first => continues first name).getLast?).getD name

/-- The text of an encoded value in a character set. Only the value that says
the character set has it before its text. -/
def decodeValue (charset : Charset) (labelled : Bool) (value : List Char) : String :=
  let encoded := if labelled then afterLabel value else value
  String.ofList (charset.decode (percentDecode (Octets.ofText encoded)))

/-- Parameters with one encoded value decoded, if its character set is known. -/
def decodeOne (charsets : Charsets) (given : Parameters) (stems : List String)
    (known : Parameters) (name : String) : Parameters :=
  let source := labelSource stems name
  match given.lookup (source ++ "*"), given.lookup (name ++ "*") with
  | some labelled, some value =>
      match charsets (labelOf labelled.toList) with
      | some charset =>
          (known.remove (name ++ "*")).put name
            (decodeValue charset (source == name) value.toList)
      | none => known
  | _, _ => known

def decoded (charsets : Charsets) (parameters : Parameters) : Parameters :=
  let stems := parameters.stems "*"
  stems.foldl (decodeOne charsets parameters stems) parameters

/-- The pieces of a parameter from a given number on, joined, and the other
parameters. -/
def gather (stem : String) :
    (fuel number : Nat) → Parameters → String × Parameters
  | 0, _, parameters => ("", parameters)
  | fuel + 1, number, parameters =>
      let name := stem ++ "*" ++ toString number
      match parameters.lookup name with
      | none => ("", parameters)
      | some value =>
          let (more, others) := gather stem fuel (number + 1) (parameters.remove name)
          (value ++ more, others)

def joinOne (parameters : Parameters) (stem : String) : Parameters :=
  let (value, others) := gather stem parameters.length 0 parameters
  others.put stem value

def joined (parameters : Parameters) : Parameters :=
  (parameters.stems "*0").foldl joinOne parameters

end Parameters

structure ContentType where
  /-- the kind of content, in lower case -/
  media : String
  parameters : Parameters
deriving DecidableEq, Repr

namespace ContentType

/-- The type of a part that says none. In a digest it is a message. -/
def default (inDigest : Bool) : ContentType :=
  ⟨if inDigest then "message/rfc822" else "text/plain", []⟩

def ofText (charsets : Charsets) (text : String) : ContentType :=
  match Text.split ';' text.toList with
  | [] => ⟨"", []⟩
  | media :: parameters =>
      ⟨String.ofList (Text.lower (Text.trim media)),
        ((Parameters.ofTexts parameters).decoded charsets).joined⟩

def charset (type : ContentType) : String :=
  (type.parameters.lookup "charset").getD "us-ascii"

/-- The boundary between the parts of the content, if it may have parts. -/
def boundary? (type : ContentType) : Option String :=
  if "multipart/".toList.isPrefixOf type.media.toList then
    type.parameters.lookup "boundary"
  else none

/-- Whether the parts of the content are messages unless they say otherwise. -/
def isDigest (type : ContentType) : Bool :=
  type.media == "multipart/digest"

def mentions (type : ContentType) (name : String) : Bool :=
  Text.occurs name.toList type.media.toList

end ContentType

def delimiter (boundary : String) : Octets :=
  [Octet.hyphen, Octet.hyphen] ++ Octets.ofText boundary.toList

/-- What precedes and what follows the first delimiter that stands at the
beginning of a line. -/
def cutAtLine? (delimiter : Octets) :
    (atStart : Bool) → Octets → Option (Octets × Octets)
  | _, [] => none
  | atStart, octet :: rest =>
      match if atStart then Text.after? delimiter (octet :: rest) else none with
      | some after => some ([], after)
      | none =>
          (cutAtLine? delimiter (octet == Octet.lineFeed) rest).map
            fun (before, after) => (octet :: before, after)

/-- Whether a delimiter closes the body, by what follows it. -/
def closes : Octets → Bool
  | first :: second :: _ => first == Octet.hyphen && second == Octet.hyphen
  | _ => true

/-- The parts of a body after a delimiter. The rest of its line does not belong
to a part, nor does the line break before the next delimiter. -/
def partsAfter (delimiter : Octets) : (fuel : Nat) → Octets → List Octets
  | 0, _ => []
  | fuel + 1, octets =>
      match Octets.afterLine? octets with
      | none => []
      | some rest =>
          match cutAtLine? delimiter true rest with
          | none => [rest]
          | some (part, after) =>
              Octets.withoutBreak part ::
                if closes after then [] else partsAfter delimiter fuel after

/-- What precedes the first delimiter of a body, and its parts. -/
def parts? (boundary : String) (body : Octets) : Option (Octets × List Octets) :=
  (cutAtLine? (delimiter boundary) true body).map fun (before, after) =>
    (Octets.withoutBreak before, partsAfter (delimiter boundary) body.length after)

/-! A message with its parts: what it says about its content, its body, and the
parts of which it is made. -/

/-- A message or a part of one, apart from the parts that it has itself. -/
structure Entity where
  type : ContentType
  encoding : TransferEncoding
  body : Octets
deriving DecidableEq, Repr

variable (charsets : Charsets)

def Entity.text? (entity : Entity) : Except Base64.Fault String :=
  (entity.encoding.decode entity.body).map fun octets =>
    String.ofList (charsets.textUnder entity.type.charset octets)

/-- Parts that follow one another, each with the parts inside it. -/
inductive Parts where
  | none
  | part (entity : Entity) (inside next : Parts)
deriving DecidableEq, Repr

structure Message where
  root : Entity
  parts : Parts
deriving DecidableEq, Repr

/-- The parts without parts inside them, from first to last. -/
def Parts.leaves : Parts → List Entity
  | .none => []
  | .part entity .none next => entity :: next.leaves
  | .part _ inside next => inside.leaves ++ next.leaves

/-- The entity that fields and a body make, and the octets of its parts. -/
def Entity.ofFields (inDigest : Bool) (fields : List Field) (body : Octets) :
    Entity × List Octets :=
  let type :=
    match textOf? charsets "Content-Type" fields with
    | some text => ContentType.ofText charsets text
    | none => ContentType.default inDigest
  let encoding :=
    match textOf? charsets "Content-Transfer-Encoding" fields with
    | some name => TransferEncoding.ofName (lowered name)
    | none => .identity
  match type.boundary?.bind fun boundary => parts? boundary body with
  | some (before, parts) => (⟨type, encoding, before⟩, parts)
  | none => (⟨type, encoding, body⟩, [])

def Entity.read (inDigest : Bool) (octets : Octets) :
    Except Header.Fault (Entity × List Octets) :=
  (Header.read octets).map fun (fields, body) => Entity.ofFields charsets inDigest fields body

/-- Reads parts, each with the parts inside it, as long as there is fuel. -/
def Parts.read : (fuel : Nat) → (inDigest : Bool) → List Octets →
    Except Header.Fault Parts
  | _, _, [] => .ok .none
  | 0, _, _ => .ok .none
  | fuel + 1, inDigest, octets :: others => do
      let (entity, parts) ← Entity.read charsets inDigest octets
      let inside ← Parts.read fuel entity.type.isDigest parts
      let next ← Parts.read fuel inDigest others
      pure (.part entity inside next)

def Message.read (octets : Octets) : Except Header.Fault Message := do
  let (root, parts) ← Entity.read charsets false octets
  let parts ← Parts.read charsets (octets.length + 1) root.type.isDigest parts
  pure ⟨root, parts⟩

end MailQuote.Mime
