import MailQuote.Html.CharRef.Basic

namespace MailQuote.Html

/-- A start tag or an end tag. Its attributes stand in the order of the text,
each name once. -/
structure Tag where
  name : String
  attributes : List (String × String)
  selfClosing : Bool
deriving DecidableEq, Repr

structure Doctype where
  name : Option String
  publicId : Option String
  systemId : Option String
  /-- whether the declaration is damaged -/
  damaged : Bool
deriving DecidableEq, Repr

inductive Token where
  | doctype (declaration : Doctype)
  | open (tag : Tag)
  | close (tag : Tag)
  | comment (content : String)
  /-- characters other than white space, or white space only -/
  | chars (content : List Char) (blank : Bool)
  /-- a null character in running text -/
  | null
  /-- a mistake that leaves nothing behind -/
  | slip
  | stop
deriving DecidableEq, Repr

/-- How the text up to the next tag is read. -/
inductive Reading where
  | markup
  /-- text with character references, up to the end tag of an element -/
  | referring (element : String)
  /-- text without character references, up to the end tag of an element -/
  | verbatim (element : String)
  /-- a script, up to its end tag -/
  | script
  /-- text without an end -/
  | endless
deriving DecidableEq, Repr

def isSpace (c : Char) : Bool :=
  c == ' ' || c == '\n' || c == '\t' || c == '\x0c' || c == '\r'

def visible (c : Char) : Char :=
  if c = '\x00' then '\ufffd' else c

def lineFeeds : List Char → List Char
  | [] => []
  | '\r' :: '\n' :: rest => '\n' :: lineFeeds rest
  | c :: rest => (if c = '\r' then '\n' else c) :: lineFeeds rest

def withoutMark : List Char → List Char
  | '\ufeff' :: rest => rest
  | text => text

/-- Character tokens for a text, cut where white space begins or ends. -/
def Token.ofChars : List Char → List Token
  | [] => []
  | c :: rest =>
      match Token.ofChars rest with
      | .chars content blank :: others =>
          if blank == isSpace c then .chars (c :: content) blank :: others
          else .chars [c] (isSpace c) :: .chars content blank :: others
      | others => .chars [c] (isSpace c) :: others

namespace Comment

def readBogus : List Char → List Char × List Char
  | [] => ([], [])
  | c :: rest =>
      if c = '>' then ([], rest)
      else
        let (content, rest) := readBogus rest
        (visible c :: content, rest)

/-- Reads the inside of a comment up to its end, with the text after it. -/
def readInside : List Char → List Char × List Char
  | [] => ([], [])
  | ['-'] => ([], [])
  | ['-', '-'] => ([], [])
  | ['-', '-', '!'] => ([], [])
  | '-' :: '-' :: '>' :: rest => ([], rest)
  | '-' :: '-' :: '!' :: '>' :: rest => ([], rest)
  | c :: rest =>
      let (content, rest) := readInside rest
      (visible c :: content, rest)

/-- Reads a comment whose two opening dashes have been read. -/
def read : List Char → List Char × List Char
  | '>' :: rest => ([], rest)
  | '-' :: '>' :: rest => ([], rest)
  | text => readInside text

end Comment

namespace Doctype

def blank : Doctype := ⟨none, none, none, false⟩

def damage (declaration : Doctype) : Doctype :=
  { declaration with damaged := true }

def skip (declaration : Doctype) (text : List Char) : Doctype × List Char :=
  match text.dropWhile (· ≠ '>') with
  | [] => (declaration, [])
  | _ :: rest => (declaration, rest)

/-- The identifier up to its closing quote, and the text from there on. -/
def identifier (quote : Char) (text : List Char) : String × List Char :=
  let inside := fun c => c ≠ quote && c ≠ '>'
  (String.ofList ((lineFeeds (text.takeWhile inside)).map visible), text.dropWhile inside)

def afterSystem (declaration : Doctype) (text : List Char) : Doctype × List Char :=
  match text.dropWhile isSpace with
  | [] => (declaration.damage, [])
  | '>' :: rest => (declaration, rest)
  | text => skip declaration text

/-- Reads a system identifier whose opening quote has been read. -/
def readSystem (declaration : Doctype) (quote : Char) (text : List Char) :
    Doctype × List Char :=
  let (found, text) := identifier quote text
  let declaration := { declaration with systemId := some found }
  match text with
  | [] => (declaration.damage, [])
  | '>' :: rest => (declaration.damage, rest)
  | _ :: rest => afterSystem declaration rest

def afterPublic (declaration : Doctype) (text : List Char) : Doctype × List Char :=
  match text.dropWhile isSpace with
  | [] => (declaration.damage, [])
  | '>' :: rest => (declaration, rest)
  | '"' :: rest => readSystem declaration '"' rest
  | '\'' :: rest => readSystem declaration '\'' rest
  | text => skip declaration.damage text

/-- Reads a public identifier whose opening quote has been read. -/
def readPublic (declaration : Doctype) (quote : Char) (text : List Char) :
    Doctype × List Char :=
  let (found, text) := identifier quote text
  let declaration := { declaration with publicId := some found }
  match text with
  | [] => (declaration.damage, [])
  | '>' :: rest => (declaration.damage, rest)
  | _ :: rest => afterPublic declaration rest

/-- The rest of a declaration after the word that announces an identifier. -/
def afterKeyword (declaration : Doctype)
    (readIdentifier : Doctype → Char → List Char → Doctype × List Char)
    (text : List Char) : Doctype × List Char :=
  match text.dropWhile isSpace with
  | [] => (declaration.damage, [])
  | '>' :: rest => (declaration.damage, rest)
  | '"' :: rest => readIdentifier declaration '"' rest
  | '\'' :: rest => readIdentifier declaration '\'' rest
  | text => skip declaration.damage text

/-- The rest of a declaration from the word on that announces an identifier. -/
def fromKeyword (declaration : Doctype) (text : List Char) : Doctype × List Char :=
  match Text.afterAscii? "public".toList text with
  | some rest => afterKeyword declaration readPublic rest
  | none =>
      match Text.afterAscii? "system".toList text with
      | some rest => afterKeyword declaration readSystem rest
      | none => skip declaration.damage text

/-- The rest of a declaration after its name. A word directly after a line end of
two characters announces nothing. -/
def afterName (declaration : Doctype) : List Char → Doctype × List Char
  | [] => (declaration.damage, [])
  | '>' :: rest => (declaration, rest)
  | '\r' :: '\n' :: rest =>
      if rest.head?.all fun c => c = '>' || isSpace c then afterName declaration rest
      else skip declaration.damage rest
  | c :: rest =>
      if isSpace c then afterName declaration rest
      else fromKeyword declaration (c :: rest)

def read (text : List Char) : Doctype × List Char :=
  match text.dropWhile isSpace with
  | [] => (blank.damage, [])
  | '>' :: rest => (blank.damage, rest)
  | text =>
      let inside := fun c => !isSpace c && c ≠ '>'
      let name := (text.takeWhile inside).map fun c => Text.lowerAscii (visible c)
      afterName { blank with name := some (String.ofList name) } (text.dropWhile inside)

end Doctype

namespace RawText

def endsName (c : Char) : Bool :=
  isSpace c || c == '/' || c == '>'

def closesHere (element : String) (text : List Char) : Bool :=
  match text with
  | '/' :: rest =>
      match Text.afterAscii? element.toList rest with
      | some (c :: _) => endsName c
      | _ => false
  | _ => false

/-- Text without character references, and the text from the end tag on. -/
def verbatim (element : String) : List Char → List Char × List Char
  | [] => ([], [])
  | c :: rest =>
      if c = '<' && closesHere element rest then ([], c :: rest)
      else
        let (content, rest) := verbatim element rest
        (visible c :: content, rest)

/-- Where in a script the reader is. Dashes are counted up to two. -/
inductive ScriptPart where
  | plain
  /-- in a comment -/
  | escaped (dashes : Nat)
  /-- in the name after a less-than sign in a comment -/
  | escapedName (name : List Char)
  /-- in a script inside a comment -/
  | nested (dashes : Nat)
  /-- after a less-than sign in a script inside a comment -/
  | nestedOpen
  /-- in the name of an end tag in a script inside a comment -/
  | nestedName (name : List Char)
deriving DecidableEq

/-- The part that a character is read in. A name ends at a character that is no
part of it. -/
def ScriptPart.at (part : ScriptPart) (c : Char) : ScriptPart :=
  if c.isAlpha || endsName c then part
  else
    match part with
    | .escapedName _ => .escaped 0
    | .nestedName _ => .nested 0
    | part => part

def ScriptPart.after (part : ScriptPart) (c : Char) (rest : List Char) : ScriptPart :=
  match part.at c with
  | .plain => .plain
  | .escaped dashes =>
      if c = '-' then .escaped (min 2 (dashes + 1))
      else if c = '>' ∧ dashes = 2 then .plain
      else if c = '<' ∧ rest.head?.any Char.isAlpha then .escapedName []
      else .escaped 0
  | .escapedName name =>
      if endsName c then
        if name = "script".toList then .nested 0 else .escaped 0
      else .escapedName (name ++ [Text.lowerAscii c])
  | .nested dashes =>
      if c = '-' then .nested (min 2 (dashes + 1))
      else if c = '>' ∧ dashes = 2 then .plain
      else if c = '<' ∧ rest.head? = some '/' then .nestedOpen
      else .nested 0
  | .nestedOpen => .nestedName []
  | .nestedName name =>
      if endsName c then
        if name = "script".toList then .escaped 0 else .nested 0
      else .nestedName (name ++ [Text.lowerAscii c])

def ScriptPart.mayClose : ScriptPart → Bool
  | .plain => true
  | .escaped _ => true
  | .escapedName _ => false
  | .nested _ => false
  | .nestedOpen => false
  | .nestedName _ => false

def script : ScriptPart → List Char → List Char × List Char
  | _, [] => ([], [])
  | .plain, '<' :: '!' :: '-' :: '-' :: rest =>
      let (content, rest) := script (.escaped 2) rest
      ('<' :: '!' :: '-' :: '-' :: content, rest)
  | part, c :: rest =>
      if c = '<' && (part.at c).mayClose && closesHere "script" rest then ([], c :: rest)
      else
        let (content, rest) := script (part.after c rest) rest
        (visible c :: content, rest)

end RawText

namespace Tag

inductive Part where
  | name
  /-- before an attribute name -/
  | beforeName
  | attrName
  | afterName
  | beforeValue
  /-- in a value that the given quote closes -/
  | quoted (quote : Char)
  | unquoted
  | afterValue
  /-- after a slash -/
  | slash
deriving DecidableEq

/-- A tag as far as it has been read. Texts that are still being read are kept
in reverse. -/
structure Draft where
  name : List Char
  attributes : List (String × String)
  attrName : List Char
  attrValue : List Char

namespace Draft

/-- The draft after the end of an attribute. Of several attributes with one name
only the first is kept. -/
def finishAttr (draft : Draft) : Draft :=
  let name := String.ofList draft.attrName.reverse
  let value := String.ofList draft.attrValue.reverse
  let known := draft.attributes.any fun attr => attr.1 == name
  { draft with
    attributes :=
      if draft.attrName.isEmpty || known then draft.attributes
      else draft.attributes ++ [(name, value)]
    attrName := []
    attrValue := [] }

def startAttr (draft : Draft) (c : Char) : Draft :=
  { draft.finishAttr with attrName := [Text.lowerAscii (visible c)] }

def pushName (draft : Draft) (c : Char) : Draft :=
  { draft with name := Text.lowerAscii (visible c) :: draft.name }

def pushAttrName (draft : Draft) (c : Char) : Draft :=
  { draft with attrName := Text.lowerAscii (visible c) :: draft.attrName }

def pushValue (draft : Draft) (chars : List Char) : Draft :=
  { draft with attrValue := chars.reverse ++ draft.attrValue }

def finish (draft : Draft) (selfClosing : Bool) : Tag :=
  let draft := draft.finishAttr
  ⟨String.ofList draft.name.reverse, draft.attributes, selfClosing⟩

end Draft

inductive Next where
  | go (part : Part) (draft : Draft)
  /-- a character reference may begin in a value -/
  | refer (part : Part)
  | done (selfClosing : Bool)

def stepBeforeName (draft : Draft) (c : Char) : Next :=
  if isSpace c then .go .beforeName draft
  else if c = '/' then .go .slash draft
  else if c = '>' then .done false
  else .go .attrName (draft.startAttr c)

def stepUnquoted (draft : Draft) (c : Char) : Next :=
  if isSpace c then .go .beforeName draft
  else if c = '>' then .done false
  else if c = '&' then .refer .unquoted
  else .go .unquoted (draft.pushValue [visible c])

def step : Part → Draft → Char → Next
  | .name, draft, c =>
      if isSpace c then .go .beforeName draft
      else if c = '/' then .go .slash draft
      else if c = '>' then .done false
      else .go .name (draft.pushName c)
  | .beforeName, draft, c => stepBeforeName draft c
  | .attrName, draft, c =>
      if isSpace c then .go .afterName draft
      else if c = '/' then .go .slash draft
      else if c = '=' then .go .beforeValue draft
      else if c = '>' then .done false
      else .go .attrName (draft.pushAttrName c)
  | .afterName, draft, c =>
      if isSpace c then .go .afterName draft
      else if c = '=' then .go .beforeValue draft
      else stepBeforeName draft c
  | .beforeValue, draft, c =>
      if isSpace c then .go .beforeValue draft
      else if c = '"' ∨ c = '\'' then .go (.quoted c) draft
      else stepUnquoted draft c
  | .quoted quote, draft, c =>
      if c = quote then .go .afterValue draft
      else if c = '&' then .refer (.quoted quote)
      else .go (.quoted quote) (draft.pushValue [visible c])
  | .unquoted, draft, c => stepUnquoted draft c
  | .afterValue, draft, c => stepBeforeName draft c
  | .slash, draft, c => if c = '>' then .done true else stepBeforeName draft c

/-- The text after a line end of two characters. Before a value such a line end
takes the next character with it, unless that begins a line end itself. -/
def afterLineEnd (part : Part) (text : List Char) : List Char :=
  match part, text with
  | .beforeValue, '\r' :: rest => '\r' :: rest
  | .beforeValue, _ :: rest => rest
  | _, text => text

/-- The next character of a tag, with the text after it. A line end is a line
feed. -/
def take? (part : Part) : List Char → Option (Char × List Char)
  | [] => none
  | '\r' :: '\n' :: rest => some ('\n', afterLineEnd part rest)
  | c :: rest => some (if c = '\r' then '\n' else c, rest)

/-- The draft after a character reference in a value, or after an ampersand that
begins none. -/
def Draft.pushReference (draft : Draft) (found : Option CharRef) : Draft :=
  draft.pushValue ((found.map CharRef.chars).getD ['&'])

def readFrom : (fuel : Nat) → Part → Draft → List Char → Option (Tag × List Char)
  | 0, _, _, _ => none
  | fuel + 1, part, draft, text => do
      let (c, rest) ← take? part text
      match step part draft c with
      | .go part draft => readFrom fuel part draft rest
      | .done selfClosing => some (draft.finish selfClosing, rest)
      | .refer part =>
          let (found, rest) := CharRef.read true rest
          readFrom fuel part (draft.pushReference found) rest

/-- Reads a tag from the first letter of its name on, with the text after it. -/
def read? (text : List Char) : Option (Tag × List Char) :=
  readFrom (text.length + 1) .name ⟨[], [], [], []⟩ text

end Tag

namespace Lexer

def referenceTokens (found : CharRef) : List Token :=
  (if found.unfinished then [.slip] else []) ++ Token.ofChars found.chars

/-- A tag, with the text after it. A tag that the text breaks off in leaves
nothing behind. -/
def tagTokens (token : Tag → Token) (text : List Char) : List Token × List Char :=
  match Tag.read? text with
  | some (tag, rest) => ([token tag], rest)
  | none => ([], [])

def commentTokens (found : List Char × List Char) : List Token × List Char :=
  ([.comment (String.ofList (lineFeeds found.1))], found.2)

def readSection : List Char → List Char × List Char
  | [] => ([], [])
  | ']' :: ']' :: '>' :: rest => ([], rest)
  | c :: rest =>
      let (content, rest) := readSection rest
      (c :: content, rest)

def sectionToken (c : Char) : List Token :=
  if c = '\x00' then [.null] else Token.ofChars [c]

def sectionTokens (found : List Char × List Char) : List Token × List Char :=
  ((lineFeeds found.1).flatMap sectionToken, found.2)

/-- What follows a less-than sign and an exclamation mark. Character data
sections count in foreign content only. -/
def declarationTokens (foreign : Bool) (text : List Char) : List Token × List Char :=
  match text with
  | '-' :: '-' :: rest => commentTokens (Comment.read rest)
  | _ =>
      match Text.afterAscii? "doctype".toList text with
      | some rest =>
          let (declaration, rest) := Doctype.read rest
          ([.doctype declaration], rest)
      | none =>
          match if foreign then Text.after? "[CDATA[".toList text else none with
          | some rest => sectionTokens (readSection rest)
          | none => commentTokens (Comment.readBogus text)

def closingTokens (text : List Char) : List Token × List Char :=
  match text with
  | [] => (Token.ofChars ['<', '/'], [])
  | '>' :: rest => ([.slip], rest)
  | c :: _ =>
      if c.isAlpha then tagTokens .close text
      else commentTokens (Comment.readBogus text)

def markupTokens (foreign : Bool) (text : List Char) : List Token × List Char :=
  match text with
  | '!' :: rest => declarationTokens foreign rest
  | '/' :: rest => closingTokens rest
  | '?' :: _ => commentTokens (Comment.readBogus text)
  | c :: _ =>
      if c.isAlpha then tagTokens .open text
      else (.slip :: Token.ofChars ['<'], text)
  | [] => (.slip :: Token.ofChars ['<'], [])

def ampersandTokens (text : List Char) : List Token × List Char :=
  match CharRef.read false text with
  | (some found, rest) => (referenceTokens found, rest)
  | (none, rest) => (Token.ofChars ['&'], rest)

def isOrdinary (c : Char) : Bool :=
  c != '<' && c != '&' && c != '\x00'

/-- The text up to the next character that may stand for something else, with the
text from there on. -/
def ordinaryTokens (text : List Char) : List Token × List Char :=
  (Token.ofChars (lineFeeds (text.takeWhile isOrdinary)), text.dropWhile isOrdinary)

def markup (foreign : Bool) (text : List Char) : List Token × List Char :=
  match text with
  | [] => ([], [])
  | '<' :: rest => markupTokens foreign rest
  | '&' :: rest => ampersandTokens rest
  | c :: rest =>
      if c = '\x00' then ([.null], rest) else ordinaryTokens text

def referring (element : String) (text : List Char) : List Token × List Char :=
  match text with
  | [] => ([], [])
  | '<' :: rest =>
      if RawText.closesHere element rest then tagTokens .close (rest.drop 1)
      else (Token.ofChars ['<'], rest)
  | '&' :: rest => ampersandTokens rest
  | c :: rest =>
      if c = '\x00' then (Token.ofChars [visible c], rest) else ordinaryTokens text

/-- Text without markup as tokens, or the end tag that ends it. -/
def bounded (found : List Char × List Char) : List Token × List Char :=
  match found with
  | ([], '<' :: '/' :: rest) => tagTokens .close rest
  | (content, rest) => (Token.ofChars (lineFeeds content), rest)

/-- The text of a script as tokens, or the end tag that ends it. A byte order mark
directly after the end tag does not count. -/
def scriptTokens (text : List Char) : List Token × List Char :=
  match bounded (RawText.script .plain text) with
  | ([.close tag], rest) => ([.close tag], withoutMark rest)
  | found => found

/-- The next tokens of a text that is not empty, and the text after them. -/
def next (reading : Reading) (foreign : Bool) (text : List Char) :
    List Token × List Char :=
  match reading with
  | .markup => markup foreign text
  | .referring element => referring element text
  | .verbatim element => bounded (RawText.verbatim element text)
  | .script => scriptTokens text
  | .endless => (Token.ofChars ((lineFeeds text).map visible), [])

end Lexer

end MailQuote.Html
