import MailQuote.Basic
import MailQuote.Pattern

namespace MailQuote

inductive Marker.Kind where
  /-- an answered message: an attribution line or a block of header lines -/
  | reply
  /-- a forwarded message -/
  | forward
deriving DecidableEq, Repr

/-- A phrase of one language that introduces a quoted or forwarded message. -/
structure Marker where
  language : String
  kind : Marker.Kind
  pattern : Pattern

def Marker.Kind.name : Marker.Kind → String
  | .reply => "reply"
  | .forward => "forward"

def Marker.Kind.title : Marker.Kind → String
  | .reply => "Reply"
  | .forward => "Forward"

namespace Marker

def isPad (c : Char) : Bool :=
  c == ' ' || c == '\t'

def inLine (c : Char) : Bool :=
  c != '\n'

/-- A character after which a line of prose goes on: neither white space nor
the end of a sentence. -/
def runsOn (c : Char) : Bool :=
  !(c == '.' || c == '!' || c == '?' || Text.isBlank c)

def pads : Pattern :=
  .star isPad

def blank : Pattern :=
  .one Text.isBlank

def blanks : Pattern :=
  .star Text.isBlank

def lineBreak : Pattern :=
  .seq (.optional (.char '\r')) (.char '\n')

end Marker

/-- The lead word and the verb phrase of the attributions of one language. -/
structure Attribution where
  language : String
  lead : Pattern
  verb : Pattern

namespace Attribution

open Marker Pattern

def oneLine (verb : Pattern) : Pattern :=
  sequence [.plus inLine, blank, verb]

/-- The rest of an attribution that continues on the next line. The first line
does not end a sentence, and the second ends right after the verb. -/
def wrapped (verb : Pattern) : Pattern :=
  sequence [.star inLine, .one runsOn, pads, lineBreak, .plus inLine, blank, verb,
    pads, optional (.char '\r'), .lineEnd]

/-- The pattern of an attribution, from the beginning of its first line. -/
def pattern (attribution : Attribution) : Pattern :=
  sequence [.lineStart, pads, attribution.lead, blank,
    .alt (oneLine attribution.verb) (wrapped attribution.verb)]

def marker (attribution : Attribution) : Marker where
  language := attribution.language
  kind := .reply
  pattern := attribution.pattern

/-- A verb that may be followed, on its line, by the name before its colon. -/
def verbAndName (verb : String) : Pattern :=
  sequence [literal verb, .star inLine, char ':']

def table : List Attribution := [
  { language := "en", lead := literal "On", verb := literal "wrote:" },
  { language := "fr", lead := literal "Le",
    verb := sequence [literal "a", .plus Text.isBlank, literal "écrit", blanks, char ':'] },
  { language := "de", lead := literal "Am", verb := verbAndName "schrieb" },
  { language := "es", lead := literal "El", verb := literal "escribió:" },
  { language := "it",
    lead := .alt (literal "Il") (sequence [literal "In", blank, literal "data"]),
    verb := sequence [literal "ha", .plus Text.isBlank, literal "scritto:"] },
  { language := "pt", lead := literal "Em", verb := literal "escreveu:" },
  { language := "nl", lead := literal "Op", verb := verbAndName "schreef" },
  { language := "sv", lead := literal "Den", verb := verbAndName "skrev" },
  { language := "pl",
    lead := .alt (sequence [literal "W", blank, literal "dniu"]) (literal "Dnia"),
    verb := sequence [literal "napisał",
      optional (.alt (literal "a") (literal "(a)")), char ':'] }]

end Attribution

namespace Marker

open Pattern

/-- A line that ends in a verb phrase with its colon, whatever precedes it. -/
def verbLast (verb : Pattern) : Pattern :=
  sequence [.lineStart, .plus inLine, verb]

def ruledLine (words : String) : Pattern :=
  sequence [.lineStart, pads, .atLeast 3 (· == '-'), blanks, phrase words, blanks,
    .atLeast 3 (· == '-')]

def headerBlock (sender date : Pattern) : Pattern :=
  sequence [.lineStart, pads, sender, .one isPad, .plus inLine, lineBreak, pads, date,
    .one isPad]

def ruled (words : String) : Pattern :=
  sequence [.atLeast 2 (· == '-'), blanks, phrase words, blanks,
    .atLeast 2 (· == '-')]

def announced (words : String) : Pattern :=
  sequence [phrase words, blanks, char ':']

/-- The markers of replies that are no attribution lines of the table of lead
words and verbs, or no attribution lines at all. -/
def replyTable : List (String × Pattern) := [
  ("ru", verbLast (sequence [
    .alt (literal "пишет") (sequence [literal "написал", optional (literal "а")]),
    char ':'])),
  ("ja", verbLast (sequence [
    .alt (literal "のメッセージ") (literal "書きました"),
    .one fun c => c == ':' || c == '：'])),
  ("en", ruledLine "Original Message"),
  ("de", ruledLine "Ursprüngliche Nachricht"),
  ("fr", ruledLine "Message d'origine"),
  ("es", ruledLine "Mensaje original"),
  ("en", headerBlock (literal "From:")
    (sequence [.alt (literal "Sent") (literal "Date"), char ':'])),
  ("fr", headerBlock (sequence [literal "De", optional blank, char ':'])
    (sequence [.alt (literal "Envoyé") (literal "Date"), optional blank, char ':'])),
  ("de", headerBlock (literal "Von:")
    (sequence [.alt (literal "Gesendet") (literal "Datum"), char ':']))]

def forwardTable : List (String × Pattern) := [
  ("en", ruled "Forwarded message"),
  ("en", announced "Begin forwarded message"),
  ("fr", sequence [phrase "Début du message ",
    .alt (phrase "transféré") (phrase "réexpédié"), blanks, optional (char ':')]),
  ("fr", ruled "Message transféré"),
  ("de", ruled "Weitergeleitete Nachricht"),
  ("de", announced "Anfang der weitergeleiteten Nachricht"),
  ("es", ruled "Mensaje reenviado"),
  ("es", announced "Inicio del mensaje reenviado"),
  ("it", ruled "Messaggio inoltrato"),
  ("pt", ruled "Mensagem encaminhada"),
  ("nl", ruled "Doorgestuurd bericht")]

def replies : List Marker :=
  Attribution.table.map Attribution.marker ++
    replyTable.map fun (language, pattern) => ⟨language, .reply, pattern⟩

/-- The markers of forwarded messages, each with its language. -/
def forwards : List Marker :=
  forwardTable.map fun (language, pattern) => ⟨language, .forward, pattern⟩

/-- All markers, in the order in which they take precedence. -/
def all : List Marker :=
  replies ++ forwards

def isForward (text : List Char) : Bool :=
  forwards.any fun marker => (marker.pattern.find? text).isSome

/-- Whether a text opens with a marker, leading white space apart. -/
def opens (text : List Char) : Bool :=
  all.any fun marker =>
    match marker.pattern.find? (Text.trimStart text) with
    | some found => found.start == 0
    | none => false

/-- Of two finds the one that starts earlier, or the first if they start at the
same place. -/
def earlier (first second : Marker × Match) : Marker × Match :=
  if second.2.start < first.2.start then second else first

/-- The markers that occur in a text, each with its leftmost match. -/
def findAll (text : List Char) : List (Marker × Match) :=
  all.filterMap fun marker => (marker.pattern.find? text).map (marker, ·)

def earliestOf : List (Marker × Match) → Option (Marker × Match)
  | [] => none
  | found :: others =>
      match earliestOf others with
      | none => some found
      | some best => some (earlier found best)

/-- The marker that starts first in a text, with its leftmost match. Of markers
that start at the same place the first in the order of precedence counts. -/
def earliest? (text : List Char) : Option (Marker × Match) :=
  earliestOf (findAll text)

end Marker

namespace Scan

/-- Whether a line is quoted: its first character that is no white space is a
greater-than sign. -/
def isQuotedLine (line : List Char) : Bool :=
  (Text.trimStart line).head? == some '>'

def inTail (line : List Char) : Bool :=
  Text.allBlank line || isQuotedLine line

/-- The quoted end of a text, as placed lines from the last one backwards. -/
def tail (text : List Char) : List (Nat × List Char) :=
  (Text.placedLines text).reverse.takeWhile fun placed => inTail placed.2

/-- The last line that does not belong to the quoted end of a text. -/
def lastKept? (text : List Char) : Option (Nat × List Char) :=
  (Text.placedLines text).reverse.find? fun placed => !inTail placed.2

def hasQuotedTail (text : List Char) : Bool :=
  (tail text).any fun placed => isQuotedLine placed.2

/-- The number of bytes that remain of a text when its quoted end is dropped. A
text of blank lines remains as it is. -/
def keptBytes (text : List Char) : Nat :=
  match lastKept? text with
  | some (start, line) => start + Text.byteSize line
  | none => if hasQuotedTail text then 0 else Text.byteSize text

/-- A text without its quoted end, and whether there was a quoted line in it. -/
def stripTail (text : List Char) : List Char × Bool :=
  ((Text.takeBytes? (keptBytes text) text).getD text, hasQuotedTail text)

/-- What precedes the earliest marker of a text, and whether there is one. -/
def cutAtMarker (text : List Char) : List Char × Bool :=
  match Marker.earliest? text with
  | some (_, found) => (found.before, true)
  | none => (text, false)

end Scan

def scan (text : String) : Outcome :=
  let (opening, byMarker) := Scan.cutAtMarker text.toList
  let (kept, byPrefix) := Scan.stripTail opening
  let content := String.ofList (Text.trim kept)
  if byMarker || byPrefix then .quoted content .pattern else .unchanged content

def scanEvents (text : String) : List Event :=
  match Marker.earliest? text.toList with
  | some (marker, found) =>
      let pattern := s!"{marker.kind.title} {marker.language} pattern"
      [⟨.debug, s!"Truncating at {pattern}, offset {found.start}"⟩]
  | none => []

end MailQuote
