namespace MailQuote.Html

inductive Namespace where
  | html
  | svg
  | mathml
deriving DecidableEq, Repr

structure Name where
  space : Namespace
  localName : String
deriving DecidableEq, Repr

/-- The vocabulary that an attribute belongs to. The order is that of the
identifiers of the vocabularies, in which attributes are kept. -/
inductive AttrSpace where
  | plain
  | xlink
  | xmlns
  | xml
deriving DecidableEq, Repr

def AttrSpace.rank : AttrSpace → Nat
  | .plain => 0
  | .xlink => 1
  | .xmlns => 2
  | .xml => 3

structure AttrName where
  space : AttrSpace
  localName : String
deriving DecidableEq, Repr

def AttrName.lt (first second : AttrName) : Bool :=
  first.space.rank < second.space.rank ||
    (first.space == second.space && first.localName < second.localName)

structure Attr where
  name : AttrName
  value : String
deriving DecidableEq, Repr

namespace Attr

/-- The attributes with one more, in order, unless there is one of its name. -/
def add (attr : Attr) : List Attr → List Attr
  | [] => [attr]
  | first :: others =>
      if first.name = attr.name then first :: others
      else if attr.name.lt first.name then attr :: first :: others
      else first :: add attr others

/-- The attributes with others, in order, unless there are ones of their
names. Of several with one name the first counts. -/
def addAll (known : List Attr) : List Attr → List Attr
  | [] => known
  | attr :: others => addAll (attr.add known) others

def find? (name : AttrName) : List Attr → Option String
  | [] => none
  | attr :: others => if attr.name = name then some attr.value else find? name others

end Attr

namespace Name

def html (localName : String) : Name := ⟨.html, localName⟩

def isAmong (name : Name) (group : List String) : Bool :=
  name.space == .html && group.contains name.localName

def isHtml (name : Name) (localName : String) : Bool :=
  name == html localName

def isMathText (name : Name) : Bool :=
  name.space == .mathml && ["mi", "mo", "mn", "ms", "mtext"].contains name.localName

def isSvgHost (name : Name) : Bool :=
  name.space == .svg && ["foreignObject", "desc", "title"].contains name.localName

def isScope (name : Name) : Bool :=
  name.isAmong ["applet", "caption", "html", "table", "td", "th", "marquee", "object",
    "template"] || name.isMathText || name.isSvgHost

/-- Elements beyond which an open list item is out of sight. -/
def isListScope (name : Name) : Bool :=
  name.isScope || name.isAmong ["ol", "ul"]

/-- Elements beyond which an open paragraph is out of sight. -/
def isButtonScope (name : Name) : Bool :=
  name.isScope || name.isHtml "button"

/-- Elements beyond which an open part of a table is out of sight. -/
def isTableScope (name : Name) : Bool :=
  name.isAmong ["html", "table", "template"]

/-- Elements beyond which an open list of choices is out of sight. -/
def isSelectScope (name : Name) : Bool :=
  !name.isAmong ["optgroup", "option"]

/-- Elements whose end is implied by the end of an element around them. -/
def isImplied (name : Name) : Bool :=
  name.isAmong ["dd", "dt", "li", "option", "optgroup", "p", "rb", "rp", "rt", "rtc"]

def isThoroughlyImplied (name : Name) : Bool :=
  name.isImplied || name.isAmong ["caption", "colgroup", "tbody", "td", "tfoot", "th",
    "thead", "tr"]

def headings : List String := ["h1", "h2", "h3", "h4", "h5", "h6"]

def isSpecial (name : Name) : Bool :=
  name.isAmong ["address", "applet", "area", "article", "aside", "base", "basefont",
    "bgsound", "blockquote", "body", "br", "button", "caption", "center", "col",
    "colgroup", "dd", "details", "dir", "div", "dl", "dt", "embed", "fieldset",
    "figcaption", "figure", "footer", "form", "frame", "frameset", "h1", "h2", "h3",
    "h4", "h5", "h6", "head", "header", "hgroup", "hr", "html", "iframe", "img", "input",
    "isindex", "li", "link", "listing", "main", "marquee", "menu", "meta", "nav",
    "noembed", "noframes", "noscript", "object", "ol", "p", "param", "plaintext", "pre",
    "script", "section", "select", "source", "style", "summary", "table", "tbody", "td",
    "template", "textarea", "tfoot", "th", "thead", "title", "tr", "track", "ul", "wbr",
    "xmp"]

/-- Elements that a search for an open list item does not pass. -/
def stopsItems (name : Name) : Bool :=
  name.isSpecial && !name.isAmong ["address", "div", "p"]

/-- Elements whose misplaced content is moved before the table. -/
def isTablePart (name : Name) : Bool :=
  name.isAmong ["table", "tbody", "tfoot", "thead", "tr"]

end Name

end MailQuote.Html
