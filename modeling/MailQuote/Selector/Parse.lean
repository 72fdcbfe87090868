import MailQuote.Html.Document
import MailQuote.Selector.Basic

namespace MailQuote

namespace Selector

def skipSpaces : List Token → List Token
  | .space :: rest => skipSpaces rest
  | tokens => tokens

/-- The tokens after the end of a block, if nothing else is left in it. -/
def closeBlock (close : Token) (tokens : List Token) : Option (List Token) :=
  match skipSpaces tokens with
  | [] => some []
  | token :: rest => if token = close then some rest else none

/-- The conditions of an element name, if the tokens begin with one. A name that
begins with an unknown vocabulary is a mistake. -/
def readType (tokens : List Token) : Option (List Condition × List Token) :=
  match tokens with
  | .ident _ :: .delim '|' :: _ => none
  | .ident name :: rest => some ([.typeName name], rest)
  | .delim '*' :: .delim '|' :: .delim '*' :: rest => some ([.universal], rest)
  | .delim '*' :: .delim '|' :: .ident name :: rest => some ([.typeName name], rest)
  | .delim '*' :: .delim '|' :: _ => none
  | .delim '*' :: rest => some ([.universal], rest)
  | .delim '|' :: .delim '*' :: rest => some ([.noNamespace], rest)
  | .delim '|' :: .ident name :: rest => some ([.noNamespace, .typeName name], rest)
  | .delim '|' :: _ => none
  | tokens => some ([], tokens)

/-- The name of an attribute, and whether it may be of any vocabulary. -/
def readAttrName (tokens : List Token) : Option (Bool × String × List Token) :=
  match tokens with
  | .ident _ :: .delim '|' :: _ => none
  | .ident name :: rest => some (false, name, rest)
  | .delim '*' :: .delim '|' :: .ident name :: rest => some (true, name, rest)
  | .delim '|' :: .ident name :: rest => some (false, name, rest)
  | _ => none

def comparison? : Token → Option Comparison
  | .delim '=' => some .equal
  | .includes => some .includes
  | .dashMatch => some .dashMatch
  | .prefixMatch => some .prefixMatch
  | .suffixMatch => some .suffixMatch
  | .substringMatch => some .substringMatch
  | _ => none

/-- Attributes whose values do not depend on case in HTML elements. -/
def caselessAttributes : List String :=
  ["accept", "accept-charset", "align", "alink", "axis", "bgcolor", "charset", "checked",
    "clear", "codetype", "color", "compact", "declare", "defer", "dir", "direction",
    "disabled", "enctype", "face", "frame", "hreflang", "http-equiv", "lang", "language",
    "link", "media", "method", "multiple", "nohref", "noresize", "noshade", "nowrap",
    "readonly", "rel", "rev", "rules", "scope", "scrolling", "selected", "shape", "target",
    "text", "type", "valign", "valuetype", "vlink"]

def defaultRule (anySpace : Bool) (name : String) : CaseRule :=
  if !anySpace && caselessAttributes.contains (lowerAscii name) then .insensitiveInHtml
  else .sensitive

/-- The case rule that is given after a value, and the tokens after it. -/
def readRule (anySpace : Bool) (name : String) (tokens : List Token) :
    Option (CaseRule × List Token) :=
  match skipSpaces tokens with
  | .ident flag :: rest =>
      if lowerAscii flag = "i" then some (.insensitive, rest)
      else if lowerAscii flag = "s" then some (.sensitive, rest)
      else none
  | rest => some (defaultRule anySpace name, rest)

def readValue (tokens : List Token) : Option (String × List Token) :=
  match skipSpaces tokens with
  | .ident value :: rest => some (value, rest)
  | .text value :: rest => some (value, rest)
  | _ => none

/-- A condition on an attribute, from after the opening bracket on. -/
def readAttribute (tokens : List Token) : Option (Condition × List Token) := do
  let (anySpace, name, tokens) ← readAttrName (skipSpaces tokens)
  match closeBlock .closeSquare tokens with
  | some rest => pure (.attribute anySpace name .present, rest)
  | none =>
      match skipSpaces tokens with
      | [] => none
      | token :: tokens =>
          let comparison ← comparison? token
          let (expected, tokens) ← readValue tokens
          let (rule, tokens) ← readRule anySpace name tokens
          let rest ← closeBlock .closeSquare tokens
          pure (.attribute anySpace name (.compare comparison expected rule), rest)

/-- The offset that digits after a dash stand for, as in `n-3`. -/
def dashDigits? (name : List Char) : Option Int :=
  match name with
  | n :: '-' :: digits =>
      if (n = 'n' ∨ n = 'N') ∧ digits ≠ [] ∧ digits.all Char.isDigit then
        let size : Int := Lexer.digitsValue digits
        some (Lexer.clamp (-size))
      else none
  | _ => none

def readUnsigned (step sign : Int) (tokens : List Token) :
    Option ((Int × Int) × List Token) :=
  match skipSpaces tokens with
  | .number value false :: rest => some ((step, sign * value), rest)
  | _ => none

def readOffset (step : Int) (tokens : List Token) : Option ((Int × Int) × List Token) :=
  match skipSpaces tokens with
  | .delim '+' :: rest => readUnsigned step 1 rest
  | .delim '-' :: rest => readUnsigned step (-1) rest
  | .number value true :: rest => some ((step, value), rest)
  | _ => some ((step, 0), tokens)

def readStep (step : Int) (unit : String) (tokens : List Token) :
    Option ((Int × Int) × List Token) :=
  let lower := lowerAscii unit
  if lower = "n" then readOffset step tokens
  else if lower = "n-" then readUnsigned step (-1) tokens
  else (dashDigits? unit.toList).map fun offset => ((step, offset), tokens)

def readPositions (tokens : List Token) : Option ((Int × Int) × List Token) :=
  match skipSpaces tokens with
  | .number value _ :: rest => some ((0, value), rest)
  | .dimension value unit :: rest => readStep value unit rest
  | .ident name :: rest =>
      let lower := lowerAscii name
      if lower = "even" then some ((2, 0), rest)
      else if lower = "odd" then some ((2, 1), rest)
      else
        match name.toList with
        | '-' :: unit => readStep (-1) (String.ofList unit) rest
        | _ => readStep 1 name rest
  | .delim '+' :: .ident name :: rest =>
      if name.toList.head? = some '-' then none else readStep 1 name rest
  | _ => none

def state? (name : String) : Option Condition :=
  match lowerAscii name with
  | "first-child" => some .firstChild
  | "last-child" => some .lastChild
  | "only-child" => some .onlyChild
  | "root" | "scope" => some .root
  | "empty" => some .empty
  | "first-of-type" => some (.nth 0 1 true false)
  | "last-of-type" => some (.nth 0 1 true true)
  | "only-of-type" => some .onlyOfType
  | "any-link" | "link" => some .link
  | "visited" | "active" | "focus" | "hover" | "enabled" | "disabled" | "checked"
  | "indeterminate" => some .never
  | _ => none

/-- Whether a name with positions counts elements of one type only, and whether
it counts from the end. -/
def counting? (name : String) : Option (Bool × Bool) :=
  match lowerAscii name with
  | "nth-child" => some (false, false)
  | "nth-of-type" => some (true, false)
  | "nth-last-child" => some (false, true)
  | "nth-last-of-type" => some (true, true)
  | _ => none

/-- The condition of a name with an argument that is no negation, from after the
opening parenthesis on. The argument of `host` is read by `pass`; it does not
matter, since no element is the host of another tree. -/
def readFunction (pass : List Token → Option (List Token)) (name : String)
    (tokens : List Token) : Option (Condition × List Token) :=
  if lowerAscii name = "host" then do
    let rest ← pass tokens
    let rest ← closeBlock .closeParen rest
    pure (.never, rest)
  else do
    let (ofType, fromEnd) ← counting? name
    let ((step, offset), rest) ← readPositions tokens
    let rest ← closeBlock .closeParen rest
    pure (.nth step offset ofType fromEnd, rest)

/-- A condition that is no element name and no negation: none if the tokens do
not begin with one, and a failure if it has a mistake in it. -/
def readCondition (pass : List Token → Option (List Token)) (tokens : List Token) :
    Option (Option Condition × List Token) :=
  match tokens with
  | .hash name :: rest => some (some (.id name), rest)
  | .delim '.' :: .ident name :: rest => some (some (.hasClass name), rest)
  | .delim '.' :: _ => none
  | .openSquare :: rest =>
      (readAttribute rest).map fun (condition, rest) => (some condition, rest)
  | .colon :: .ident name :: rest =>
      (state? name).map fun condition => (some condition, rest)
  | .colon :: .function name :: rest =>
      (readFunction pass name rest).map fun (condition, rest) => (some condition, rest)
  | .colon :: _ => none
  | tokens => some (none, tokens)

/-- The inside of a negation: an element name or one other condition. -/
def readNegation (pass : List Token → Option (List Token)) (tokens : List Token) :
    Option (Simple × List Token) := do
  let (conditions, tokens) ← readType (skipSpaces tokens)
  match conditions with
  | [] =>
      match ← readCondition pass tokens with
      | (some condition, tokens) =>
          let rest ← closeBlock .closeParen tokens
          pure (.negated [condition], rest)
      | (none, _) => none
  | conditions =>
      let rest ← closeBlock .closeParen tokens
      pure (.negated conditions, rest)

/-- A condition that is no element name: none if the tokens do not begin with
one, and a failure if it has a mistake in it. -/
def readSimple (pass : List Token → Option (List Token)) (tokens : List Token) :
    Option (Option Simple × List Token) :=
  match tokens with
  | .colon :: .function name :: rest =>
      if lowerAscii name = "not" then
        (readNegation pass rest).map fun (simple, rest) => (some simple, rest)
      else (readCondition pass tokens).map fun (found, rest) => (found.map .plain, rest)
  | tokens => (readCondition pass tokens).map fun (found, rest) => (found.map .plain, rest)

def readSimples (pass : List Token → Option (List Token)) :
    (fuel : Nat) → List Token → Option (List Simple × List Token)
  | 0, _ => none
  | fuel + 1, tokens => do
      match ← readSimple pass tokens with
      | (none, tokens) => pure ([], tokens)
      | (some simple, tokens) =>
          let (others, tokens) ← readSimples pass fuel tokens
          pure (simple :: others, tokens)

/-- All conditions on one element, of which there is at least one. Arguments that
are such conditions themselves are passed over by `pass`. -/
def readConditions (pass : List Token → Option (List Token)) (tokens : List Token) :
    Option (List Simple × List Token) := do
  let (named, tokens) ← readType (skipSpaces tokens)
  let (simples, tokens) ← readSimples pass (tokens.length + 1) tokens
  match named.map Simple.plain ++ simples with
  | [] => none
  | conditions => pure (conditions, tokens)

/-- The tokens after the conditions on one element. The fuel bounds the depth of
arguments in them. -/
def passConditions : (fuel : Nat) → List Token → Option (List Token)
  | 0, _ => none
  | fuel + 1, tokens => (readConditions (passConditions fuel) tokens).map (·.2)

def readCompound (tokens : List Token) : Option (List Simple × List Token) :=
  readConditions (passConditions tokens.length) tokens

/-- The combinator before further conditions, if there are any. -/
def readCombinator (tokens : List Token) : Option Combinator × List Token :=
  match skipSpaces tokens with
  | .delim '>' :: rest => (some .child, rest)
  | .delim '+' :: rest => (some .adjacent, rest)
  | .delim '~' :: rest => (some .sibling, rest)
  | [] => (none, [])
  | .comma :: rest => (none, .comma :: rest)
  | rest => (if tokens.head? = some .space then some .descendant else none, rest)

def readRest : (fuel : Nat) → Complex → List Token → Option (Complex × List Token)
  | 0, _, _ => none
  | fuel + 1, complex, tokens =>
      match readCombinator tokens with
      | (none, tokens) => some (complex, tokens)
      | (some combinator, tokens) => do
          let (conditions, tokens) ← readCompound tokens
          readRest fuel (.combined complex combinator conditions) tokens

def readComplex (tokens : List Token) : Option (Complex × List Token) := do
  let (conditions, tokens) ← readCompound tokens
  readRest (tokens.length + 1) (.compound conditions) tokens

def readAlternatives : (fuel : Nat) → List Token → Option (List Complex)
  | 0, _ => none
  | fuel + 1, tokens => do
      let (complex, tokens) ← readComplex tokens
      match tokens with
      | [] => pure [complex]
      | .comma :: rest =>
          let others ← readAlternatives fuel rest
          pure (complex :: others)
      | _ => none

def parse? (text : String) : Option Selector :=
  let tokens := Lexer.tokens text
  (readAlternatives (tokens.length + 1) tokens).map Selector.mk

end Selector

open Html

namespace Selector

def sameText (caseless : Bool) (first second : List Char) : Bool :=
  if caseless then Text.sameAscii first second else first == second

def beginsWith (caseless : Bool) (text expected : List Char) : Bool :=
  sameText caseless (text.take expected.length) expected

def contains (caseless : Bool) (expected : List Char) : List Char → Bool
  | [] => expected.isEmpty
  | c :: rest => beginsWith caseless (c :: rest) expected || contains caseless expected rest

def Comparison.holds (comparison : Comparison) (caseless : Bool)
    (value expected : List Char) : Bool :=
  match comparison with
  | .equal => sameText caseless value expected
  | .includes =>
      (Text.runs (fun c => !Lexer.isSpace c) value).any (sameText caseless · expected)
  | .dashMatch =>
      sameText caseless value expected ||
        (beginsWith caseless value expected && value[expected.length]? == some '-')
  | .prefixMatch => !expected.isEmpty && beginsWith caseless value expected
  | .suffixMatch =>
      !expected.isEmpty && beginsWith caseless value.reverse expected.reverse
  | .substringMatch => !expected.isEmpty && contains caseless expected value

/-- Whether the case of letters counts, in an HTML element or in another one. -/
def CaseRule.caseless (rule : CaseRule) (inHtml : Bool) : Bool :=
  match rule with
  | .sensitive => false
  | .insensitive => true
  | .insensitiveInHtml => inHtml

def ValueTest.holds (test : ValueTest) (inHtml : Bool) (value : String) : Bool :=
  match test with
  | .present => true
  | .compare comparison expected rule =>
      comparison.holds (rule.caseless inHtml) value.toList expected.toList

def attributesOf : NodeData → List Attr
  | .element _ attributes => attributes
  | _ => []

def nameOf (place : Place) : Name :=
  place.data.name?.getD ⟨.html, ""⟩

def soughtName (name : String) (element : Name) : String :=
  if element.space = .html then lowerAscii name else name

def counted (ofType : Bool) (place : Place) (siblings : List Place) : List Place :=
  siblings.filter fun sibling =>
    sibling.isElement && (!ofType || sibling.data.name? == place.data.name?)

def position (ofType fromEnd : Bool) (place : Place) : Int :=
  (counted ofType place (if fromEnd then place.following else place.preceding)).length + 1

/-- Whether a position is `step · n + offset` for a natural number `n`. -/
def isTerm (step offset position : Int) : Bool :=
  let difference := position - offset
  if 0x80000000 ≤ difference then false
  else if step = 0 then difference == 0
  else Int.tmod difference step == 0 && 0 ≤ Int.tdiv difference step

def holdsNothing : Forest → Bool
  | .nil => true
  | .cons _ (.element _ _) _ _ => false
  | .cons _ (.text content) _ rest => content.isEmpty && holdsNothing rest
  | .cons _ _ _ rest => holdsNothing rest

def isLink (data : NodeData) : Bool :=
  match data.name? with
  | some name =>
      name.space == .html && ["a", "area", "link"].contains name.localName &&
        (data.attribute? "href").isSome
  | none => false

def Condition.holds (condition : Condition) (place : Place) : Bool :=
  let name := nameOf place
  let inHtml := name.space == .html
  match condition with
  | .universal => true
  | .noNamespace => false
  | .typeName sought => name.localName == soughtName sought name
  | .id sought => place.data.attribute? "id" == some sought
  | .hasClass sought =>
      match place.data.attribute? "class" with
      | some classes =>
          (Text.runs (fun c => !Lexer.isSpace c) classes.toList).contains sought.toList
      | none => false
  | .attribute anySpace sought test =>
      (attributesOf place.data).any fun attr =>
        (anySpace || attr.name.space == .plain) &&
          attr.name.localName == soughtName sought name && test.holds inHtml attr.value
  | .root => place.above.isEmpty
  | .empty => holdsNothing place.children
  | .firstChild => place.previousElement?.isNone
  | .lastChild => place.nextElement?.isNone
  | .onlyChild => place.previousElement?.isNone && place.nextElement?.isNone
  | .onlyOfType => position true false place == 1 && position true true place == 1
  | .nth step offset ofType fromEnd => isTerm step offset (position ofType fromEnd place)
  | .link => isLink place.data
  | .never => false

def Simple.holds (simple : Simple) (place : Place) : Bool :=
  match simple with
  | .plain condition => condition.holds place
  | .negated conditions => !conditions.all (·.holds place)

def Combinator.related (combinator : Combinator) (place : Place) : List Place :=
  match combinator with
  | .descendant => place.ancestors.filter Place.isElement
  | .child => (place.ancestors.head?.toList).filter Place.isElement
  | .adjacent => place.previousElement?.toList
  | .sibling => place.preceding.filter Place.isElement

def Complex.holds : Complex → Place → Bool
  | .compound conditions, place => conditions.all (·.holds place)
  | .combined other combinator conditions, place =>
      conditions.all (·.holds place) && (combinator.related place).any other.holds

def selects (selector : Selector) (place : Place) : Bool :=
  place.isElement && selector.alternatives.any (·.holds place)

end Selector

/-- The elements of a document that a selector selects, in document order. -/
def Selector.select (selector : Selector) (document : Document) : List Place :=
  document.places.filter selector.selects

end MailQuote
