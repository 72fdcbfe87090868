import MailQuote.Html.Forest
import MailQuote.Text

namespace MailQuote.Html

/-- A document with the nodes around it. The document itself is the parent of
its topmost nodes and has no identifier. -/
structure Document where
  /-- the topmost nodes of the document -/
  content : Forest
  /-- rows of siblings that have no parent -/
  loose : List Forest
  /-- an identifier beyond all that are in use -/
  next : NodeId
  sound : (Forest.join (content :: loose)).Sound next
deriving DecidableEq, Repr

namespace Document

open Forest

def empty : Document := ⟨.nil, [], 0, ⟨by simp, by simp, trivial⟩⟩

def rows (document : Document) : List Forest :=
  document.content :: document.loose

def find? (document : Document) (target : NodeId) : Option Tree :=
  document.rows.findSome? (·.find? target)

theorem find?_eq_join (document : Document) (target : NodeId) :
    document.find? target = (join document.rows).find? target := by
  rw [find?]
  generalize document.rows = rows
  induction rows with
  | nil => rfl
  | cons row rows ih =>
      rw [List.findSome?_cons, join_cons, find?_append, ← ih]
      cases row.find? target <;> rfl

def erase (document : Document) (target : NodeId) : Document where
  content := document.content.erase target
  loose := (document.loose.map (·.erase target)).filter fun row => !row.isEmpty
  next := document.next
  sound := by
    rw [join_cons, join_filter_nonempty, join_map _ rfl (erase_append target),
      ← erase_append, ← join_cons]
    exact document.sound.without _

theorem join_rows_erase (document : Document) (target : NodeId) :
    join (document.erase target).rows = (join document.rows).erase target := by
  simp only [rows, erase, join_cons, join_filter_nonempty, erase_append]
  rw [join_map _ rfl (erase_append target)]

/-- A node that is found may be put back besides all others. -/
theorem sound_takeOut {document : Document} {target : NodeId} {tree : Tree}
    (found : document.find? target = some tree) :
    (join (document.erase target).rows ++ ofTree tree).Sound document.next := by
  rw [join_rows_erase]
  exact document.sound.takeOut (document.find?_eq_join target ▸ found)

/-- Takes a node out of its place. It keeps its descendants and becomes a row of
its own. -/
def detach (document : Document) (target : NodeId) : Document :=
  match found : document.find? target with
  | some tree =>
      { content := (document.erase target).content
        loose := (document.erase target).loose ++ [ofTree tree]
        next := document.next
        sound := by
          rw [← List.cons_append, join_append, join_cons _ [], join_nil, append_nil]
          exact sound_takeOut found }
  | none => document

def create (document : Document) (data : NodeData) : NodeId × Document :=
  (document.next,
    { content := document.content
      loose := document.loose ++ [.cons document.next data .nil .nil]
      next := document.next + 1
      sound := by
        rw [← List.cons_append, join_append]
        exact document.sound.extend
          ⟨by simp, by simp, .inr rfl, trivial, trivial⟩ (Nat.le_succ _) (by simp) })

def append (document : Document) (parent target : NodeId) : Document :=
  match found : document.find? target with
  | some tree =>
      let change := appendTo parent (ofTree tree)
      { content := change (document.erase target).content
        loose := (document.erase target).loose.map change
        next := document.next
        sound := by
          change (join ((document.erase target).rows.map change)).Sound document.next
          rw [join_map change rfl (appendTo_append parent (ofTree tree))]
          exact (sound_takeOut found).appendTo parent }
  | none => document

def appendTop (document : Document) (target : NodeId) : Document :=
  match found : document.find? target with
  | some tree =>
      { content := (document.erase target).content ++ ofTree tree
        loose := (document.erase target).loose
        next := document.next
        sound := by
          have sound := sound_takeOut found
          have nested := sound.wellNested
          simp only [rows, join_cons, wellNested_append] at nested ⊢
          refine sound.of_perm ?_ ((wellNested_append _ _).mpr
            ⟨(wellNested_append _ _).mpr ⟨nested.1.1, nested.2⟩, nested.1.2⟩)
          simp only [rows, join_cons, ids_append, List.append_assoc]
          exact List.perm_append_comm.append_left _ }
  | none => document

def insertBefore (document : Document) (mark target : NodeId) : Document :=
  match found : document.find? target with
  | some tree =>
      let change := Forest.insertBefore mark (ofTree tree)
      { content := change (document.erase target).content
        loose := (document.erase target).loose.map change
        next := document.next
        sound := by
          change (join ((document.erase target).rows.map change)).Sound document.next
          rw [join_map change rfl (insertBefore_append mark (ofTree tree))]
          exact (sound_takeOut found).insertBefore mark }
  | none => document

/-- Changes the data of a node, which stays an element or becomes none. -/
def modify (document : Document) (target : NodeId) (change : NodeData → NodeData)
    (same : ∀ data, (change data).isElement = data.isElement) : Document where
  content := document.content.modify target change
  loose := document.loose.map (·.modify target change)
  next := document.next
  sound := by
    change (join (document.rows.map (·.modify target change))).Sound document.next
    rw [join_map _ rfl (modify_append target change)]
    exact document.sound.modify target same

def addAttributes (document : Document) (target : NodeId) (attributes : List Attr) :
    Document :=
  document.modify target (·.addAttributes attributes) fun data => by cases data <;> rfl

def moveChildren (document : Document) (source target : NodeId) : Document :=
  match document.find? source with
  | some tree =>
      tree.children.trees.foldl (fun document child => document.append target child.id)
        document
  | none => document

def extendText? (document : Document) (node : Option Tree) (content : String) :
    Option Document :=
  match node with
  | some ⟨id, .text _, _⟩ =>
      some (document.modify id (·.extend content) fun data => by cases data <;> rfl)
  | _ => none

def appendText (document : Document) (parent : NodeId) (content : String) : Document :=
  let last := (document.find? parent).bind fun tree => tree.children.last?
  match document.extendText? last content with
  | some extended => extended
  | none =>
      let (id, document) := document.create (.text content)
      document.append parent id

def insertTextBefore (document : Document) (mark : NodeId) (content : String) : Document :=
  let previous := document.rows.findSome? (·.previous? mark)
  match document.extendText? previous content with
  | some extended => extended
  | none =>
      let (id, document) := document.create (.text content)
      document.insertBefore mark id

def hasParent (document : Document) (target : NodeId) : Bool :=
  document.rows.any fun row => row.holds target && !row.trees.any fun tree => tree.id == target

/-- The document alone, its nodes numbered in document order. -/
def settle (document : Document) : Document where
  content := (document.content.renumber 0).1
  loose := []
  next := (document.content.renumber 0).2
  sound := by
    rw [join_cons, join_nil, append_nil]
    exact document.sound.left.wellNested.sound_renumber

end Document

/-! Places of nodes: a node together with all that is around it, so that one
can go from it to its parent, its siblings and its children. -/

/-- A node above a place, and its own siblings. -/
structure Level where
  id : NodeId
  data : NodeData
  /-- the siblings before it, the nearest first -/
  before : Forest
  after : Forest
deriving DecidableEq

/-- A node with its surroundings. -/
structure Place where
  id : NodeId
  data : NodeData
  children : Forest
  /-- the siblings before it, the nearest first -/
  before : Forest
  after : Forest
  /-- the nodes above it, the nearest first -/
  above : List Level
deriving DecidableEq

/-- The places of all nodes of a row of siblings, in document order. -/
def Forest.placesIn (above : List Level) : (before : Forest) → Forest → List Place
  | _, .nil => []
  | before, .cons id data children rest =>
      ⟨id, data, children, before, rest, above⟩ ::
        (Forest.placesIn (⟨id, data, before, rest⟩ :: above) .nil children ++
          Forest.placesIn above (.cons id data children before) rest)

def Forest.places (forest : Forest) : List Place :=
  Forest.placesIn [] .nil forest

/-- The places of a row of siblings without their descendants, in order. -/
def Forest.rowIn (above : List Level) : (before : Forest) → Forest → List Place
  | _, .nil => []
  | before, .cons id data children rest =>
      ⟨id, data, children, before, rest, above⟩ ::
        Forest.rowIn above (.cons id data children before) rest

namespace Place

def tree (place : Place) : Tree :=
  ⟨place.id, place.data, place.children⟩

def level (place : Place) : Level :=
  ⟨place.id, place.data, place.before, place.after⟩

def isElement (place : Place) : Bool :=
  place.data.isElement

def text (place : Place) : List Char :=
  place.tree.text

def row (place : Place) : Forest :=
  place.before.onto (.cons place.id place.data place.children place.after)

/-- The places of the given levels, the nearest of which holds a row of nodes. -/
def ancestorsOf (children : Forest) : List Level → List Place
  | [] => []
  | level :: above =>
      ⟨level.id, level.data, children, level.before, level.after, above⟩ ::
        ancestorsOf (level.before.onto (.cons level.id level.data children level.after)) above

def ancestors (place : Place) : List Place :=
  ancestorsOf place.row place.above

def parent? (place : Place) : Option Place :=
  place.ancestors.head?

def precedingIn (above : List Level) : (before after : Forest) → List Place
  | .nil, _ => []
  | .cons id data children before, after =>
      ⟨id, data, children, before, after, above⟩ ::
        precedingIn above before (.cons id data children after)

def preceding (place : Place) : List Place :=
  precedingIn place.above place.before
    (.cons place.id place.data place.children place.after)

def following (place : Place) : List Place :=
  Forest.rowIn place.above
    (.cons place.id place.data place.children place.before) place.after

def childPlaces (place : Place) : List Place :=
  Forest.rowIn (place.level :: place.above) .nil place.children

def descendants (place : Place) : List Place :=
  Forest.placesIn (place.level :: place.above) .nil place.children

def nextElement? (place : Place) : Option Place :=
  place.following.find? isElement

def previousElement? (place : Place) : Option Place :=
  place.preceding.find? isElement

def withFollowing (place : Place) : List Place :=
  place :: place.following.filter isElement

def childElements (place : Place) : List Place :=
  place.childPlaces.filter isElement

/-- The position of the node among its siblings, and before it those of the
nodes above, from the topmost on. -/
def path (place : Place) : List Nat :=
  (place.above.map fun level => level.before.width).reverse ++ [place.before.width]

end Place

namespace Document

/-- The places of all nodes of the document, in document order. -/
def places (document : Document) : List Place :=
  document.content.places

def place? (document : Document) (target : NodeId) : Option Place :=
  document.rows.findSome? fun row => row.places.find? fun place => place.id == target

def isAttached (document : Document) (target : NodeId) : Bool :=
  document.content.holds target

end Document

def voidNames : List String :=
  ["area", "base", "br", "col", "embed", "hr", "img", "input", "link", "meta", "param",
    "source", "track", "wbr"]

namespace NodeData

def tagName? (data : NodeData) : Option String :=
  data.name?.map fun name => lowerAscii name.localName

def attribute? (name : String) : NodeData → Option String
  | .element _ attributes => Attr.find? ⟨.plain, name⟩ attributes
  | _ => none

def hasClass (data : NodeData) (name : String) : Bool :=
  match data.attribute? "class" with
  | some classes => (Text.words classes.toList).contains name.toList
  | none => false

def isVoid (data : NodeData) : Bool :=
  match data.tagName? with
  | some name => voidNames.contains name
  | none => false

def isCitation (data : NodeData) : Bool :=
  data.tagName? == some "blockquote" &&
    match data.attribute? "type" with
    | some value => sameAscii value "cite"
    | none => false

end NodeData

def Forest.hasElement : Forest → Bool
  | .nil => false
  | .cons _ data _ rest => data.isElement || rest.hasElement

def Forest.hasCitation : Forest → Bool
  | .nil => false
  | .cons _ data children rest =>
      data.isCitation || children.hasCitation || rest.hasCitation

def Tree.hasCitation (tree : Tree) : Bool :=
  tree.data.isCitation || tree.children.hasCitation

/-! Writing nodes as HTML text. -/

def unclosedNames : List String :=
  ["area", "base", "basefont", "bgsound", "br", "col", "embed", "frame", "hr", "img",
    "input", "keygen", "link", "meta", "param", "source", "track", "wbr"]

def rawNames : List String :=
  ["style", "script", "xmp", "iframe", "noembed", "noframes", "plaintext", "noscript"]

def Name.isUnclosed (name : Name) : Bool :=
  name.space == .html && unclosedNames.contains name.localName

def Name.isRaw (name : Name) : Bool :=
  name.space == .html && rawNames.contains name.localName

def escapeText (c : Char) : List Char :=
  if c = '&' then ['&', 'a', 'm', 'p', ';']
  else if c = '\u00a0' then ['&', 'n', 'b', 's', 'p', ';']
  else if c = '<' then ['&', 'l', 't', ';']
  else if c = '>' then ['&', 'g', 't', ';']
  else [c]

def escapeValue (c : Char) : List Char :=
  if c = '&' then ['&', 'a', 'm', 'p', ';']
  else if c = '\u00a0' then ['&', 'n', 'b', 's', 'p', ';']
  else if c = '"' then ['&', 'q', 'u', 'o', 't', ';']
  else [c]

def renderText (content : String) : String :=
  String.ofList (content.toList.flatMap escapeText)

def renderValue (content : String) : String :=
  String.ofList (content.toList.flatMap escapeValue)

def AttrName.render (name : AttrName) : String :=
  match name.space with
  | .plain => name.localName
  | .xlink => "xlink:" ++ name.localName
  | .xml => "xml:" ++ name.localName
  | .xmlns => if name.localName = "xmlns" then "xmlns" else "xmlns:" ++ name.localName

def Attr.render (attr : Attr) : String :=
  " " ++ attr.name.render ++ "=\"" ++ renderValue attr.value ++ "\""

def renderAttributes : List Attr → String
  | [] => ""
  | attr :: others => attr.render ++ renderAttributes others

def startTag (name : Name) (attributes : List Attr) : String :=
  "<" ++ name.localName ++ renderAttributes attributes ++ ">"

def endTag (name : Name) : String :=
  "</" ++ name.localName ++ ">"

namespace Forest

/-- Sibling nodes as HTML text. Text is written as it is where `raw` is set,
and elements are left out where `bare` is set. -/
def renderIn : (raw bare : Bool) → Forest → String
  | _, _, .nil => ""
  | raw, bare, .cons _ (.text content) _ rest =>
      (if raw then content else renderText content) ++ rest.renderIn raw bare
  | raw, bare, .cons _ (.comment content) _ rest =>
      "<!--" ++ content ++ "-->" ++ rest.renderIn raw bare
  | raw, bare, .cons _ (.doctype name) _ rest =>
      "<!DOCTYPE " ++ name ++ ">" ++ rest.renderIn raw bare
  | raw, bare, .cons _ (.element name attributes) children rest =>
      let inside := children.renderIn name.isRaw (bare || name.isUnclosed)
      (if bare then inside
        else if name.isUnclosed then startTag name attributes ++ inside
        else startTag name attributes ++ inside ++ endTag name) ++
        rest.renderIn raw bare

def render (forest : Forest) : String :=
  forest.renderIn false false

end Forest

def Tree.render (tree : Tree) : String :=
  (Forest.ofTree tree).render

def Forest.named? (localName : String) : Forest → Option Tree
  | .nil => none
  | .cons id data children rest =>
      if data.name?.any fun name => name.localName == localName then
        some ⟨id, data, children⟩
      else
        match children.named? localName with
        | some found => some found
        | none => rest.named? localName

def Forest.elementIds : Forest → List NodeId
  | .nil => []
  | .cons id data children rest =>
      (if data.isElement then [id] else []) ++ (children.elementIds ++ rest.elementIds)

namespace Document

def body? (document : Document) : Option Tree :=
  document.content.named? "body"

def bodyContent (document : Document) : Forest :=
  match document.body? with
  | some body => body.children
  | none => document.content

def bodyElements (document : Document) : List NodeId :=
  document.bodyContent.elementIds

def renderBody (document : Document) : String :=
  document.bodyContent.render

end Document

end MailQuote.Html
