import MailQuote.Collect

namespace MailQuote

open Html

/-- Whether an element holds neither elements nor text. Elements that hold
nothing by their nature do not count. -/
def Html.NodeData.isLeftEmpty (data : NodeData) (children : Forest) : Bool :=
  data.isElement && !data.isVoid && !children.hasElement && Text.allBlank children.text

namespace Html.Document

def detachAll (document : Document) (nodes : List NodeId) : Document :=
  nodes.foldl detach document

def isLeftEmpty (document : Document) (node : NodeId) : Bool :=
  match document.find? node with
  | some tree => tree.data.isLeftEmpty tree.children
  | none => false

/-- Takes a node out of its place and counts it, if it is an empty element. -/
def sweepNode (swept : Nat × Document) (node : NodeId) : Nat × Document :=
  if swept.2.isLeftEmpty node then (swept.1 + 1, swept.2.detach node) else swept

/-- Sweeps the elements that are in the body at the start, in document order. An
element that becomes empty only because others are taken out of it stays, as it
was looked at before them. -/
def sweepBody (document : Document) : Nat × Document :=
  document.bodyElements.foldl sweepNode (0, document)

/-- Sweeps a given number of times at most, and stops when nothing is swept any
more. -/
def sweepRounds : (rounds : Nat) → Document → Nat × Document
  | 0, document => (0, document)
  | rounds + 1, document =>
      match document.sweepBody with
      | (0, kept) => (0, kept)
      | (count, kept) =>
          let (others, final) := sweepRounds rounds kept
          (count + others, final)

/-- Sweeps until nothing is swept any more. Each round but the last takes away an
element, which bounds their number. -/
def sweepBodyFully (document : Document) : Nat × Document :=
  sweepRounds (document.bodyElements.length + 1) document

/-- The document without the members of a set and without what they leave
empty. -/
def remove (document : Document) (set : NodeSet) : Document :=
  ((document.detachAll set.members).sweepBody).2

end Html.Document

namespace Wrapping

/-- Whether a node may stand between two quotes that are folded away together:
a quote, or a node without text that is no element. -/
def bridges (set : NodeSet) (id : NodeId) (data : NodeData) : Bool :=
  if data.isElement then set.contains id else Text.allBlank data.ownText

/-- Whether a node is reached over nodes that stand between quotes. -/
def reaches (set : NodeSet) (target : NodeId) : Forest → Bool
  | .nil => false
  | .cons id data _ rest =>
      if id = target then true
      else if bridges set id data then reaches set target rest
      else false

def continues (document : Document) (set : NodeSet) (previous next : NodeId) : Bool :=
  match document.place? previous with
  | some place => reaches set next place.after
  | none => false

/-- The runs of quotes that are folded away together: each quote but the first
of a run continues the one before it. -/
def groups (document : Document) (set : NodeSet) : List (List NodeId) :=
  set.members.splitBy (continues document set)

def disclosureClass : String := "quoted-content"

def disclosureData : NodeData :=
  .element ⟨.html, "details"⟩ [⟨⟨.plain, "class"⟩, disclosureClass⟩]

def summaryData : NodeData :=
  .element ⟨.html, "summary"⟩ []

def summary (container : NodeId) (label : String) : Forest :=
  .cons (container + 1) summaryData (.cons (container + 2) (.text label) .nil .nil) .nil

/-- A disclosure without quotes, whose nodes are numbered from a given one on. -/
def disclosure (first : NodeId) (label : String) : Forest :=
  .cons first disclosureData (summary first label) .nil

private theorem sound_disclosure (first : NodeId) (label : String) :
    (disclosure first label).Sound (first + 3) := by
  refine ⟨by simp [disclosure, summary], by simp [disclosure, summary], ?_⟩
  exact ⟨.inl rfl, ⟨.inl rfl, ⟨.inr rfl, trivial, trivial⟩, trivial⟩, trivial⟩

end Wrapping

namespace Html.Document

def addDisclosure (document : Document) (label : String) : NodeId × Document :=
  (document.next,
    { content := document.content
      loose := document.loose ++ [Wrapping.disclosure document.next label]
      next := document.next + 3
      sound := by
        rw [← List.cons_append, Forest.join_append, Forest.join_cons _ [],
          Forest.join_nil, Forest.append_nil]
        exact document.sound.extend (Wrapping.sound_disclosure _ _)
          (Nat.le_add_right _ _) (by simp [Wrapping.disclosure, Wrapping.summary]) })

def wrapGroup (label : String) (document : Document) : List NodeId → Document
  | [] => document
  | first :: others =>
      let (container, document) := document.addDisclosure label
      (first :: others).foldl (·.append container ·) (document.insertBefore first container)

def wrap (document : Document) (set : NodeSet) (label : String) : Document :=
  (Wrapping.groups document set).foldl (wrapGroup label) document

end Html.Document

def Html.Document.apply (document : Document) (set : NodeSet) (mode : Mode)
    (label : String) : Document :=
  match mode with
  | .remove => document.remove set
  | .wrap => document.wrap set label

def applyEvents (document : Document) (set : NodeSet) (mode : Mode) : List Event :=
  match mode with
  | .remove =>
      let swept := (document.detachAll set.members).sweepBody.1
      [⟨.debug, s!"Removed {set.size} quote element(s), swept {swept} empty"⟩]
  | .wrap =>
      let groups := (Wrapping.groups document set).length
      [⟨.debug, s!"Wrapping {set.size} quote element(s) in {groups} group(s)"⟩]

end MailQuote
