import MailQuote.Marker
import MailQuote.Selector.Parse

namespace MailQuote

open Html

/-- A set of nodes in the order in which they were inserted. -/
structure NodeSet where
  members : List NodeId
  /-- the members once more, in any order, to look them up -/
  keys : List NodeId
  distinct : members.Nodup
  keyed : ∀ node, node ∈ keys ↔ node ∈ members
deriving DecidableEq

namespace NodeSet

def empty : NodeSet := ⟨[], [], .nil, fun _ => .rfl⟩

def contains (set : NodeSet) (node : NodeId) : Bool :=
  set.keys.contains node

@[simp] theorem contains_iff (set : NodeSet) (node : NodeId) :
    set.contains node = true ↔ node ∈ set.members := by
  rw [contains, List.contains_iff_mem, set.keyed]

def size (set : NodeSet) : Nat :=
  set.members.length

def isEmpty (set : NodeSet) : Bool :=
  set.members.isEmpty

/-- The set with one more member, the last one unless it was there already. -/
def insert (set : NodeSet) (node : NodeId) : NodeSet :=
  if known : set.contains node = true then set
  else
    { members := set.members ++ [node]
      keys := node :: set.keys
      distinct := by
        have absent : node ∉ set.members := mt (set.contains_iff node).mpr known
        rw [List.nodup_append]
        refine ⟨set.distinct, by simp, fun member inside other outside equality => ?_⟩
        rw [List.mem_singleton.mp outside] at equality
        exact absent (equality ▸ inside)
      keyed := fun other => by simp [set.keyed, or_comm] }

/-- Whether a node is no member yet, and the set with it. -/
def insertNew (set : NodeSet) (node : NodeId) : Bool × NodeSet :=
  (!set.contains node, set.insert node)

def insertAll (set : NodeSet) (nodes : List NodeId) : NodeSet :=
  nodes.foldl insert set

/-- The nodes that are kept and those that are not, where the answer for a node
may depend on what was asked before it. -/
def sift (keep : σ → NodeId → Bool × σ) : σ → List NodeId → List NodeId × List NodeId
  | _, [] => ([], [])
  | state, node :: others =>
      let (kept, dropped) := sift keep (keep state node).2 others
      if (keep state node).1 then (node :: kept, dropped) else (kept, node :: dropped)

private theorem sift_perm (keep : σ → NodeId → Bool × σ) (state : σ) (nodes : List NodeId) :
    nodes.Perm ((sift keep state nodes).1 ++ (sift keep state nodes).2) := by
  induction nodes generalizing state with
  | nil => exact .nil
  | cons node others ih =>
      simp only [sift]
      split
      · exact (ih _).cons node
      · exact ((ih _).cons node).trans List.perm_middle.symm

/-- The members that are to be kept, where the answer for a member may depend on
what was asked before it. -/
def retainFrom (set : NodeSet) (keep : σ → NodeId → Bool × σ) (state : σ) : NodeSet where
  members := (sift keep state set.members).1
  keys := set.keys.filter fun node => !(sift keep state set.members).2.contains node
  distinct := ((sift_perm keep state set.members).nodup set.distinct).sublist
    (List.sublist_append_left _ _)
  keyed := fun node => by
    have perm := sift_perm keep state set.members
    have apart := (List.nodup_append.mp (perm.nodup set.distinct)).2.2
    simp only [List.mem_filter, set.keyed, Bool.not_eq_true', List.contains_eq_mem,
      decide_eq_false_iff_not]
    constructor
    · intro ⟨member, notDropped⟩
      exact (List.mem_append.mp (perm.subset member)).resolve_right notDropped
    · intro kept
      exact ⟨perm.symm.subset (List.mem_append_left _ kept),
        fun dropped => apart node kept node dropped rfl⟩

def retain (set : NodeSet) (keep : NodeId → Bool) : NodeSet :=
  set.retainFrom (fun state node => (keep node, state)) ()

def depthOf (set : NodeSet) (place : Place) : Nat :=
  place.above.countP fun level => set.contains level.id

def depthIn (set : NodeSet) (document : Document) (node : NodeId) : Nat :=
  match document.place? node with
  | some place => set.depthOf place
  | none => 0

/-- The members in document order. Members outside of the document come last,
in the order that they had. -/
def sort (set : NodeSet) (document : Document) : NodeSet :=
  let order := document.content.ids
  { set with
    members := set.members.mergeSort fun first second =>
      order.idxOf first ≤ order.idxOf second
    distinct := (List.mergeSort_perm _ _).nodup_iff.mpr set.distinct
    keyed := fun node => by rw [set.keyed, List.mem_mergeSort] }

end NodeSet

/-- What becomes of an element that a handler's selector selects. -/
inductive Rule where
  /-- the element is a quote -/
  | select
  /-- the elements that the function gives are quotes -/
  | refine (elements : Place → List Place)

/-- How the quotes of one mail program are recognized. -/
structure Handler where
  name : String
  selector : String
  rule : Rule

namespace Handler

def resolve (handler : Handler) (place : Place) : List Place :=
  match handler.rule with
  | .select => [place]
  | .refine elements => elements place

/-- The elements that a handler's selector selects, if it is one. -/
def matched? (handler : Handler) (document : Document) : Option (List Place) :=
  (Selector.parse? handler.selector).map (·.select document)

def find (handler : Handler) (document : Document) : Except Failure (List Place) :=
  match handler.matched? document with
  | some places => .ok (places.flatMap handler.resolve)
  | none => .error (.invalidSelector handler.name handler.selector)

def gmailClass : String := "gmail_quote"

/-- Outlook's header division: the rule drawn above it, the division itself, and
all elements that follow it. -/
def outlookDesktop (marker : Place) : List Place :=
  let rule :=
    match marker.previousElement? with
    | some previous => if previous.data.tagName? = some "hr" then [previous] else []
    | none => []
  rule ++ marker.withFollowing

/-- Gmail's container stands for the whole quote. The block quotation directly
inside it is not counted again. -/
def gmail (quote : Place) : List Place :=
  let inside := quote.parent?.any fun parent => parent.data.hasClass gmailClass
  if quote.data.tagName? = some "blockquote" ∧ inside then [] else [quote]

def gmailAttribution (line : Place) : List Place :=
  if line.ancestors.any fun ancestor => ancestor.data.hasClass gmailClass then []
  else [line]

/-- Thunderbird's cite prefix counts only if the citation follows it. -/
def thunderbird (line : Place) : List Place :=
  match line.nextElement? with
  | some quote => if quote.data.isCitation then [line, quote] else []
  | none => []

/-- A citation continues a quote if the element before it is or holds a citation
itself. -/
def citationAfterCitation (quote : Place) : List Place :=
  match quote.previousElement? with
  | some previous => if previous.tree.hasCitation then [previous, quote] else []
  | none => []

/-- A block quotation counts if its text opens with a marker. -/
def introduced (quote : Place) : List Place :=
  if Marker.opens quote.text then [quote] else []

def outlookWebSelector : String :=
  "div[style*=\"border-top:solid #E1E1E1\"], div[style*=\"border-top: solid #E1E1E1\"], " ++
    "div[style*=\"border-top:solid #B5C4DF\"]"

def appleMailSelector : String :=
  ".apple-mail-modern blockquote[type=\"cite\"], " ++
    "body[class*=\"apple-mail\"] blockquote[type=\"cite\"]"

def builtin : List Handler := [
  ⟨"gmail", ".gmail_quote", .refine gmail⟩,
  ⟨"gmail_attr", ".gmail_attr", .refine gmailAttribution⟩,
  ⟨"outlook_desktop", "#divRplyFwdMsg", .refine outlookDesktop⟩,
  ⟨"outlook_append_on_send", "#appendonsend", .refine Place.withFollowing⟩,
  ⟨"outlook_web", outlookWebSelector, .refine Place.withFollowing⟩,
  ⟨"outlook_mobile", "#mail-editor-reference-message-container", .select⟩,
  ⟨"outlook_legacy", ".OutlookMessageHeader", .select⟩,
  ⟨"thunderbird", ".moz-cite-prefix", .refine thunderbird⟩,
  ⟨"thunderbird_forward", ".moz-forward-container", .select⟩,
  ⟨"apple_mail", appleMailSelector, .select⟩,
  ⟨"yahoo", ".yahoo_quoted[id*=\"yahoo_quoted\"]", .select⟩,
  ⟨"protonmail", ".protonmail_quote", .select⟩,
  ⟨"zoho", ".zmail_extra", .select⟩,
  ⟨"cite_after_cite", "blockquote[type=\"cite\"]", .refine citationAfterCitation⟩,
  ⟨"preamble_blockquote", "blockquote", .refine introduced⟩]

end Handler

namespace Collect

def found (document : Document) (handler : Handler) : List NodeId :=
  match handler.find document with
  | .ok places => places.map Place.id
  | .error _ => []

def candidates (document : Document) (handlers : List Handler) : NodeSet :=
  NodeSet.empty.insertAll (handlers.flatMap (found document))

def isForward (document : Document) (node : NodeId) : Bool :=
  match document.find? node with
  | some tree => Marker.isForward tree.text
  | none => false

def eligible (document : Document) (handlers : List Handler) (options : Options) : NodeSet :=
  let all := candidates document handlers
  if options.ignoreFirstForward then all.retain fun node => !isForward document node
  else all

/-- Whether the next of some depths is allowed, and the depths after it. -/
def nextAllowed (depth : Depth) (depths : List Nat) (_ : NodeId) : Bool × List Nat :=
  match depths with
  | [] => (false, [])
  | ancestors :: others => (depth.allows ancestors, others)

/-- The candidates that are not nested too deep. The depths of all of them are
found before the first one is dropped. -/
def withinDepth (document : Document) (set : NodeSet) (depth : Depth) : NodeSet :=
  set.retainFrom (nextAllowed depth) (set.members.map (set.depthIn document))

end Collect

def collect (document : Document) (handlers : List Handler) (options : Options) : NodeSet :=
  let eligible := Collect.eligible document handlers options
  (Collect.withinDepth document eligible options.depth).sort document

namespace Collect

def handlerEvent (document : Document) (handler : Handler) : Event :=
  match handler.find document with
  | .ok places => ⟨.trace, s!"Handler {handler.name} matched {places.length} element(s)"⟩
  | .error failure => ⟨.warn, s!"Skipping handler: {failure.message}"⟩

def events (document : Document) (handlers : List Handler) (options : Options) : List Event :=
  let chosen := (collect document handlers options).size
  let total := (candidates document handlers).size
  let counts := s!"{chosen} quote element(s) from {total} candidate(s)"
  handlers.map (handlerEvent document) ++
    [⟨.debug, s!"Collected {counts}, depth {options.depth.text}"⟩]

end Collect

end MailQuote
