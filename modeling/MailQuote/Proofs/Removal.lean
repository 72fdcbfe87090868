import MailQuote.Apply
import MailQuote.Proofs.Forest.Body

namespace MailQuote

open Html

namespace Html.Forest

/-- Whether a node is an empty element of a forest. -/
def isLeftEmpty (forest : Forest) (node : NodeId) : Bool :=
  match forest.find? node with
  | some tree => tree.data.isLeftEmpty tree.children
  | none => false

theorem mem_elementIds_of_isLeftEmpty {forest : Forest} {node : NodeId}
    (empty : forest.isLeftEmpty node = true) : node ∈ forest.elementIds := by
  unfold isLeftEmpty at empty
  split at empty
  · next tree found =>
      obtain ⟨⟨upper, known⟩, _⟩ := nodes_of_find? found none
      simp only [NodeData.isLeftEmpty, Bool.and_eq_true] at empty
      exact (mem_elementIds none).mpr ⟨_, known, empty.1.1.1, rfl⟩
  · cases empty

private theorem nodes_of_no_element {forest : Forest} (nested : forest.WellNested)
    (none : forest.hasElement = false) {parent : Option NodeId} {node : Node}
    (member : node ∈ forest.nodes parent) :
    node.parent = parent ∧ node.data.isElement = false := by
  induction forest with
  | nil => simp [nodes] at member
  | cons id data children rest _ ihRest =>
      obtain ⟨holder, _, after⟩ := nested
      simp only [hasElement, Bool.or_eq_false_iff] at none
      have childless : children = .nil := holder.resolve_left (by simp [none.1])
      simp only [childless, nodes, List.nil_append, List.mem_cons] at member
      rcases member with rfl | later
      · exact ⟨rfl, none.1⟩
      · exact ihRest after none.2 later

/-- What lies below an empty element are children of it that are no elements. -/
theorem below_isLeftEmpty {forest : Forest} {next : NodeId} (sound : forest.Sound next)
    {parent : Option NodeId} {upper : NodeId} {node : Node}
    (member : node ∈ forest.nodes parent) (above : upper ∈ forest.ancestors node.id)
    (empty : forest.isLeftEmpty upper = true) :
    node.parent = some upper ∧ node.data.isElement = false := by
  obtain ⟨tree, found, below⟩ := (mem_ancestors sound.distinct).mp above
  obtain ⟨other, known, same⟩ := (mem_ids_iff_nodes (some upper)).mp below
  have equality := nodes_unique sound.distinct
    ((nodes_of_find? found parent).2 known) member same
  rw [isLeftEmpty, found] at empty
  simp only [NodeData.isLeftEmpty, Bool.and_eq_true, Bool.not_eq_true'] at empty
  exact equality ▸ nodes_of_no_element (sound.wellNested.find? found).2.1 empty.1.2 known

end Html.Forest

namespace Html.Document

open Forest

variable (document : Document)

private theorem content_detach (target : NodeId) :
    (document.detach target).content = document.content.erase target := by
  unfold detach
  split
  · rfl
  · next absent =>
      rw [find?_eq_join, find?_eq_none, rows, join_cons, ids_append, List.mem_append,
        not_or] at absent
      exact (erase_eq_self absent.1).symm

/-- Taking nodes out one after another takes out all of them, in any order. -/
theorem content_detachAll (nodes : List NodeId) :
    (document.detachAll nodes).content = document.content.without nodes.contains := by
  induction nodes generalizing document with
  | nil => exact (without_eq_self fun _ _ => rfl).symm
  | cons first others ih =>
      rw [detachAll, List.foldl_cons, ← detachAll, ih, content_detach, Forest.erase,
        without_without]
      exact without_congr fun id _ => by rw [List.contains_cons, BEq.comm]

theorem isLeftEmpty_of_mem {node : NodeId} (member : node ∈ document.content.ids) :
    document.isLeftEmpty node = document.content.isLeftEmpty node := by
  obtain ⟨tree, found⟩ := exists_find? member
  rw [isLeftEmpty, Forest.isLeftEmpty, document.find?_of_content found, found]

end Html.Document

section Sweep

open Forest

variable {forest : Forest} {next : NodeId}

/-- The sweep comes to an element when it has taken out some of those before it.
Neither is the element gone, nor is anything below it. -/
theorem isLeftEmpty_before_sweep (sound : forest.Sound next)
    {earlier later : List NodeId} {node : NodeId}
    (order : (earlier ++ node :: later).Sublist forest.elementIds) :
    let kept := forest.without fun id => earlier.contains id && forest.isLeftEmpty id
    node ∈ kept.ids ∧ kept.isLeftEmpty node = forest.isLeftEmpty node := by
  intro kept
  have distinct := sound.distinct
  have whole := order.trans (elementIds_sublist_ids forest)
  have fresh : node ∉ earlier := by
    have split := List.nodup_append.mp (whole.nodup distinct)
    exact fun known => split.2.2 node known node (.head _) rfl
  have element : node ∈ forest.elementIds := order.subset (by simp)
  obtain ⟨stands, atPlace, equality⟩ := (mem_elementIds none).mp element
  have member : node ∈ forest.ids := (elementIds_sublist_ids forest).subset element
  obtain ⟨tree, found⟩ := exists_find? member
  have stays : node ∈ kept.ids := by
    refine (mem_ids_without distinct).mpr ⟨member, by simp [fresh], fun upper above => ?_⟩
    by_contra dropped
    rw [Bool.not_eq_false, Bool.and_eq_true] at dropped
    have leaf := below_isLeftEmpty sound atPlace (equality.2 ▸ above) dropped.2
    exact absurd equality.1 (by simp [leaf.2])
  -- The elements before this one come before all that is below it.
  have untouched : tree.children.without
      (fun id => earlier.contains id && forest.isLeftEmpty id) = tree.children := by
    refine without_eq_self fun id below => ?_
    obtain ⟨before, after, split⟩ := ids_split_of_find? found
    have isAfter : Precedes forest.ids node id := by
      simp [split, Precedes.append_iff, Precedes.cons_iff, below]
    have notEarlier : id ∉ earlier := fun known =>
      isAfter.asymm distinct (Precedes.mono
        (Precedes.append_iff.mpr (.inr (.inl ⟨known, .head _⟩))) whole)
    simp [notEarlier]
  refine ⟨stays, ?_⟩
  rw [Forest.isLeftEmpty, find?_without distinct found stays, Forest.isLeftEmpty, found]
  simp only [untouched]

/-- Whatever of the elements has been swept, sweeping the others comes to what
taking out all that are empty at the start comes to. -/
theorem content_foldl_sweepNode (sound : forest.Sound next) (later earlier : List NodeId)
    (order : (earlier ++ later).Sublist forest.elementIds) (swept : Nat × Document)
    (stands : swept.2.content =
      forest.without fun id => earlier.contains id && forest.isLeftEmpty id) :
    (later.foldl Document.sweepNode swept).2.content =
        forest.without fun id => (earlier ++ later).contains id && forest.isLeftEmpty id := by
  induction later generalizing earlier swept with
  | nil => simpa using stands
  | cons node later ih =>
      obtain ⟨member, empty⟩ := isLeftEmpty_before_sweep sound order
      rw [← stands] at member empty
      rw [List.foldl_cons, List.append_cons]
      refine ih (earlier ++ [node]) (by rwa [← List.append_cons]) _ ?_
      rw [Document.sweepNode, Document.isLeftEmpty_of_mem _ member, empty]
      split
      · next dropped =>
          rw [Document.content_detach, stands, Forest.erase, without_without]
          refine without_congr fun id _ => ?_
          by_cases here : id = node <;> simp [here, dropped]
      · next kept =>
          rw [stands]
          refine without_congr fun id _ => ?_
          by_cases here : id = node <;> simp [here, kept]

end Sweep

namespace Html.Document

/-- The sweep takes out of the body just the elements that are empty before it. -/
theorem content_sweepBody (document : Document) :
    document.sweepBody.2.content = document.content.without fun id =>
      document.bodyElements.contains id && document.content.isLeftEmpty id :=
  content_foldl_sweepNode document.content_sound document.bodyElements []
    (by simpa using document.bodyElements_sublist) (0, document)
    (Forest.without_eq_self fun _ _ => rfl).symm

theorem content_sweepBody_congr {first second : Document}
    (same : first.content = second.content) :
    first.sweepBody.2.content = second.sweepBody.2.content := by
  rw [content_sweepBody, content_sweepBody, bodyElements_congr same, same]

end Html.Document

namespace Removal

open Forest

/-- Whether a node lies below the body of a forest and is an empty element. -/
def IsSwept (kept : Forest) (body node : NodeId) : Prop :=
  body ∈ kept.ancestors node ∧
    ∃ tree, kept.find? node = some tree ∧ tree.data.isElement = true ∧
      tree.data.isVoid = false ∧ tree.children.hasElement = false ∧
        Text.allBlank tree.children.text = true

private theorem isSwept_iff {kept : Forest} {body node : NodeId} :
    IsSwept kept body node ↔
      body ∈ kept.ancestors node ∧ kept.isLeftEmpty node = true := by
  unfold IsSwept Forest.isLeftEmpty NodeData.isLeftEmpty
  cases kept.find? node <;> simp [and_assoc]

variable {document : Document} {set : NodeSet} {body : Tree}

theorem body_stays (named : document.body? = some body) (apart : body.id ∉ set.members)
    (above : ∀ upper ∈ document.content.ancestors body.id, upper ∉ set.members) :
    body.id ∈ (document.content.without set.members.contains).ids := by
  have distinct := document.content_distinct
  refine (mem_ids_without distinct).mpr
    ⟨mem_of_find? (find?_of_named? distinct named), by simpa using apart, ?_⟩
  simpa using above

/-- What the sweep takes out of a document whose quotes are gone. -/
theorem content_remove (named : document.body? = some body)
    (apart : body.id ∉ set.members)
    (above : ∀ upper ∈ document.content.ancestors body.id, upper ∉ set.members) :
    ∃ drop : NodeId → Bool,
      (document.remove set).content =
        (document.content.without set.members.contains).without drop ∧
      ∀ node, drop node = true ↔
        IsSwept (document.content.without set.members.contains) body.id node := by
  have distinct := document.content_distinct
  have stays := body_stays named apart above
  have named' := named?_without distinct named stays
  refine ⟨fun id => (document.detachAll set.members).bodyElements.contains id &&
    (document.content.without set.members.contains).isLeftEmpty id, ?_, fun node => ?_⟩
  · rw [Document.remove, Document.content_sweepBody, Document.content_detachAll]
  · have found := find?_without distinct (find?_of_named? distinct named) stays
    have content := document.content_detachAll set.members
    have elements : (document.detachAll set.members).bodyElements =
        (body.children.without set.members.contains).elementIds := by
      rw [Document.bodyElements, Document.bodyContent, Document.body?, content, named']
    rw [isSwept_iff, elements, Bool.and_eq_true, List.contains_iff_mem]
    refine and_congr_left fun empty => ?_
    have distinct' := (ids_without_sublist set.members.contains _).nodup distinct
    rw [mem_elementIds_of_find? distinct' found, mem_ancestors distinct', found]
    simp [mem_elementIds_of_isLeftEmpty empty]

/-- The sweep leaves the body, as no swept element is the body or above it. -/
theorem named?_sweep (named : document.body? = some body) (apart : body.id ∉ set.members)
    (above : ∀ upper ∈ document.content.ancestors body.id, upper ∉ set.members)
    {drop : NodeId → Bool}
    (swept : ∀ node, drop node = true ↔
      IsSwept (document.content.without set.members.contains) body.id node) :
    (((document.content.without set.members.contains).without drop).named? "body").map
      Tree.id = some body.id := by
  have known := body_stays named apart above
  have distinct := (document.content_sound.without set.members.contains).distinct
  have notSwept {node : NodeId}
      (free : body.id ∉ (document.content.without set.members.contains).ancestors node) :
      drop node = false := by
    rw [← Bool.not_eq_true, swept]
    exact fun isSwept => free isSwept.1
  have remains : body.id ∈
      ((document.content.without set.members.contains).without drop).ids := by
    refine (mem_ids_without distinct).mpr
      ⟨known, notSwept (not_mem_ancestors_self distinct), fun upper isAbove => ?_⟩
    refine notSwept fun below => ?_
    have self := (ancestors_isPrefix distinct isAbove).subset (List.mem_append_left _ below)
    exact not_mem_ancestors_self distinct self
  have named' := named?_without document.content_distinct named known
  rw [named?_without distinct named' remains]
  rfl

/-- After the quotes are removed there is still a body, and a node stays just if
it is not in a quote and neither it nor its parent is an element below the body
that the document without the quotes has empty. The nodes that stay keep their
parents and their order. An element that is not empty before the sweep stays,
whatever the sweep takes out of it. -/
theorem mem_nodes_remove (document : Document) (set : NodeSet) (label : String)
    (body : Tree) (named : document.body? = some body) (apart : body.id ∉ set.members)
    (above : ∀ upper ∈ document.content.ancestors body.id, upper ∉ set.members) :
    let kept := document.content.without set.members.contains
    let result := (document.apply set .remove label).content
    (∀ node, node ∈ result.nodes none ↔ node ∈ kept.nodes none ∧
      ¬ IsSwept kept body.id node.id ∧
      ∀ parent, node.parent = some parent → ¬ IsSwept kept body.id parent) ∧
    (result.nodes none).Sublist (document.content.nodes none) ∧
    (∀ node ∈ kept.elementIds, ¬ IsSwept kept body.id node → node ∈ result.elementIds) ∧
    (result.named? "body").map Tree.id = some body.id := by
  intro kept result
  obtain ⟨drop, equality, swept⟩ := content_remove named apart above
  have sound := document.content_sound.without set.members.contains
  have equality : result = kept.without drop := equality
  have stays (node : Node) : node ∈ result.nodes none ↔ node ∈ kept.nodes none ∧
      drop node.id = false ∧ ∀ upper ∈ kept.ancestors node.id, drop upper = false := by
    rw [equality]
    exact mem_nodes_without sound.distinct
  simp only [← Bool.not_eq_true, swept] at stays
  refine ⟨fun node => ?exact, ?sublist, fun node element notSwept => ?elements, ?body⟩
  case exact =>
    rw [stays]
    refine and_congr_right fun member => and_congr_right fun _ => ?_
    constructor
    · intro none parent isParent
      exact none parent
        ((parent_mem_ancestors sound.distinct member isParent).resolve_left nofun)
    · intro none upper isAbove isSwept
      have leaf := below_isLeftEmpty sound member isAbove (isSwept_iff.mp isSwept).2
      exact none upper leaf.1 isSwept
  case sublist =>
    rw [equality]
    exact (nodes_without_sublist _ _ _).trans (nodes_without_sublist _ _ _)
  case elements =>
    obtain ⟨stands, member, isElement, rfl⟩ := (mem_elementIds none).mp element
    refine (mem_elementIds none).mpr ⟨stands, (stays stands).mpr ⟨member, notSwept, ?_⟩,
      isElement, rfl⟩
    intro upper isAbove isSwept
    have leaf := below_isLeftEmpty sound member isAbove (isSwept_iff.mp isSwept).2
    exact absurd isElement (by simp [leaf.2])
  case body =>
    rw [equality]
    exact named?_sweep named apart above swept

/-- A document with a paragraph that only an empty element keeps from being empty,
and with a quote after it. -/
def sample : Document where
  content :=
    .cons 0 (.element ⟨.html, "html"⟩ []) (.cons 1 (.element ⟨.html, "body"⟩ [])
      (.cons 2 (.element ⟨.html, "p"⟩ [])
        (.cons 3 (.element ⟨.html, "b"⟩ []) (.cons 4 (.text " ") .nil .nil) .nil)
        (.cons 5 (.element ⟨.html, "blockquote"⟩ []) (.cons 6 (.text "old") .nil .nil) .nil))
      .nil) .nil
  loose := []
  next := 7
  sound := ⟨by decide, by decide, by decide⟩

theorem mem_nodes_remove_sample :
    let body : Tree := ⟨1, .element ⟨.html, "body"⟩ [],
      .cons 2 (.element ⟨.html, "p"⟩ [])
        (.cons 3 (.element ⟨.html, "b"⟩ []) (.cons 4 (.text " ") .nil .nil) .nil)
        (.cons 5 (.element ⟨.html, "blockquote"⟩ []) (.cons 6 (.text "old") .nil .nil) .nil)⟩
    let set := NodeSet.empty.insert 5
    let result := (sample.apply set .remove "").content
    sample.body? = some body ∧ body.id ∉ set.members ∧
      (∀ upper ∈ sample.content.ancestors body.id, upper ∉ set.members) ∧
      2 ∈ result.elementIds ∧ 3 ∉ result.ids := by
  intro body set result
  have named : sample.body? = some body := by decide
  have apart : body.id ∉ set.members := by decide
  have above : ∀ upper ∈ sample.content.ancestors body.id, upper ∉ set.members := by decide
  obtain ⟨exact, -, elements, -⟩ := mem_nodes_remove sample set "" body named apart above
  refine ⟨named, apart, above, elements 2 (by decide) ?_, fun member => ?_⟩
  · rw [isSwept_iff]
    decide
  · obtain ⟨node, known, same⟩ := (mem_ids_iff_nodes none).mp member
    refine ((exact node).mp known).2.1 (isSwept_iff.mpr ?_)
    rw [same]
    decide

end Removal

end MailQuote
