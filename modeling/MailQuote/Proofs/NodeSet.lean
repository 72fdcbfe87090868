import Mathlib.Data.List.Basic
import MailQuote.Proofs.Wrapping

namespace MailQuote

open Html

namespace NodeSet

theorem contains_congr {first second : NodeSet} (same : first.members = second.members) :
    first.contains = second.contains := by
  funext node
  rw [Bool.eq_iff_iff, contains_iff, contains_iff, same]

private theorem mem_insert (set : NodeSet) (added node : NodeId) :
    node ∈ (set.insert added).members ↔ node ∈ set.members ∨ node = added := by
  unfold insert
  split
  · next known =>
      have member := (set.contains_iff added).mp known
      exact ⟨.inl, fun either => either.elim id fun equality => equality ▸ member⟩
  · simp

theorem mem_insertAll (set : NodeSet) (nodes : List NodeId) (node : NodeId) :
    node ∈ (set.insertAll nodes).members ↔ node ∈ set.members ∨ node ∈ nodes := by
  induction nodes generalizing set with
  | nil => simp [insertAll]
  | cons first others ih =>
      have step := ih (set.insert first)
      simp only [insertAll, List.foldl_cons] at step ⊢
      rw [step, mem_insert, List.mem_cons, or_assoc]

theorem members_retain (set : NodeSet) (keep : NodeId → Bool) :
    (set.retain keep).members = set.members.filter keep := by
  simp only [retain, retainFrom]
  generalize set.members = nodes
  induction nodes with
  | nil => rfl
  | cons node others ih =>
      simp only [sift, List.filter_cons, ← ih]
      split <;> rfl

/-- The depth of a node of the document is the number of members among the nodes
above it. -/
theorem depthIn_eq_countP (set : NodeSet) {document : Document} {node : NodeId}
    (member : node ∈ document.content.ids) :
    set.depthIn document node =
      (document.content.ancestors node).countP set.contains := by
  obtain ⟨place, known, found, rfl⟩ := document.place?_of_mem member
  have levels := Forest.above_of_placesIn document.content_distinct known
  calc
    set.depthIn document place.id = set.depthOf place := by rw [depthIn, found]
    _ = (place.above.map Level.id).countP set.contains := by
      rw [List.countP_map]
      rfl
    _ = (document.content.ancestors place.id).countP set.contains := by
      rw [levels, List.map_nil, List.append_nil, List.countP_reverse]

/-- Nodes that stand in the order of their positions in a list, and are all in
it, are a part of it. -/
theorem sublist_of_positions {order nodes : List NodeId} (orderDistinct : order.Nodup)
    (distinct : nodes.Nodup) (inside : ∀ node ∈ nodes, node ∈ order)
    (sorted : nodes.Pairwise fun first second => order.idxOf first ≤ order.idxOf second) :
    nodes.Sublist order := by
  have positions : order.Pairwise fun first second =>
      order.idxOf first ≤ order.idxOf second := by
    rw [List.pairwise_iff_getElem]
    intro i j hi hj less
    rw [orderDistinct.idxOf_getElem, orderDistinct.idxOf_getElem]
    exact Nat.le_of_lt less
  have perm : nodes.Perm (order.filter fun node => nodes.contains node) := by
    refine (List.perm_ext_iff_of_nodup distinct (orderDistinct.sublist List.filter_sublist)).mpr
      fun node => ?_
    simpa using inside node
  have equality : nodes = order.filter fun node => nodes.contains node := by
    refine perm.eq_of_pairwise (fun first second member _ le ge => ?_) sorted
      (positions.sublist List.filter_sublist)
    exact (List.idxOf_inj (inside first member)).mp (Nat.le_antisymm le ge)
  rw [equality]
  exact List.filter_sublist

theorem mem_sort (set : NodeSet) (document : Document) (node : NodeId) :
    node ∈ (set.sort document).members ↔ node ∈ set.members :=
  List.mem_mergeSort

private theorem pairwise_sort (set : NodeSet) (document : Document) :
    (set.sort document).members.Pairwise fun first second =>
      document.content.ids.idxOf first ≤ document.content.ids.idxOf second := by
  refine (List.pairwise_mergeSort ?_ ?_ set.members).imp of_decide_eq_true
  · intro first second third le le'
    exact decide_eq_true (Nat.le_trans (of_decide_eq_true le) (of_decide_eq_true le'))
  · intro first second
    simpa using Nat.le_total _ _

/-- Members that are all in the document are sorted as the document has them. -/
theorem sort_sublist (set : NodeSet) {document : Document}
    (inside : ∀ node ∈ set.members, node ∈ document.content.ids) :
    (set.sort document).members.Sublist document.content.ids :=
  sublist_of_positions document.content_distinct (set.sort document).distinct
    (fun node member => inside node ((set.mem_sort document node).mp member))
    (set.pairwise_sort document)

/-! Folding away quotes of which some may be strays. A stray is not in the document, and
only a handler whose rule makes nodes up gives one. Strays come after the other quotes,
are folded away one by one, and leave what is done with the others as it is. -/

private theorem filter_append_filter_of_pairwise {keep : NodeId → Bool} {nodes : List NodeId}
    (kept : nodes.Pairwise fun first second => keep second = true → keep first = true) :
    nodes.filter keep ++ nodes.filter (fun node => !keep node) = nodes := by
  induction nodes with
  | nil => rfl
  | cons first others ih =>
      obtain ⟨head, tail⟩ := List.pairwise_cons.mp kept
      cases chosen : keep first with
      | true =>
          rw [List.filter_cons_of_pos chosen, List.filter_cons_of_neg (by simp [chosen]),
            List.cons_append, ih tail]
      | false =>
          have dropped : ∀ node ∈ first :: others, keep node = false := by
            intro node member
            rcases List.mem_cons.mp member with rfl | later
            · exact chosen
            · by_contra other
              rw [head node later (Bool.not_eq_false _ ▸ other)] at chosen
              cases chosen
          rw [List.filter_eq_nil_iff.mpr fun node member => by simp [dropped node member],
            List.filter_eq_self.mpr fun node member => by simp [dropped node member]]
          rfl

end NodeSet

namespace Wrapping

open Forest

/-- The members of a set that are in a document. -/
private def attached (document : Document) (set : NodeSet) : NodeSet :=
  set.retain document.content.ids.contains

private def strays (document : Document) (set : NodeSet) : List NodeId :=
  set.members.filter fun node => !document.content.ids.contains node

/-- Whether a node is a child of a new disclosure. -/
def IsFolded (original : Forest) (nodes : List Node) (quote : NodeId) : Prop :=
  ∃ container parent data, container ∉ original.ids ∧
    (⟨parent, container, disclosureData⟩ : Node) ∈ nodes ∧
    (⟨some container, quote, data⟩ : Node) ∈ nodes

section Groups

variable {document : Document} {set : NodeSet}

private theorem mem_attached {node : NodeId} :
    node ∈ (attached document set).members ↔
      node ∈ set.members ∧ node ∈ document.content.ids := by
  rw [attached, NodeSet.members_retain, List.mem_filter, List.contains_iff_mem]

private theorem not_mem_of_mem_strays {stray : NodeId} (member : stray ∈ strays document set) :
    stray ∉ document.content.ids := by
  have outside := (List.mem_filter.mp member).2
  simpa using outside

private theorem attached_append_strays (document : Document) (set : NodeSet) :
    (attached document (set.sort document)).members ++ strays document (set.sort document) =
      (set.sort document).members := by
  rw [attached, NodeSet.members_retain]
  apply NodeSet.filter_append_filter_of_pairwise
  refine (set.pairwise_sort document).imp fun {first second} le inside => ?_
  rw [List.contains_iff_mem, ← List.idxOf_lt_length_iff] at inside ⊢
  exact Nat.lt_of_le_of_lt le inside

private theorem attached_sublist (document : Document) (set : NodeSet) :
    (attached document (set.sort document)).members.Sublist document.content.ids := by
  refine NodeSet.sublist_of_positions document.content_distinct (NodeSet.distinct _)
    (fun node member => (mem_attached.mp member).2) ?_
  rw [attached, NodeSet.members_retain]
  exact (set.pairwise_sort document).filter _

private theorem after_subset_of_place? (alone : document.loose = []) {target : NodeId}
    {place : Place} (found : document.place? target = some place) :
    place.after.ids ⊆ document.content.ids := by
  rw [Document.place?, Document.rows, alone, List.findSome?_cons] at found
  split at found
  · next known =>
      cases found
      have part := onward_sublist (List.mem_of_find?_eq_some known)
      exact fun id member => part.subset (.tail _ (List.mem_append_right _ member))
  · cases found

private theorem continues_attached (alone : document.loose = []) (set : NodeSet) :
    continues document set = continues document (attached document set) := by
  funext previous next
  rw [continues, continues]
  split
  · next place found =>
      apply reaches_congr
      intro tree member
      have inside := after_subset_of_place? alone found (id_mem_of_mem_trees member)
      rw [Bool.eq_iff_iff, NodeSet.contains_iff, NodeSet.contains_iff, mem_attached,
        and_iff_left inside]
  · rfl

private theorem not_continues_stray (alone : document.loose = []) {stray : NodeId}
    (outside : stray ∉ document.content.ids) (previous : NodeId) :
    continues document set previous stray = false := by
  rw [continues]
  split
  · next place found =>
      by_contra reached
      rw [Bool.not_eq_false] at reached
      exact outside (after_subset_of_place? alone found (mem_of_reaches reached))
  · rfl

private theorem splitBy_append_singletons {joins : NodeId → NodeId → Bool} {others : List NodeId}
    (single : ∀ node ∈ others, ∀ previous, joins previous node = false)
    (nodes : List NodeId) :
    (nodes ++ others).splitBy joins = nodes.splitBy joins ++ others.map ([·]) := by
  induction others generalizing nodes with
  | nil => simp
  | cons first others ih =>
      have alone := ih (fun node member => single node (.tail _ member)) [first]
      rw [List.splitBy_append_cons others fun previous _ => single first (.head _) previous]
      exact congrArg _ alone

private theorem groups_sort (alone : document.loose = []) (set : NodeSet) :
    groups document (set.sort document) =
      groups document (attached document (set.sort document)) ++
        (strays document (set.sort document)).map ([·]) := by
  rw [groups, groups, ← attached_append_strays, ← continues_attached alone]
  apply splitBy_append_singletons
  intro stray member previous
  exact not_continues_stray alone (not_mem_of_mem_strays member) previous

end Groups

end Wrapping

namespace Html.Document

open Forest

variable {document : Document}

private theorem content_append_of_not_mem {parent target : NodeId}
    (outside : parent ∉ document.content.ids) (outside' : target ∉ document.content.ids) :
    (document.append parent target).content = document.content := by
  have erased : (document.erase target).content = document.content := erase_eq_self outside'
  unfold append
  split
  · exact (appendTo_eq_self _ (erased ▸ outside)).trans erased
  · rfl

private theorem content_wrapGroup_of_not_mem (label : String) {node : NodeId}
    (outside : node ∉ document.content.ids) :
    (document.wrapGroup label [node]).content = document.content := by
  have fresh : document.next ∉ document.content.ids := Wrapping.not_mem_of_le (Nat.le_refl _)
  have inserted : ((document.addDisclosure label).2.insertBefore node
      document.next).content = document.content := by
    rw [content_insertBefore (document.find?_addDisclosure label)]
    change Forest.insertBefore node _ (document.content.erase document.next) = _
    rw [erase_eq_self fresh, insertBefore_eq_self _ outside]
  have appended := content_append_of_not_mem (inserted.symm ▸ fresh) (inserted.symm ▸ outside)
  exact appended.trans inserted

/-- Folding away a single node changes nothing, or puts it into a disclosure. -/
theorem content_wrapGroup_singleton (document : Document) (label : String) (node : NodeId) :
    (document.wrapGroup label [node]).content = document.content ∨
      ∃ (context : Context) (row moved left : Forest),
        document.content = context.fill row ∧ Wrapping.Gathers [node] row moved left ∧
        (document.wrapGroup label [node]).content = context.fill (.cons document.next
          Wrapping.disclosureData (Wrapping.summary document.next label ++ moved) left) := by
  by_cases inside : node ∈ document.content.ids
  · obtain ⟨place, known, -, rfl⟩ := document.place?_of_mem inside
    obtain ⟨context, stands⟩ := exists_fill_of_placesIn known
    have gathers : Wrapping.Gathers [place.id] place.onward _ _ := .last
    exact .inr ⟨context, place.onward, _, _, stands, gathers,
      content_wrapGroup label stands gathers⟩
  · exact .inl (content_wrapGroup_of_not_mem label inside)

end Html.Document

namespace Wrapping

open Forest

section Fold

private theorem exists_moveTo (container : NodeId) (run : List NodeId) (node : Node) :
    ∃ parent, moveTo container run node = ⟨parent, node.id, node.data⟩ := by
  unfold moveTo
  split
  · exact ⟨some container, rfl⟩
  · exact ⟨node.parent, rfl⟩

variable {original : Forest} {document : Document} {quote : NodeId}

private theorem keeps_wrapGroup_singleton (document : Document) (label : String) (node : NodeId) :
    Keeps document.content (document.wrapGroup label [node]).content := by
  rcases document.content_wrapGroup_singleton label node with
    same | ⟨context, row, moved, left, stands, gathers, content⟩
  · rw [same]
    exact .refl _
  · rw [content, stands]
    exact .step gathers (stands ▸ document.content_sound) label

private theorem isFolded_wrapGroup_singleton (label : String) {node : NodeId}
    (folded : IsFolded original (document.content.nodes none) quote)
    (different : quote ≠ node) :
    IsFolded original ((document.wrapGroup label [node]).content.nodes none) quote := by
  rcases document.content_wrapGroup_singleton label node with
    same | ⟨context, row, moved, left, stands, gathers, content⟩
  · rwa [same]
  · obtain ⟨container, parent, data, isNew, isContainer, below⟩ := folded
    have distinct := stands ▸ document.content_distinct
    obtain ⟨_, -, moves⟩ := mem_nodes_step document.next gathers distinct label
    rw [stands] at isContainer below
    rw [content]
    have kept : moveTo document.next [node] ⟨some container, quote, data⟩ =
        ⟨some container, quote, data⟩ :=
      moveTo_of_not_mem (mt List.mem_singleton.mp different)
    -- The node may be the container itself, which then has another parent.
    obtain ⟨parent', same⟩ := exists_moveTo document.next [node]
      ⟨parent, container, disclosureData⟩
    exact ⟨container, parent', data, isNew, (moves _).mpr (.inr ⟨_, isContainer, same.symm⟩),
      (moves _).mpr (.inr ⟨_, below, kept.symm⟩)⟩

private theorem keeps_foldl_singletons (label : String) (nodes : List NodeId)
    (document : Document) :
    Keeps document.content
      ((nodes.map ([·])).foldl (Document.wrapGroup label) document).content := by
  induction nodes generalizing document with
  | nil => exact .refl _
  | cons node nodes ih => exact (keeps_wrapGroup_singleton document label node).trans (ih _)

private theorem isFolded_foldl_singletons (label : String) {nodes : List NodeId}
    (absent : quote ∉ nodes)
    (folded : IsFolded original (document.content.nodes none) quote) :
    IsFolded original (((nodes.map ([·])).foldl (Document.wrapGroup label)
      document).content.nodes none) quote := by
  induction nodes generalizing document with
  | nil => exact folded
  | cons node nodes ih =>
      rw [List.mem_cons, not_or] at absent
      exact ih absent.2 (isFolded_wrapGroup_singleton label folded absent.1)

end Fold

private theorem isFolded_of_ordered {document : Document} {set : NodeSet} (label : String)
    (ordered : set.members.Sublist document.content.ids) {quote : NodeId}
    (member : quote ∈ set.members) :
    IsFolded document.content ((document.wrap set label).content.nodes none) quote := by
  obtain ⟨run, known, inRun⟩ := exists_run set document member
  obtain ⟨origin, atPlace, rfl⟩ := (mem_ids_iff_nodes none).mp (ordered.subset member)
  have isContainer : IsContainer document.content (document.wrap set label).content run.1 :=
    (isContainer_wrap ordered).mpr ⟨run, known, rfl⟩
  obtain ⟨parent, stands, -⟩ := (encloses_wrap ordered isContainer).parent
  exact ⟨run.1, parent, origin.data, isContainer.1, stands,
    quote_of_run label ordered known atPlace inRun⟩

section Wrap

variable {document : Document}

private theorem wrap_sort (alone : document.loose = []) (set : NodeSet) (label : String) :
    document.wrap (set.sort document) label =
      ((strays document (set.sort document)).map ([·])).foldl (Document.wrapGroup label)
        (document.wrap (attached document (set.sort document)) label) := by
  rw [Document.wrap, groups_sort alone, List.foldl_append, Document.wrap]

/-- Whatever is in the set, the nodes of the document lie below each other as before. -/
theorem keeps_wrap (alone : document.loose = []) (set : NodeSet) (label : String) :
    Keeps document.content (document.wrap (set.sort document) label).content := by
  have folding := folding_wrap document _ label (attached_sublist document set)
  rw [wrap_sort alone]
  exact folding.keeps.trans (keeps_foldl_singletons label _ _)

theorem isFolded_wrap (alone : document.loose = []) (set : NodeSet) (label : String)
    {quote : NodeId} (member : quote ∈ (set.sort document).members)
    (inside : quote ∈ document.content.ids) :
    IsFolded document.content ((document.wrap (set.sort document) label).content.nodes none)
      quote := by
  rw [wrap_sort alone]
  apply isFolded_foldl_singletons
  · exact fun isStray => not_mem_of_mem_strays isStray inside
  · exact isFolded_of_ordered label (attached_sublist document set)
      (mem_attached.mpr ⟨member, inside⟩)

end Wrap

end Wrapping

/-! Sets of nodes under any sequence of changes. The list of the members and the keys that
are looked up stay in step, and the list is what the changes make of a plain list. -/

namespace NodeSet

/-- A change of a set of nodes. What is retained may depend on what was asked before, and
the document may be another one each time. -/
inductive Change where
  | insert (node : NodeId)
  | retain {σ : Type} (keep : σ → NodeId → Bool × σ) (state : σ)
  | sort (document : Document)

def change (set : NodeSet) : Change → NodeSet
  | .insert node => set.insert node
  | .retain keep state => set.retainFrom keep state
  | .sort document => set.sort document

/-- The set that changes make of the empty one. -/
def ofChanges (changes : List Change) : NodeSet :=
  changes.foldl change empty

/-- The nodes of a list, each with the answer that is given for it. -/
def answers (keep : σ → NodeId → Bool × σ) : σ → List NodeId → List (NodeId × Bool)
  | _, [] => []
  | state, node :: others => (node, (keep state node).1) :: answers keep (keep state node).2 others

def accepted (keep : σ → NodeId → Bool × σ) (state : σ) (nodes : List NodeId) : List NodeId :=
  ((answers keep state nodes).filter Prod.snd).map Prod.fst

/-- The nodes of a list that a document has, in document order, and then the others. -/
def arranged (document : Document) (nodes : List NodeId) : List NodeId :=
  document.content.ids.filter nodes.contains ++
    nodes.filter fun node => !document.content.ids.contains node

/-- What a change makes of a plain list without doubles. -/
def Change.ofList : Change → List NodeId → List NodeId
  | .insert node, nodes => if node ∈ nodes then nodes else nodes ++ [node]
  | .retain keep state, nodes => accepted keep state nodes
  | .sort document, nodes => arranged document nodes

private theorem sift_eq_accepted (keep : σ → NodeId → Bool × σ) (state : σ) (nodes : List NodeId) :
    (sift keep state nodes).1 = accepted keep state nodes := by
  induction nodes generalizing state with
  | nil => rfl
  | cons node others ih =>
      rw [sift, accepted, answers, List.filter_cons]
      cases (keep state node).1 with
      | true => exact congrArg (node :: ·) (ih _)
      | false => exact ih _

private theorem filter_sort_inside (set : NodeSet) (document : Document) :
    (set.sort document).members.filter document.content.ids.contains =
      document.content.ids.filter set.members.contains := by
  have part := Wrapping.attached_sublist document set
  rw [Wrapping.attached, members_retain] at part
  apply Precedes.eq_of_sublist document.content_distinct part List.filter_sublist
  intro node
  simp only [List.mem_filter, mem_sort, List.contains_iff_mem, and_comm]

/-- Members outside of the document are not told apart by their positions in it, and a
stable sort keeps their order. -/
theorem filter_sort_outside (set : NodeSet) (document : Document) :
    (set.sort document).members.filter (fun node => !document.content.ids.contains node) =
      set.members.filter fun node => !document.content.ids.contains node := by
  have alike : (set.members.filter fun node => !document.content.ids.contains node).Pairwise
      fun first second =>
        decide (document.content.ids.idxOf first ≤ document.content.ids.idxOf second) = true := by
    apply List.pairwise_of_forall_mem_list
    intro first member second member'
    have outside := (List.mem_filter.mp member).2
    have outside' := (List.mem_filter.mp member').2
    simp only [Bool.not_eq_true', List.contains_eq_mem, decide_eq_false_iff_not] at outside outside'
    rw [List.idxOf_eq_length outside, List.idxOf_eq_length outside']
    exact decide_eq_true (Nat.le_refl _)
  have part : (set.members.filter fun node => !document.content.ids.contains node).Sublist
      (set.sort document).members := by
    apply List.sublist_mergeSort ?_ ?_ alike List.filter_sublist
    · intro first second third le le'
      exact decide_eq_true (Nat.le_trans (of_decide_eq_true le) (of_decide_eq_true le'))
    · intro first second
      simpa using Nat.le_total _ _
  have kept := part.filter fun node => !document.content.ids.contains node
  simp only [List.filter_filter, Bool.and_self] at kept
  have perm : (set.sort document).members.Perm set.members := List.mergeSort_perm _ _
  exact (kept.eq_of_length (perm.filter _).length_eq.symm).symm

private theorem members_sort (set : NodeSet) (document : Document) :
    (set.sort document).members = arranged document set.members := by
  have parts := Wrapping.attached_append_strays document set
  rw [Wrapping.attached, members_retain, Wrapping.strays, filter_sort_inside,
    filter_sort_outside] at parts
  exact parts.symm

private theorem members_insert (set : NodeSet) (node : NodeId) :
    (set.insert node).members =
      if node ∈ set.members then set.members else set.members ++ [node] := by
  unfold insert
  split
  · next known => rw [if_pos ((set.contains_iff node).mp known)]
  · next absent => rw [if_neg (mt (set.contains_iff node).mpr absent)]

private theorem members_change (set : NodeSet) (next : Change) :
    (set.change next).members = next.ofList set.members := by
  cases next with
  | insert node => exact members_insert set node
  | retain keep state => exact sift_eq_accepted keep state set.members
  | sort document => exact members_sort set document

/-- The members that changes make are what they make of a plain list. -/
theorem members_ofChanges (changes : List Change) :
    (ofChanges changes).members = changes.foldl (fun nodes next => next.ofList nodes) [] := by
  have run (set : NodeSet) : (changes.foldl change set).members =
      changes.foldl (fun nodes next => next.ofList nodes) set.members := by
    induction changes generalizing set with
    | nil => rfl
    | cons next others ih => rw [List.foldl_cons, List.foldl_cons, ih, members_change]
  exact run empty

/-- After any changes the members are listed once each, in the order that the changes make
of a plain list, and the keys tell just which nodes are members. A node is new to the set
just if it is no member, and then it becomes the last one. Sorting puts the members that
are in the document first, in its order, and keeps the order of the others. -/
theorem ofChanges_consistent (changes : List Change) :
    let set := ofChanges changes
    set.members = changes.foldl (fun nodes next => next.ofList nodes) [] ∧
    set.members.Nodup ∧
    (∀ node, set.contains node = true ↔ node ∈ set.members) ∧
    (∀ node, ((set.insertNew node).1 = true ↔ node ∉ set.members) ∧
      (set.insertNew node).2.members =
        if node ∈ set.members then set.members else set.members ++ [node]) ∧
    (∀ keep, (set.retain keep).members = set.members.filter keep) ∧
    (∀ {σ : Type} (keep : σ → NodeId → Bool × σ) (state : σ),
      (set.retainFrom keep state).members = accepted keep state set.members) ∧
    (∀ document, (set.sort document).members.Perm set.members ∧
      (set.sort document).members =
        document.content.ids.filter set.members.contains ++
          set.members.filter fun node => !document.content.ids.contains node) := by
  intro set
  refine ⟨members_ofChanges changes, set.distinct, set.contains_iff, fun node => ⟨?new, ?added⟩,
    set.members_retain, fun keep state => sift_eq_accepted keep state set.members,
    fun document => ⟨List.mergeSort_perm _ _, set.members_sort document⟩⟩
  case new =>
    rw [insertNew, Bool.not_eq_true', ← Bool.not_eq_true, set.contains_iff]
  case added => exact members_insert set node

end NodeSet

end MailQuote
