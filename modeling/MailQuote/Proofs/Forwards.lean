import MailQuote.Proofs.Coverage
import MailQuote.Proofs.Marker

namespace MailQuote

open Html

namespace Wrapping

/-- The disclosures that are added when the quotes of a set are folded away. -/
def disclosures (document : Document) (set : NodeSet) : List NodeId :=
  (numbered document.next (groups document set)).map Prod.fst

private theorem content_detachAll_disclosures (document : Document) (set : NodeSet)
    (label : String) :
    ((document.wrap set label).detachAll (disclosures document set)).content =
      document.content.without set.members.contains := by
  rw [Document.content_detachAll, ← without_content_wrap document set label]
  apply Forest.without_congr
  intro id _
  rw [Bool.eq_iff_iff, List.contains_iff_mem, disclosures, List.mem_map, List.any_eq_true]
  simp only [beq_iff_eq]

end Wrapping

namespace Collect

variable {document : Document} {handlers : List Handler} {options : Options}

private theorem isForward_of_below {upper lower : NodeId} {tree : Tree}
    (found : document.find? upper = some tree) (below : lower ∈ tree.ids)
    (forward : isForward document lower = true) : isForward document upper = true := by
  obtain ⟨inner, found', isPart⟩ := Document.exists_find?_below found below
  rw [isForward, found'] at forward
  rw [isForward, found]
  exact Marker.isForward_of_isInfix isPart forward

private theorem not_isForward_of_mem_collect (ignores : options.ignoreFirstForward = true)
    {node : NodeId} (quote : node ∈ (collect document handlers options).members) :
    isForward document node = false := by
  have chosen := isEligible_of_mem_collect quote
  rw [isEligible, ignores, Bool.true_and, Bool.and_eq_true, Bool.not_eq_true'] at chosen
  exact chosen.2

private theorem mem_without_quotes (ignores : options.ignoreFirstForward = true) {node : NodeId}
    (member : node ∈ document.content.ids) (forward : isForward document node = true) :
    node ∈ (document.content.without
      (collect document handlers options).members.contains).ids := by
  have spared {upper : NodeId} {tree : Tree} (found : document.find? upper = some tree)
      (below : node ∈ tree.ids) :
      (collect document handlers options).members.contains upper = false := by
    by_contra quoted
    rw [Bool.not_eq_false, List.contains_iff_mem] at quoted
    have other := not_isForward_of_mem_collect ignores quoted
    rw [isForward_of_below found below forward] at other
    cases other
  apply (Forest.mem_ids_without document.content_distinct).mpr
  refine ⟨member, ?_, ?_⟩
  · obtain ⟨tree, found⟩ := Forest.exists_find? member
    have self : node ∈ tree.ids := Forest.id_of_find? found ▸ List.mem_cons_self
    exact spared (document.find?_of_content found) self
  · intro upper above
    obtain ⟨tree, found, below⟩ := (Forest.mem_ancestors document.content_distinct).mp above
    exact spared (document.find?_of_content found) (List.mem_cons_of_mem _ below)

private theorem mem_remove_quotes (ignores : options.ignoreFirstForward = true) {node : NodeId}
    (member : node ∈ document.content.ids) (forward : isForward document node = true)
    (filled : (document.detachAll (collect document handlers options).members).isLeftEmpty
      node = false) :
    node ∈ (document.remove (collect document handlers options)).content.ids := by
  have stays : node ∈ (document.content.without
      (collect document handlers options).members.contains).ids :=
    mem_without_quotes ignores member forward
  obtain ⟨tree, found⟩ := Forest.exists_find? member
  have found' := Forest.find?_without document.content_distinct found stays
  rw [Document.isLeftEmpty_of_mem _ (by rwa [Document.content_detachAll]),
    Document.content_detachAll, Forest.isLeftEmpty, found'] at filled
  refine Removal.mem_ids_remove found' filled ?_
  -- What is no element has no nodes in it that could be taken out, so it has its text still.
  refine (document.content_sound.wellNested.find? found).1.imp_right fun leaf => ?_
  rw [isForward_eq found, Tree.text, leaf] at forward
  rw [Tree.text, leaf]
  exact Marker.allBlank_of_isForward forward

/-- When forwarded messages are to be left alone, neither the text of a quote nor that
of any node in it has a forward marker. So each node of the document whose text has one
stays where all quotes are taken out, and where all disclosures are that the quotes are
folded into. The sweep after the quotes are removed takes it away only if it is an element
that is empty without them. -/
theorem collect_spares_forwards (document : Document) (handlers : List Handler)
    (options : Options) (ignores : options.ignoreFirstForward = true) :
    let quotes := collect document handlers options
    let folded := document.apply quotes .wrap options.label
    (∀ node ∈ quotes.members, ∀ tree, document.find? node = some tree →
      ∀ lower ∈ tree.ids, ∃ inner, document.find? lower = some inner ∧
        Marker.isForward inner.text = false) ∧
    (∀ node ∈ document.content.ids, isForward document node = true →
      node ∈ (document.detachAll quotes.members).content.ids ∧
        node ∈ (folded.detachAll (Wrapping.disclosures document quotes)).content.ids ∧
        ((document.detachAll quotes.members).isLeftEmpty node = false →
          node ∈ (document.apply quotes .remove options.label).content.ids)) := by
  intro quotes folded
  constructor
  · intro node quote tree found lower below
    obtain ⟨inner, found', -⟩ := Document.exists_find?_below found below
    refine ⟨inner, found', ?_⟩
    by_contra forward
    rw [Bool.not_eq_false] at forward
    have forward' : isForward document lower = true := by
      rw [isForward, found']
      exact forward
    have spared := not_isForward_of_mem_collect ignores quote
    rw [isForward_of_below found below forward'] at spared
    cases spared
  · intro node member forward
    have stays : node ∈ (document.content.without quotes.members.contains).ids :=
      mem_without_quotes ignores member forward
    refine ⟨?_, ?_, mem_remove_quotes ignores member forward⟩
    · rw [Document.content_detachAll]
      exact stays
    · have content := Wrapping.content_detachAll_disclosures document quotes options.label
      exact content.symm ▸ stays

/-- A document with a division that holds a forwarded message, and one that does not. -/
def forwarding : Document where
  content :=
    .cons 0 (.element ⟨.html, "div"⟩ [])
      (.cons 1 (.text "Old") .nil (.cons 2 (.element ⟨.html, "p"⟩ [])
        (.cons 3 (.text "-- Forwarded message --") .nil .nil) .nil))
      (.cons 4 (.element ⟨.html, "div"⟩ []) (.cons 5 (.text "Old") .nil .nil) .nil)
  loose := []
  next := 6
  sound := ⟨by decide, by decide, by decide⟩

theorem collect_spares_forwards_sample :
    let options : Options := { ignoreFirstForward := true }
    let quotes := collect forwarding [⟨"division", "div", .select⟩] options
    options.ignoreFirstForward = true ∧ quotes.members = [4] ∧
      isForward forwarding 2 = true ∧
      2 ∈ (forwarding.detachAll quotes.members).content.ids ∧
      2 ∈ (forwarding.apply quotes .remove options.label).content.ids := by
  intro options quotes
  have forward : isForward forwarding 2 = true := by decide
  have spared := collect_spares_forwards forwarding [⟨"division", "div", .select⟩] options rfl
  obtain ⟨stays, -, unswept⟩ := spared.2 2 (by decide) forward
  exact ⟨rfl, by decide +kernel, forward, stays, unswept (by decide +kernel)⟩

end Collect

namespace Html.Forest

private theorem without_eq_self_iff {drop : NodeId → Bool} {forest : Forest}
    (distinct : forest.ids.Nodup) :
    forest.without drop = forest ↔ ∀ id ∈ forest.ids, drop id = false := by
  constructor
  · intro same id member
    rw [← same] at member
    exact ((mem_ids_without distinct).mp member).2.1
  · exact without_eq_self

private theorem find?_without_iff {drop : NodeId → Bool} {node : NodeId} {forest : Forest}
    {tree : Tree}
    (distinct : forest.ids.Nodup) (found : forest.find? node = some tree)
    (stays : node ∈ (forest.without drop).ids) :
    (forest.without drop).find? node = some tree ↔
      ∀ lower ∈ tree.children.ids, drop lower = false := by
  rw [← without_eq_self_iff ((ids_children_sublist found).nodup distinct),
    find?_without distinct found stays]
  constructor
  · intro same
    exact congrArg Tree.children (Option.some.inj same)
  · intro same
    rw [same]

end Html.Forest

namespace Wrapping

open Forest

variable {document : Document} {set : NodeSet} {node : NodeId} {tree : Tree}

/-- A node that is in no quote stays with its data when the quotes are folded away, and but
for the disclosures there is in it what there is without the quotes. -/
theorem find?_wrap (label : String) (ordered : set.members.Sublist document.content.ids)
    (found : document.content.find? node = some tree)
    (stays : node ∈ (document.content.without set.members.contains).ids) :
    ∃ inner, (document.wrap set label).content.find? node = some ⟨tree.id, tree.data, inner⟩ ∧
      inner.without
          (containers document.content (document.wrap set label).content).contains =
        tree.children.without set.members.contains := by
  have keeps := (folding_wrap document set label ordered).keeps
  have distinct := (document.wrap set label).content_distinct
  obtain ⟨outer, found'⟩ := exists_find? (keeps.ids (mem_of_find? found))
  have whole := without_containers ordered label
  have left := find?_without distinct found' (whole.symm ▸ stays)
  rw [whole, find?_without document.content_distinct found stays] at left
  obtain ⟨sameId, sameData, sameChildren⟩ := Tree.mk.inj (Option.some.inj left)
  refine ⟨outer.children, ?_, sameChildren.symm⟩
  rw [found', sameId, sameData]

/-- A disclosure inside of a node has a quote in it that was inside of that node before. -/
theorem exists_quote_of_container {label : String}
    (ordered : set.members.Sublist document.content.ids)
    (found : document.content.find? node = some tree) {outer : Tree}
    (found' : (document.wrap set label).content.find? node = some outer) {container : NodeId}
    (isNew : container ∈ containers document.content (document.wrap set label).content)
    (below : container ∈ outer.children.ids) :
    ∃ quote ∈ set.members, quote ∈ tree.children.ids := by
  have keeps := (folding_wrap document set label ordered).keeps
  have distinct := (document.wrap set label).content_distinct
  obtain ⟨run, known, rfl⟩ := (isContainer_wrap ordered).mp (mem_containers.mp isNew)
  obtain ⟨nonempty, parent, parents⟩ := exists_parent_of_run ordered known
  obtain ⟨quote, inRun⟩ := List.exists_mem_of_ne_nil _ nonempty
  obtain ⟨data, origin⟩ := parents quote inRun
  have isOld : quote ∈ document.content.ids := (mem_ids_iff_nodes none).mpr ⟨_, origin, rfl⟩
  have quoted : quote ∈ set.members := by
    rw [← flatten_groups document set]
    exact List.mem_flatten_of_mem (mem_of_numbered known).2 inRun
  have moved := quote_of_run label ordered known origin inRun
  have inside : run.1 ∈ (document.wrap set label).content.ancestors quote :=
    (parent_mem_ancestors distinct moved rfl).resolve_left nofun
  have further := ancestors_isPrefix distinct inside
  have above : node ∈ (document.wrap set label).content.ancestors quote :=
    further.subset (List.mem_append_left _ ((mem_ancestors distinct).mpr ⟨outer, found', below⟩))
  have above' := (keeps.ancestors node (mem_of_find? found) quote isOld).mp above
  obtain ⟨tree', same, isBelow⟩ := (mem_ancestors document.content_distinct).mp above'
  rw [found] at same
  cases same
  exact ⟨quote, quoted, isBelow⟩

private theorem find?_wrap_iff (label : String) (ordered : set.members.Sublist document.content.ids)
    (found : document.content.find? node = some tree)
    (stays : node ∈ (document.content.without set.members.contains).ids) :
    (document.wrap set label).content.find? node = some tree ↔
      ∀ lower ∈ tree.children.ids, set.members.contains lower = false := by
  obtain ⟨inner, wrapped, left⟩ := find?_wrap label ordered found stays
  have inTree : tree.children.ids.Sublist document.content.ids := ids_children_sublist found
  have untouched : tree.children.without set.members.contains = tree.children ↔
      ∀ lower ∈ tree.children.ids, set.members.contains lower = false :=
    without_eq_self_iff (inTree.nodup document.content_distinct)
  rw [← untouched]
  constructor
  · intro same
    obtain rfl : inner = tree.children :=
      congrArg Tree.children (Option.some.inj (wrapped.symm.trans same))
    rw [← left]
    refine without_eq_self fun id member => ?_
    by_contra isNew
    rw [Bool.not_eq_false, List.contains_iff_mem, mem_containers] at isNew
    exact isNew.1 (inTree.subset member)
  · intro same
    have none : ∀ id ∈ inner.ids, (containers document.content
        (document.wrap set label).content).contains id = false := by
      intro id below
      by_contra isNew
      rw [Bool.not_eq_false, List.contains_iff_mem] at isNew
      obtain ⟨quote, quoted, inside⟩ :=
        exists_quote_of_container ordered found wrapped isNew below
      exact absurd (untouched.mp same quote inside) (by simpa using quoted)
    rw [without_eq_self none, same] at left
    rw [wrapped, left]

end Wrapping

namespace Forwards

open Collect Forest

section Message

variable {document : Document} {handlers : List Handler} {options : Options} {node : NodeId}
  {tree : Tree}

private theorem isEligible_around (ignores : options.ignoreFirstForward = true)
    (found : document.content.find? node = some tree)
    (forward : Marker.isForward tree.text = true) {upper : NodeId}
    (around : upper = node ∨ upper ∈ document.content.ancestors node) :
    isEligible document handlers options upper = false := by
  have below : isForward document upper = true := by
    have self := (isForward_eq found).trans forward
    rcases around with rfl | above
    · exact self
    · obtain ⟨outer, found', inside⟩ := (mem_ancestors document.content_distinct).mp above
      exact isForward_of_below (document.find?_of_content found') (.tail _ inside) self
  rw [isEligible, ignores, below, Bool.and_self, Bool.not_true, Bool.and_false]

private theorem depthAmong_inside (ignores : options.ignoreFirstForward = true)
    (found : document.content.find? node = some tree)
    (forward : Marker.isForward tree.text = true) {lower : NodeId}
    (below : lower ∈ tree.children.ids) :
    depthAmong document (isEligible document handlers options) lower =
      (tree.children.ancestors lower).countP (isEligible document handlers options) := by
  have none : (document.content.ancestors node).countP
      (isEligible document handlers options) = 0 := by
    refine List.countP_eq_zero.mpr fun upper above => ?_
    rw [isEligible_around ignores found forward (.inr above)]
    exact Bool.false_ne_true
  rw [depthAmong, ancestors_of_find? document.content_distinct found below, List.countP_append,
    none, Nat.zero_add, List.countP_cons_of_neg]
  rw [isEligible_around ignores found forward (.inl rfl)]
  exact Bool.false_ne_true

private theorem exists_quote_inside (stay : ∀ handler ∈ handlers, handler.rule.StaysIn document)
    (ignores : options.ignoreFirstForward = true)
    (found : document.content.find? node = some tree)
    (forward : Marker.isForward tree.text = true) {lower : NodeId}
    (below : lower ∈ tree.children.ids)
    (chosen : isEligible document handlers options lower = true) :
    ∃ quote ∈ (collect document handlers options).members, quote ∈ tree.children.ids := by
  obtain ⟨top, quote, around⟩ := exists_quote_around stay chosen
  refine ⟨top, quote, ?_⟩
  rcases around with rfl | above
  · exact below
  · rw [ancestors_of_find? document.content_distinct found below, List.mem_append,
      List.mem_cons] at above
    have notAround : ¬ (top = node ∨ top ∈ document.content.ancestors node) := by
      intro around
      have chosen' := isEligible_of_mem_collect quote
      rw [isEligible_around ignores found forward around] at chosen'
      cases chosen'
    rcases above with further | same | nearer
    · exact absurd (.inr further) notAround
    · exact absurd (.inl same) notAround
    · exact (ancestors_sublist_ids _ _).subset nearer

private theorem forall_quotes_iff (stay : ∀ handler ∈ handlers, handler.rule.StaysIn document)
    (ignores : options.ignoreFirstForward = true)
    (found : document.content.find? node = some tree)
    (forward : Marker.isForward tree.text = true) :
    (∀ lower ∈ tree.children.ids,
        (collect document handlers options).members.contains lower = false) ↔
      ∀ lower ∈ tree.children.ids, isEligible document handlers options lower = false := by
  constructor
  · intro none lower below
    by_contra chosen
    rw [Bool.not_eq_false] at chosen
    obtain ⟨quote, quoted, inside⟩ :=
      exists_quote_inside stay ignores found forward below chosen
    exact absurd (none quote inside) (by simpa using quoted)
  · intro none lower below
    by_contra quoted
    rw [Bool.not_eq_false, List.contains_iff_mem] at quoted
    have chosen := isEligible_of_mem_collect quoted
    rw [none lower below] at chosen
    cases chosen

end Message

/-- A forwarded message that is to be left alone is no quote, nor is what it lies in. A node
in it is a quote if a handler finds it, its own text is not that of a forwarded message,
and few enough such nodes are above it in the message. So taking out the quotes changes
the message, and folding them away does, just if there is such a node in it. -/
theorem collect_inside_forward (document : Document) (handlers : List Handler)
    (options : Options) (stay : ∀ handler ∈ handlers, handler.rule.StaysIn document)
    (ignores : options.ignoreFirstForward = true) :
    let eligible := isEligible document handlers options
    let quotes := collect document handlers options
    let kept := (document.detachAll quotes.members).content
    let folded := (document.apply quotes .wrap options.label).content
    ∀ node tree, document.content.find? node = some tree →
        Marker.isForward tree.text = true →
      (∀ upper, upper = node ∨ upper ∈ document.content.ancestors node →
        upper ∉ quotes.members) ∧
      (∀ lower ∈ tree.children.ids, lower ∈ quotes.members ↔ eligible lower = true ∧
        options.depth.allows ((tree.children.ancestors lower).countP eligible) = true) ∧
      kept.find? node =
        some ⟨tree.id, tree.data, tree.children.without quotes.members.contains⟩ ∧
      (∃ inner, folded.find? node = some ⟨tree.id, tree.data, inner⟩ ∧
        inner.without (Wrapping.containers document.content folded).contains =
          tree.children.without quotes.members.contains) ∧
      (kept.find? node = some tree ↔ ∀ lower ∈ tree.children.ids, eligible lower = false) ∧
      (folded.find? node = some tree ↔
        ∀ lower ∈ tree.children.ids, eligible lower = false) := by
  intro eligible quotes kept folded node tree found forward
  have distinct := document.content_distinct
  have ordered : quotes.members.Sublist document.content.ids := collect_sublist stay
  have stays : node ∈ (document.content.without quotes.members.contains).ids :=
    mem_without_quotes ignores (mem_of_find? found) ((isForward_eq found).trans forward)
  have content : kept = document.content.without quotes.members.contains :=
    document.content_detachAll quotes.members
  rw [← forall_quotes_iff stay ignores found forward, content]
  refine ⟨fun upper around quote => ?around, fun lower below => ?inside,
    find?_without distinct found stays, Wrapping.find?_wrap options.label ordered found stays,
    find?_without_iff distinct found stays,
    Wrapping.find?_wrap_iff options.label ordered found stays⟩
  case around =>
    have chosen := isEligible_of_mem_collect quote
    rw [isEligible_around ignores found forward around] at chosen
    cases chosen
  case inside =>
    rw [mem_collect stay, depthAmong_inside ignores found forward below]

/-- A forwarded message with a quote in it, which goes at depth zero already. -/
theorem collect_inside_forward_builtin :
    let document := Document.parse
      "<div class=gmail_quote>-- Forwarded message --<div class=gmail_quote>old</div></div>"
    let options : Options := { ignoreFirstForward := true, depth := .levels 0 }
    let quotes := collect document Handler.builtin options
    (∀ handler ∈ Handler.builtin, handler.rule.StaysIn document) ∧
      options.ignoreFirstForward = true ∧ ∃ node tree,
        document.content.find? node = some tree ∧ Marker.isForward tree.text = true ∧
          node ∉ quotes.members ∧ ∃ lower ∈ tree.children.ids, lower ∈ quotes.members := by
  intro document options quotes
  have stay := Handler.builtin_staysIn document
  have exists_message : ∃ node ∈ document.content.ids, ∃ tree ∈ document.content.find? node,
      tree.data.hasClass Handler.gmailClass = true ∧ Marker.isForward tree.text = true ∧
        ∃ lower ∈ tree.children.elementIds, tree.children.ancestors lower = [] ∧
          isEligible document Handler.builtin options lower = true := by
    decide
  obtain ⟨node, -, tree, found, -, forward, lower, element, top, chosen⟩ := exists_message
  have below : lower ∈ tree.children.ids := (elementIds_sublist_ids _).subset element
  obtain ⟨around, inside, -⟩ := collect_inside_forward document Handler.builtin options stay rfl
    node tree found forward
  refine ⟨stay, rfl, node, tree, found, forward, around node (.inl rfl), lower, below, ?_⟩
  rw [inside lower below, top]
  exact ⟨chosen, rfl⟩

/-- The container of a forwarded message is left alone, but the reply in it is not. -/
theorem not_collect_inside_forward :
    let document := Document.parse ("<p>Hi</p><div class=gmail_quote>" ++
      "-- Forwarded message --<div class=gmail_quote>old</div></div>")
    let options : Options := { ignoreFirstForward := true }
    let quotes := collect document Handler.builtin options
    ∃ handler ∈ Handler.builtin, ∃ node tree, handler.finds document node = true ∧
      document.content.find? node = some tree ∧ Marker.isForward tree.text = true ∧
      (∃ lower ∈ tree.children.ids, lower ∈ quotes.members) ∧
      (document.detachAll quotes.members).content.find? node ≠ some tree ∧
      (document.apply quotes .wrap options.label).content.find? node ≠ some tree := by
  intro document options quotes
  have stay := Handler.builtin_staysIn document
  have exists_message : ∃ node ∈ document.content.ids, ∃ tree ∈ document.content.find? node,
      tree.data.hasClass Handler.gmailClass = true ∧
      Handler.finds ⟨"gmail", ".gmail_quote", .refine Handler.gmail⟩ document node = true ∧
      Marker.isForward tree.text = true ∧ ∃ lower ∈ tree.children.elementIds,
        isEligible document Handler.builtin options lower = true := by
    decide
  obtain ⟨node, -, tree, found, -, finds, forward, lower, element, chosen⟩ := exists_message
  have below : lower ∈ tree.children.ids := (elementIds_sublist_ids _).subset element
  obtain ⟨quote, quoted, inside⟩ := exists_quote_inside stay rfl found forward below chosen
  have stays : node ∈ (document.content.without quotes.members.contains).ids :=
    mem_without_quotes rfl (mem_of_find? found) ((isForward_eq found).trans forward)
  have touched : ¬ ∀ lower ∈ tree.children.ids, quotes.members.contains lower = false := by
    intro none
    exact absurd (none quote inside) (by simpa using quoted)
  refine ⟨_, .head _, node, tree, finds, found, forward, ⟨quote, inside, quoted⟩, ?removed,
    ?folded⟩
  case removed =>
    rw [Document.content_detachAll]
    exact mt (find?_without_iff document.content_distinct found stays).mp touched
  case folded =>
    exact mt (Wrapping.find?_wrap_iff options.label (collect_sublist stay) found stays).mp touched

end Forwards

end MailQuote
