import MailQuote.Proofs.Handler
import MailQuote.Proofs.NodeSet
import MailQuote.Request

namespace MailQuote

open Html

namespace Collect

/-- Whether a node is to be acted upon but for its depth: a handler finds it, and
it is not a forwarded message that is to be left alone. -/
def isEligible (document : Document) (handlers : List Handler) (options : Options)
    (node : NodeId) : Bool :=
  handlers.any (·.finds document node) &&
    !(options.ignoreFirstForward && isForward document node)

/-- How many nodes of a kind lie above a node. -/
def depthAmong (document : Document) (kind : NodeId → Bool) (node : NodeId) : Nat :=
  (document.content.ancestors node).countP kind

variable {document : Document} {handlers : List Handler} {options : Options}

private theorem mem_found {handler : Handler} {node : NodeId} :
    node ∈ found document handler ↔ handler.finds document node = true := by
  unfold found Handler.find Handler.matched? Handler.finds
  cases Selector.parse? handler.selector with
  | none => simp
  | some selector =>
      simp only [Option.map_some, List.mem_map, List.mem_flatMap, List.any_eq_true,
        beq_iff_eq]
      constructor
      · intro ⟨quote, ⟨matched, selected, resolved⟩, equality⟩
        exact ⟨matched, selected, quote, resolved, equality⟩
      · intro ⟨matched, selected, quote, resolved, equality⟩
        exact ⟨quote, ⟨matched, selected, resolved⟩, equality⟩

private theorem mem_candidates {node : NodeId} :
    node ∈ (candidates document handlers).members ↔
      handlers.any (·.finds document node) = true := by
  rw [candidates, NodeSet.mem_insertAll, List.mem_flatMap, List.any_eq_true]
  simp [NodeSet.empty, mem_found]

private theorem mem_eligible {node : NodeId} :
    node ∈ (eligible document handlers options).members ↔
      isEligible document handlers options node = true := by
  unfold eligible isEligible
  split
  · next ignores => simp [NodeSet.members_retain, mem_candidates, ignores]
  · next keeps => simp [mem_candidates, keeps]

private theorem contains_eligible :
    (eligible document handlers options).contains = isEligible document handlers options := by
  funext node
  rw [Bool.eq_iff_iff, NodeSet.contains_iff, mem_eligible]

private theorem sift_nextAllowed (depth : Depth) (depthOf : NodeId → Nat) (nodes : List NodeId) :
    (NodeSet.sift (nextAllowed depth) (nodes.map depthOf) nodes).1 =
      nodes.filter fun node => depth.allows (depthOf node) := by
  induction nodes with
  | nil => rfl
  | cons node others ih =>
      simp only [List.map_cons, NodeSet.sift, nextAllowed, List.filter_cons, ← ih]
      split <;> rfl

private theorem members_withinDepth (set : NodeSet) (depth : Depth) :
    (withinDepth document set depth).members =
      set.members.filter fun node => depth.allows (set.depthIn document node) :=
  sift_nextAllowed depth (set.depthIn document) set.members

theorem mem_elementIds_of_isEligible (stay : ∀ handler ∈ handlers, handler.rule.StaysIn document)
    {node : NodeId} (member : isEligible document handlers options node = true) :
    node ∈ document.content.elementIds := by
  obtain ⟨handler, known, found⟩ := List.any_eq_true.mp (Bool.and_eq_true_iff.mp member).1
  exact Handler.mem_elementIds_of_finds (stay handler known) found

theorem mem_ids_of_isEligible (stay : ∀ handler ∈ handlers, handler.rule.StaysIn document)
    {node : NodeId} (member : isEligible document handlers options node = true) :
    node ∈ document.content.ids :=
  (Forest.elementIds_sublist_ids _).subset (mem_elementIds_of_isEligible stay member)

private theorem mem_collect_iff_depthIn {node : NodeId} :
    node ∈ (collect document handlers options).members ↔
      isEligible document handlers options node = true ∧ options.depth.allows
        ((eligible document handlers options).depthIn document node) = true := by
  rw [collect, NodeSet.mem_sort, members_withinDepth, List.mem_filter, mem_eligible]

theorem isEligible_of_mem_collect {node : NodeId}
    (quote : node ∈ (collect document handlers options).members) :
    isEligible document handlers options node = true :=
  (mem_collect_iff_depthIn.mp quote).1

/-- The quotes of a document are the eligible nodes that are not nested too deep
among the eligible nodes. -/
theorem mem_collect_of_mem_ids {node : NodeId} (member : node ∈ document.content.ids) :
    node ∈ (collect document handlers options).members ↔
      isEligible document handlers options node = true ∧
        options.depth.allows
          (depthAmong document (isEligible document handlers options) node) = true := by
  rw [mem_collect_iff_depthIn, NodeSet.depthIn_eq_countP _ member, contains_eligible,
    depthAmong]

theorem mem_collect (stay : ∀ handler ∈ handlers, handler.rule.StaysIn document)
    {node : NodeId} :
    node ∈ (collect document handlers options).members ↔
      isEligible document handlers options node = true ∧
        options.depth.allows
          (depthAmong document (isEligible document handlers options) node) = true := by
  constructor
  · intro quote
    have member := mem_ids_of_isEligible stay (isEligible_of_mem_collect quote)
    exact (mem_collect_of_mem_ids member).mp quote
  · intro chosen
    exact (mem_collect_of_mem_ids (mem_ids_of_isEligible stay chosen.1)).mpr chosen

theorem collect_sublist (stay : ∀ handler ∈ handlers, handler.rule.StaysIn document) :
    (collect document handlers options).members.Sublist document.content.ids := by
  refine NodeSet.sort_sublist _ fun node member => ?_
  have quote := (NodeSet.mem_sort _ document node).mpr member
  exact mem_ids_of_isEligible stay (isEligible_of_mem_collect quote)

theorem allows_depth {depth : Depth} {ancestors : Nat} :
    depth.allows ancestors = true ↔ ∀ max, depth = .levels max → ancestors ≤ max.toNat := by
  cases depth with
  | levels max => simp [Depth.allows]
  | infinite => simp [Depth.allows]

private theorem depthAmong_le {upper lower : NodeId} (kind : NodeId → Bool)
    (above : upper ∈ document.content.ancestors lower) :
    depthAmong document kind upper ≤ depthAmong document kind lower := by
  have whole := Forest.ancestors_isPrefix document.content_distinct above
  exact ((List.sublist_append_left _ _).trans whole.sublist).countP_le

/-- Nodes of a kind one below the other: all but the last one are above it. -/
theorem length_chain_le {kind : NodeId → Bool} {chain : List NodeId} {bound : Nat}
    (members : ∀ node ∈ chain, kind node = true)
    (shallow : ∀ node ∈ chain, depthAmong document kind node ≤ bound)
    (nested : chain.Pairwise fun upper lower => upper ∈ document.content.ancestors lower) :
    chain.length ≤ bound + 1 := by
  rcases List.eq_nil_or_concat' chain with rfl | ⟨uppers, last, rfl⟩
  · simp
  · simp only [List.pairwise_append, List.mem_singleton, forall_eq, List.mem_append,
      or_imp, forall_and] at nested members shallow
    have distinct : uppers.Nodup := nested.1.imp fun {upper lower} above equality => by
      have whole := Forest.ancestors_isPrefix document.content_distinct above
      have shorter := whole.length_le
      rw [equality, List.length_append, List.length_singleton] at shorter
      omega
    have within : uppers ⊆ (document.content.ancestors last).filter kind := fun upper known =>
      List.mem_filter.mpr ⟨nested.2.2 upper known, members.1 upper known⟩
    have few := distinct.length_le_of_subset within
    rw [← List.countP_eq_length_filter] at few
    have bounded : depthAmong document kind last ≤ bound := shallow.2
    simp only [List.length_append, List.length_singleton, depthAmong] at bounded ⊢
    omega

/-- Collecting gives, each once and in document order, the eligible nodes with
few enough eligible nodes above them. With a quote all eligible nodes above it
are quotes, so its depth among the quotes is the same, and no more quotes lie
one in the other than the depth allows. -/
theorem collect_exact (document : Document) (handlers : List Handler) (options : Options)
    (stay : ∀ handler ∈ handlers, handler.rule.StaysIn document) :
    let eligible := isEligible document handlers options
    let quotes := (collect document handlers options).members
    (quotes.Nodup ∧ quotes.Sublist document.content.ids) ∧
    (∀ node, node ∈ quotes ↔ eligible node = true ∧
      ∀ max, options.depth = .levels max →
        depthAmong document eligible node ≤ max.toNat) ∧
    (∀ node ∈ quotes, ∀ upper ∈ document.content.ancestors node,
      eligible upper = true → upper ∈ quotes) ∧
    (∀ node ∈ quotes,
      depthAmong document quotes.contains node = depthAmong document eligible node) ∧
    (∀ max, options.depth = .levels max → ∀ chain : List NodeId, chain ⊆ quotes →
      chain.Pairwise (fun upper lower => upper ∈ document.content.ancestors lower) →
      chain.length ≤ max.toNat + 1) := by
  intro eligible quotes
  have exact (node : NodeId) : node ∈ quotes ↔ eligible node = true ∧
      ∀ max, options.depth = .levels max →
        depthAmong document eligible node ≤ max.toNat := by
    rw [← allows_depth]
    exact mem_collect stay
  have closed : ∀ node ∈ quotes, ∀ upper ∈ document.content.ancestors node,
      eligible upper = true → upper ∈ quotes := by
    intro node member upper above known
    refine (exact upper).mpr ⟨known, fun max equality => ?_⟩
    exact Nat.le_trans (depthAmong_le eligible above)
      (((exact node).mp member).2 max equality)
  refine ⟨⟨(collect document handlers options).distinct, collect_sublist stay⟩, exact,
    closed, ?_, ?_⟩
  · intro node member
    refine List.countP_congr fun upper above => ?_
    rw [List.contains_iff_mem]
    exact ⟨fun chosen => ((exact upper).mp chosen).1, closed node member upper above⟩
  · intro max equality chain inside nested
    exact length_chain_le (fun node known => ((exact node).mp (inside known)).1)
      (fun node known => ((exact node).mp (inside known)).2 max equality) nested

/-- At depth zero no quote that a handler finds lies in another one. -/
theorem collect_exact_builtin :
    let document := Document.parse
      "<div class=gmail_quote>a<div class=gmail_quote>b</div></div>"
    let options : Options := { depth := .levels 0 }
    let quotes := (collect document Handler.builtin options).members
    (∀ handler ∈ Handler.builtin, handler.rule.StaysIn document) ∧
      ∀ node ∈ quotes,
        depthAmong document (isEligible document Handler.builtin options) node = 0 := by
  intro document options quotes
  have stay := Handler.builtin_staysIn document
  refine ⟨stay, fun node member => ?_⟩
  obtain ⟨-, exact, -⟩ := collect_exact document Handler.builtin options stay
  exact Nat.le_zero.mp (((exact node).mp member).2 0 rfl)

end Collect

namespace Handler

/-- Whether a handler's selector can be read. -/
def isReadable (handler : Handler) : Bool :=
  (Selector.parse? handler.selector).isSome

/-- The selectors of handlers that can be read, each with its rule. -/
def entries (handlers : List Handler) : List (String × Rule) :=
  (handlers.filter isReadable).map fun handler => (handler.selector, handler.rule)

private theorem mem_entries {handlers : List Handler} {selector : String} {rule : Rule} :
    (selector, rule) ∈ entries handlers ↔ ∃ handler ∈ handlers,
      handler.isReadable = true ∧ handler.selector = selector ∧ handler.rule = rule := by
  simp [entries, and_assoc]

private theorem mem_entries_of_mem {handlers : List Handler} {handler : Handler}
    (member : handler ∈ handlers) (readable : handler.isReadable = true) :
    (handler.selector, handler.rule) ∈ entries handlers :=
  mem_entries.mpr ⟨handler, member, readable, rfl, rfl⟩

private theorem isReadable_of_finds {handler : Handler} {document : Document} {node : NodeId}
    (found : handler.finds document node = true) : handler.isReadable = true := by
  unfold finds at found
  split at found
  · next parsed => rw [isReadable, parsed, Option.isSome_some]
  · cases found

private theorem finds_congr {first second : Handler} (selector : first.selector = second.selector)
    (rule : first.rule = second.rule) (document : Document) :
    first.finds document = second.finds document := by
  funext node
  simp only [finds, resolve, selector, rule]

end Handler

/-- What is done with the quotes of a document depends only on which they are and on their
order. -/
theorem Html.Document.apply_congr {first second : NodeSet}
    (same : first.members = second.members) (document : Document) (mode : Mode)
    (label : String) :
    document.apply first mode label = document.apply second mode label := by
  cases mode with
  | remove => rw [apply, apply, remove, remove, same]
  | wrap =>
      have joined : Wrapping.continues document first = Wrapping.continues document second := by
        funext previous next
        rw [Wrapping.continues, Wrapping.continues]
        split
        · exact Wrapping.reaches_congr
            (fun tree _ => congrFun (NodeSet.contains_congr same) tree.id) next
        · rfl
      rw [apply, apply, wrap, wrap, Wrapping.groups, Wrapping.groups, joined, same]

namespace Registry

open Handler

variable {document : Document} {first second handlers : List Handler} {options : Options}

private theorem isEligible_congr (same : ∀ entry, entry ∈ entries first ↔ entry ∈ entries second)
    (document : Document) (options : Options) :
    Collect.isEligible document first options = Collect.isEligible document second options := by
  have sub {handlers others : List Handler}
      (part : ∀ entry, entry ∈ entries handlers → entry ∈ entries others) (node : NodeId)
      (found : handlers.any (·.finds document node) = true) :
      others.any (·.finds document node) = true := by
    obtain ⟨handler, member, finds⟩ := List.any_eq_true.mp found
    have entry := part _ (mem_entries_of_mem member (isReadable_of_finds finds))
    obtain ⟨other, member', -, selector, rule⟩ := mem_entries.mp entry
    refine List.any_eq_true.mpr ⟨other, member', ?_⟩
    rw [finds_congr selector rule, finds]
  funext node
  have found : first.any (·.finds document node) = second.any (·.finds document node) := by
    rw [Bool.eq_iff_iff]
    exact ⟨sub (fun entry => (same entry).mp) node, sub (fun entry => (same entry).mpr) node⟩
  rw [Collect.isEligible, Collect.isEligible, found]

private theorem found_of_not_isReadable {handler : Handler}
    (unreadable : handler.isReadable = false) :
    Collect.found document handler = [] := by
  rw [isReadable, Option.isSome_eq_false_iff, Option.isNone_iff_eq_none] at unreadable
  rw [Collect.found, find, matched?, unreadable, Option.map_none]

private theorem flatMap_found_filter (document : Document) (handlers : List Handler) :
    (handlers.filter isReadable).flatMap (Collect.found document) =
      handlers.flatMap (Collect.found document) := by
  induction handlers with
  | nil => rfl
  | cons handler others ih =>
      cases readable : handler.isReadable with
      | true =>
          rw [List.filter_cons_of_pos readable, List.flatMap_cons, List.flatMap_cons, ih]
      | false =>
          rw [List.filter_cons_of_neg (Bool.eq_false_iff.mp readable), List.flatMap_cons,
            found_of_not_isReadable readable, List.nil_append, ih]

/-- A handler whose selector cannot be read has no effect. -/
theorem collect_filter_isReadable (document : Document) (handlers : List Handler)
    (options : Options) :
    collect document (handlers.filter isReadable) options =
      collect document handlers options := by
  simp only [collect, Collect.eligible, Collect.candidates, flatMap_found_filter]

private theorem staysIn_congr (same : ∀ entry, entry ∈ entries first ↔ entry ∈ entries second)
    (stay : ∀ handler ∈ first, handler.isReadable = true → handler.rule.StaysIn document) :
    ∀ handler ∈ second, handler.isReadable = true → handler.rule.StaysIn document := by
  intro handler member readable
  have entry := (same _).mpr (mem_entries_of_mem member readable)
  obtain ⟨other, member', readable', -, rule⟩ := mem_entries.mp entry
  exact rule ▸ stay other member' readable'

private theorem collect_sublist (stay : ∀ handler ∈ handlers, handler.isReadable = true →
    handler.rule.StaysIn document) :
    (collect document handlers options).members.Sublist document.content.ids := by
  rw [← collect_filter_isReadable]
  apply Collect.collect_sublist
  intro handler member
  obtain ⟨known, readable⟩ := List.mem_filter.mp member
  exact stay handler known readable

private theorem mem_collect_congr (same : ∀ entry, entry ∈ entries first ↔ entry ∈ entries second)
    (document : Document) (options : Options) (node : NodeId) :
    node ∈ (collect document first options).members ↔
      node ∈ (collect document second options).members := by
  have eligible := isEligible_congr same document options
  have depth : (Collect.eligible document first options).depthIn document node =
      (Collect.eligible document second options).depthIn document node := by
    simp only [NodeSet.depthIn, NodeSet.depthOf, Collect.contains_eligible, eligible]
  rw [Collect.mem_collect_iff_depthIn, Collect.mem_collect_iff_depthIn, eligible, depth]

private theorem members_collect_congr
    (same : ∀ entry, entry ∈ entries first ↔ entry ∈ entries second)
    (stay : ∀ handler ∈ first, handler.isReadable = true → handler.rule.StaysIn document)
    (options : Options) :
    (collect document first options).members = (collect document second options).members :=
  Precedes.eq_of_sublist document.content_distinct (collect_sublist stay)
    (collect_sublist (staysIn_congr same stay)) (mem_collect_congr same document options)

private theorem ofDocument_congr (same : ∀ entry, entry ∈ entries first ↔ entry ∈ entries second)
    (stay : ∀ handler ∈ first, handler.isReadable = true → handler.rule.StaysIn document)
    (source : String) (options : Options) :
    Request.ofDocument source document first options =
      Request.ofDocument source document second options := by
  have quotes := members_collect_congr same stay options
  have isEmpty : (collect document first options).isEmpty =
      (collect document second options).isEmpty := congrArg List.isEmpty quotes
  simp only [Request.ofDocument, isEmpty, Document.apply_congr quotes]

/-- Handlers with the same selectors that can be read and the same rules give the same
quotes, and thereby the same result. Neither their order counts nor how often each is
there, nor are there any traces of handlers whose selectors cannot be read. -/
theorem collect_order_irrelevant (first second : List Handler) (options : Options)
    (same : ∀ entry, entry ∈ entries first ↔ entry ∈ entries second) :
    (∀ document : Document,
      (∀ handler ∈ first, handler.isReadable = true → handler.rule.StaysIn document) →
        (collect document first options).members =
          (collect document second options).members) ∧
    ∀ (html : String) (text : Option String),
      (∀ handler ∈ first, handler.isReadable = true →
        handler.rule.StaysIn (Document.parse html)) →
          Request.htmlOutcome ⟨some html, text, options, first⟩ =
            Request.htmlOutcome ⟨some html, text, options, second⟩ := by
  refine ⟨fun document stay => members_collect_congr same stay options, fun html text stay => ?_⟩
  simp only [Request.htmlOutcome]
  split
  · rfl
  · exact ofDocument_congr same stay html options

/-- The handlers for known mail programs in reverse order and twice, with one between them
whose selector cannot be read. -/
theorem collect_order_irrelevant_builtin :
    let unreadable : Handler := ⟨"unreadable", "div[", .select⟩
    let others := Handler.builtin.reverse ++ unreadable :: Handler.builtin
    let html := "<p>Hi</p><div class=gmail_quote>old</div>"
    (∀ entry, entry ∈ entries Handler.builtin ↔ entry ∈ entries others) ∧
    (∀ handler ∈ Handler.builtin, handler.isReadable = true →
      handler.rule.StaysIn (Document.parse html)) ∧
    Request.htmlOutcome ⟨some html, none, {}, Handler.builtin⟩ =
      Request.htmlOutcome ⟨some html, none, {}, others⟩ := by
  intro unreadable others html
  have absent : unreadable.isReadable = false := by decide
  have same : ∀ entry, entry ∈ entries Handler.builtin ↔ entry ∈ entries others := by
    intro entry
    simp only [others, entries, List.filter_append, List.filter_reverse,
      List.filter_cons_of_neg (Bool.eq_false_iff.mp absent), List.map_append,
      List.map_reverse, List.mem_append, List.mem_reverse, or_self]
  have stay : ∀ handler ∈ Handler.builtin, handler.isReadable = true →
      handler.rule.StaysIn (Document.parse html) :=
    fun handler member _ => Handler.builtin_staysIn _ handler member
  exact ⟨same, stay, (collect_order_irrelevant _ _ {} same).2 html none stay⟩

end Registry

end MailQuote
