import MailQuote.Proofs.Duality
import MailQuote.Proofs.Wrapping.Neighbours

namespace MailQuote

open Html

namespace Html.Forest

private theorem without_eq_of_covered {first second : NodeId → Bool} {forest : Forest}
    (distinct : forest.ids.Nodup)
    (covered : ∀ id ∈ forest.ids, second id = true →
      first id = true ∨ ∃ upper ∈ forest.ancestors id, first upper = true) :
    (forest.without fun id => first id || second id) = forest.without first := by
  rw [← without_without]
  apply without_eq_self
  intro id member
  obtain ⟨known, stays, free⟩ := (mem_ids_without distinct).mp member
  by_contra dropped
  rw [Bool.not_eq_false] at dropped
  rcases covered id known dropped with same | ⟨upper, above, gone⟩
  · rw [stays] at same
    cases same
  · rw [free upper above] at gone
    cases gone

end Html.Forest

namespace Collect

variable {document : Document} {handlers : List Handler} {options : Options}

private theorem depthAmong_lt {kind : NodeId → Bool} {upper lower : NodeId}
    (chosen : kind upper = true) (above : upper ∈ document.content.ancestors lower) :
    depthAmong document kind upper < depthAmong document kind lower := by
  have whole := Forest.ancestors_isPrefix document.content_distinct above
  have counted := whole.sublist.countP_le (p := kind)
  rw [List.countP_append, List.countP_singleton, if_pos chosen] at counted
  exact counted

private theorem exists_outermost (document : Document) {kind : NodeId → Bool} {node : NodeId}
    (chosen : kind node = true) :
    ∃ top, kind top = true ∧ depthAmong document kind top = 0 ∧
      (top = node ∨ top ∈ document.content.ancestors node) := by
  -- On the depth: of two nodes of the kind the upper one is nested less deep.
  induction depth : depthAmong document kind node using Nat.strongRecOn generalizing node with
  | _ bound ih =>
      by_cases outermost : depthAmong document kind node = 0
      · exact ⟨node, chosen, outermost, .inl rfl⟩
      · obtain ⟨upper, above, chosen'⟩ := List.countP_pos_iff.mp (Nat.pos_of_ne_zero outermost)
        have less : depthAmong document kind upper < bound :=
          depth ▸ depthAmong_lt chosen' above
        obtain ⟨top, isTop, shallow, known⟩ := ih _ less chosen' rfl
        refine ⟨top, isTop, shallow, .inr ?_⟩
        rcases known with rfl | further
        · exact above
        · have whole := Forest.ancestors_isPrefix document.content_distinct above
          exact whole.subset (List.mem_append_left _ further)

private theorem exists_quote_around_of_mem_ids {node : NodeId}
    (member : node ∈ document.content.ids)
    (chosen : isEligible document handlers options node = true) :
    ∃ top ∈ (collect document handlers options).members,
      top = node ∨ top ∈ document.content.ancestors node := by
  obtain ⟨top, chosen', outermost, around⟩ := exists_outermost document chosen
  have known : top ∈ document.content.ids := by
    rcases around with rfl | above
    · exact member
    · exact (Forest.ancestors_sublist_ids _ _).subset above
  refine ⟨top, (mem_collect_of_mem_ids known).mpr ⟨chosen', ?_⟩, around⟩
  rw [outermost, allows_depth]
  intro max _
  exact Nat.zero_le _

theorem exists_quote_around (stay : ∀ handler ∈ handlers, handler.rule.StaysIn document)
    {node : NodeId} (chosen : isEligible document handlers options node = true) :
    ∃ top ∈ (collect document handlers options).members,
      top = node ∨ top ∈ document.content.ancestors node :=
  exists_quote_around_of_mem_ids (mem_ids_of_isEligible stay chosen) chosen

theorem content_without_quotes :
    document.content.without (collect document handlers options).members.contains =
      document.content.without (isEligible document handlers options) := by
  have covered : ∀ id ∈ document.content.ids,
      isEligible document handlers options id = true →
        (collect document handlers options).members.contains id = true ∨
          ∃ upper ∈ document.content.ancestors id,
            (collect document handlers options).members.contains upper = true := by
    intro id member chosen
    obtain ⟨top, quote, rfl | above⟩ := exists_quote_around_of_mem_ids member chosen
    · exact .inl (List.contains_iff_mem.mpr quote)
    · exact .inr ⟨top, above, List.contains_iff_mem.mpr quote⟩
  rw [← Forest.without_eq_of_covered document.content_distinct covered]
  apply Forest.without_congr
  intro id _
  cases quoted : (collect document handlers options).members.contains id with
  | false => rfl
  | true =>
      rw [isEligible_of_mem_collect (List.contains_iff_mem.mp quoted), Bool.or_true]

private theorem isEmpty_collect (stay : ∀ handler ∈ handlers, handler.rule.StaysIn document) :
    (collect document handlers options).isEmpty = true ↔
      ∀ node, isEligible document handlers options node = false := by
  rw [NodeSet.isEmpty, List.isEmpty_iff]
  constructor
  · intro none node
    by_contra chosen
    rw [Bool.not_eq_false] at chosen
    obtain ⟨top, quote, -⟩ := exists_quote_around stay chosen
    rw [none] at quote
    cases quote
  · intro none
    apply List.eq_nil_iff_forall_not_mem.mpr
    intro node quote
    have chosen := isEligible_of_mem_collect quote
    rw [none node] at chosen
    cases chosen

end Collect

namespace Depth

variable {document : Document} {handlers : List Handler}

private theorem isEmpty_collect_congr (stay : ∀ handler ∈ handlers, handler.rule.StaysIn document)
    (options : Options) (first second : Depth) :
    (collect document handlers (options.withDepth first)).isEmpty =
      (collect document handlers (options.withDepth second)).isEmpty := by
  rw [Bool.eq_iff_iff, Collect.isEmpty_collect stay, Collect.isEmpty_collect stay]
  exact Iff.rfl

private theorem renderBody_remove_congr (document : Document) (handlers : List Handler)
    (options : Options) (first second : Depth) :
    (document.remove (collect document handlers (options.withDepth first))).renderBody =
      (document.remove (collect document handlers (options.withDepth second))).renderBody := by
  apply Document.renderBody_congr
  apply Document.content_sweepBody_congr
  rw [Document.content_detachAll, Document.content_detachAll,
    Collect.content_without_quotes, Collect.content_without_quotes]
  rfl

private theorem ofDocument_remove_congr (source : String)
    (stay : ∀ handler ∈ handlers, handler.rule.StaysIn document)
    (options : Options) (first second : Depth) :
    Request.ofDocument source document handlers ((options.withMode .remove).withDepth first) =
      Request.ofDocument source document handlers
        ((options.withMode .remove).withDepth second) := by
  have sameQuotes := isEmpty_collect_congr stay (options.withMode .remove) first second
  have content := renderBody_remove_congr document handlers (options.withMode .remove) first
    second
  simp only [Request.ofDocument, sameQuotes]
  split
  · rfl
  · exact congrArg (fun content => Outcome.quoted (trimmed content) .handlers) content

private theorem hadQuotes_ofDocument_congr (source : String)
    (stay : ∀ handler ∈ handlers, handler.rule.StaysIn document)
    (options : Options) (first second : Depth) :
    (Request.ofDocument source document handlers (options.withDepth first)).hadQuotes =
      (Request.ofDocument source document handlers (options.withDepth second)).hadQuotes := by
  have sameQuotes := isEmpty_collect_congr stay options first second
  simp only [Request.ofDocument, sameQuotes]
  split
  · rfl
  · simp only [Outcome.quoted]

/-- Quotes are found at one depth just if they are found at another one, and when they
are removed the result is the same. -/
theorem htmlOutcome_depth_irrelevant (html : String) (handlers : List Handler)
    (options : Options)
    (stay : ∀ handler ∈ handlers, handler.rule.StaysIn (Document.parse html))
    (first second : Depth) :
    let outcome (mode : Mode) (depth : Depth) :=
      Request.htmlOutcome ⟨some html, none, (options.withMode mode).withDepth depth, handlers⟩
    outcome .remove first = outcome .remove second ∧
      ∀ mode, (outcome mode first).hadQuotes = (outcome mode second).hadQuotes := by
  intro outcome
  constructor
  · simp only [outcome, Request.htmlOutcome]
    split
    · rfl
    · exact ofDocument_remove_congr html stay options first second
  · intro mode
    simp only [outcome, Request.htmlOutcome]
    split
    · rfl
    · exact hadQuotes_ofDocument_congr html stay (options.withMode mode) first second

theorem htmlOutcome_depth_irrelevant_builtin :
    let html := "Hi<div class=gmail_quote>a<div class=gmail_quote>b</div></div>"
    let outcome (depth : Depth) :=
      Request.htmlOutcome ⟨some html, none, { depth }, Handler.builtin⟩
    (∀ handler ∈ Handler.builtin, handler.rule.StaysIn (Document.parse html)) ∧
      outcome (.levels 0) = outcome .infinite := by
  intro html outcome
  have stay := Handler.builtin_staysIn (Document.parse html)
  exact ⟨stay,
    (htmlOutcome_depth_irrelevant html Handler.builtin {} stay (.levels 0) .infinite).1⟩

end Depth

/-- Whether a depth is bounded by another one. -/
def Depth.atMost : Depth → Depth → Prop
  | _, .infinite => True
  | .levels first, .levels second => first ≤ second
  | .infinite, .levels _ => False

instance : LE Depth := ⟨Depth.atMost⟩

private theorem Depth.allows_mono {first second : Depth} (le : first ≤ second) {ancestors : Nat}
    (allowed : first.allows ancestors = true) : second.allows ancestors = true := by
  cases second with
  | infinite => rfl
  | levels max' =>
      cases first with
      | infinite => cases le
      | levels max =>
          have bound : max.toNat ≤ max'.toNat := UInt32.le_iff_toNat_le.mp le
          exact decide_eq_true (Nat.le_trans (of_decide_eq_true allowed) bound)

namespace Wrapping

open Forest

private theorem nodup_numbered (container : NodeId) (runs : List (List NodeId)) :
    ((numbered container runs).map Prod.fst).Nodup := by
  induction runs generalizing container with
  | nil => exact .nil
  | cons run runs ih =>
      rw [numbered, List.map_cons, List.nodup_cons]
      refine ⟨fun again => ?_, ih _⟩
      obtain ⟨later, member, same⟩ := List.mem_map.mp again
      have beyond : container < later.1 :=
        Nat.lt_of_lt_of_le (Nat.lt_add_of_pos_right (by decide)) (mem_of_numbered member).1
      exact Nat.ne_of_gt beyond same

private theorem length_numbered (container : NodeId) (runs : List (List NodeId)) :
    (numbered container runs).length = runs.length := by
  induction runs generalizing container with
  | nil => rfl
  | cons run runs ih => rw [numbered, List.length_cons, List.length_cons, ih]

private theorem nodup_containers {original changed : Forest} (distinct : changed.ids.Nodup) :
    (containers original changed).Nodup := by
  rw [← map_id_nodes none changed] at distinct
  exact distinct.sublist (List.filter_sublist.map Node.id)

/-- There is one new disclosure for each run. -/
theorem length_containers_wrap {document : Document} {set : NodeSet}
    (ordered : set.members.Sublist document.content.ids) (label : String) :
    (containers document.content (document.wrap set label).content).length =
      (groups document set).length := by
  have perm : (containers document.content (document.wrap set label).content).Perm
      ((numbered document.next (groups document set)).map Prod.fst) := by
    refine (List.perm_ext_iff_of_nodup (nodup_containers (document.wrap set label).content_distinct)
      (nodup_numbered _ _)).mpr fun container => ?_
    rw [mem_containers, isContainer_wrap ordered, List.mem_map]
  rw [perm.length_eq, List.length_map, length_numbered]

end Wrapping

namespace Depth

open Forest

variable {document : Document} {handlers : List Handler} {options : Options}
  {first second : Depth}

private theorem members_collect_filter (stay : ∀ handler ∈ handlers, handler.rule.StaysIn document)
    (options : Options) (le : first ≤ second) :
    (collect document handlers (options.withDepth first)).members =
      (collect document handlers (options.withDepth second)).members.filter fun node =>
        first.allows (Collect.depthAmong document
          (Collect.isEligible document handlers options) node) := by
  refine Precedes.eq_of_sublist document.content_distinct (Collect.collect_sublist stay)
    (List.filter_sublist.trans (Collect.collect_sublist stay)) fun node => ?_
  rw [List.mem_filter, Collect.mem_collect stay, Collect.mem_collect stay]
  constructor
  · intro ⟨eligible, allowed⟩
    exact ⟨⟨eligible, allows_mono le allowed⟩, allowed⟩
  · intro ⟨⟨eligible, _⟩, allowed⟩
    exact ⟨eligible, allowed⟩

/-- Siblings are nested equally deep, so that a bound on the depth of quotes keeps all of
them or none. -/
theorem continues_of_le (stay : ∀ handler ∈ handlers, handler.rule.StaysIn document)
    (le : first ≤ second) {previous next : NodeId}
    (quote : previous ∈ (collect document handlers (options.withDepth second)).members)
    (joined : Wrapping.continues document
      (collect document handlers (options.withDepth second)) previous next = true) :
    let depth := Collect.depthAmong document (Collect.isEligible document handlers options)
    first.allows (depth previous) = first.allows (depth next) ∧
      (first.allows (depth next) = true → Wrapping.continues document
        (collect document handlers (options.withDepth first)) previous next = true) := by
  intro depth
  obtain ⟨place, known, -, rfl⟩ := document.place?_of_mem
    ((Collect.collect_sublist stay).subset quote)
  have sameDepth : ∀ tree ∈ place.after.trees, depth tree.id = depth place.id := by
    intro tree member
    exact congrArg (List.countP _) (ancestors_of_mem_after document.content_distinct known member)
  rw [Wrapping.continues_eq_reaches known] at joined ⊢
  obtain ⟨tree, member, rfl⟩ := Wrapping.exists_tree_of_reaches joined
  rw [sameDepth tree member]
  refine ⟨rfl, fun allowed => ?_⟩
  rw [← joined]
  apply Wrapping.reaches_congr
  intro other member'
  have kept : first.allows (depth other.id) = true := sameDepth other member' ▸ allowed
  rw [Bool.eq_iff_iff, NodeSet.contains_iff, NodeSet.contains_iff,
    members_collect_filter stay options le, List.mem_filter, and_iff_left kept]

/-- A greater depth keeps all quotes and their order, and gives no fewer disclosures when
the quotes are folded away. -/
theorem collect_mono (document : Document) (handlers : List Handler) (options : Options)
    (stay : ∀ handler ∈ handlers, handler.rule.StaysIn document)
    (first second : Depth) (le : first ≤ second) :
    let quotes (depth : Depth) := collect document handlers (options.withDepth depth)
    let wrapped (depth : Depth) := document.apply (quotes depth) .wrap options.label
    (quotes first).members.Sublist (quotes second).members ∧
      (Wrapping.containers document.content (wrapped first).content).length ≤
        (Wrapping.containers document.content (wrapped second).content).length := by
  intro quotes wrapped
  have filtered := members_collect_filter stay options le
  constructor
  · simp only [quotes, filtered]
    exact List.filter_sublist
  · simp only [wrapped, quotes, Document.apply]
    rw [Wrapping.length_containers_wrap (Collect.collect_sublist stay),
      Wrapping.length_containers_wrap (Collect.collect_sublist stay), Wrapping.groups,
      Wrapping.groups, filtered]
    apply Splitting.length_splitBy_filter_le
    intro previous quote next _ joined
    exact continues_of_le stay le quote joined

/-- Three quotes one in the other, folded away at depth zero and at any depth. -/
theorem collect_mono_builtin :
    let document := Document.parse
      "<div class=gmail_quote>a<div class=gmail_quote>b<div class=gmail_quote>c</div></div></div>"
    let options : Options := {}
    let quotes (depth : Depth) := collect document Handler.builtin (options.withDepth depth)
    let wrapped (depth : Depth) := document.apply (quotes depth) .wrap options.label
    (∀ handler ∈ Handler.builtin, handler.rule.StaysIn document) ∧
      Depth.levels 0 ≤ .infinite ∧
      (quotes (.levels 0)).members.Sublist (quotes .infinite).members ∧
      (Wrapping.containers document.content (wrapped (.levels 0)).content).length ≤
        (Wrapping.containers document.content (wrapped .infinite).content).length := by
  intro document options quotes wrapped
  have stay := Handler.builtin_staysIn document
  have le : Depth.levels 0 ≤ .infinite := trivial
  exact ⟨stay, le, collect_mono document Handler.builtin options stay _ _ le⟩

end Depth

end MailQuote
