import MailQuote.Proofs.Depth

namespace MailQuote

open Html

namespace Removal

theorem ids_remove_subset (document : Document) (set : NodeSet) :
    (document.remove set).content.ids ⊆
      (document.content.without set.members.contains).ids := by
  rw [Document.remove, Document.content_sweepBody, Document.content_detachAll]
  exact (Forest.ids_without_sublist _ _).subset

private theorem isLeftEmpty_eq_false {text : List Char} {tree : Tree} (part : text <:+: tree.text)
    (filled : Text.allBlank text = false) : tree.data.isLeftEmpty tree.children = false := by
  have filled : Text.allBlank tree.text = false := by
    rw [Text.allBlank, List.all_eq_false] at filled ⊢
    exact filled.imp fun c visible => ⟨part.subset visible.1, visible.2⟩
  rw [← Bool.not_eq_true, NodeData.isLeftEmpty, Bool.and_eq_true]
  rintro ⟨element, blank⟩
  cases kind : tree.data with
  | element => simp [Tree.text, kind, NodeData.ownText, blank] at filled
  | text => simp [kind, NodeData.isElement, NodeData.name?] at element
  | comment => simp [kind, NodeData.isElement, NodeData.name?] at element
  | doctype => simp [kind, NodeData.isElement, NodeData.name?] at element

private theorem mem_ids_remove_of_filled {document : Document} {set : NodeSet} {node : NodeId}
    (stays : node ∈ (document.content.without set.members.contains).ids)
    (filled : (document.content.without set.members.contains).isLeftEmpty node = false)
    (above : ∀ upper ∈ (document.content.without set.members.contains).ancestors node,
      (document.content.without set.members.contains).isLeftEmpty upper = false) :
    node ∈ (document.remove set).content.ids := by
  have distinct := (document.content_sound.without set.members.contains).distinct
  rw [Document.remove, Document.content_sweepBody, Document.content_detachAll]
  refine (Forest.mem_ids_without distinct).mpr ⟨stays, ?_, fun upper member => ?_⟩
  · rw [filled, Bool.and_false]
  · rw [above upper member, Bool.and_false]

/-- The sweep takes no text away but white space. -/
theorem mem_ids_remove_of_text {document : Document} {set : NodeSet} {node : NodeId}
    {tree : Tree}
    (found : (document.content.without set.members.contains).find? node = some tree)
    (filled : Text.allBlank tree.text = false) :
    node ∈ (document.remove set).content.ids := by
  have distinct := (document.content_sound.without set.members.contains).distinct
  have keeps {upper : NodeId} {outer : Tree}
      (found' : (document.content.without set.members.contains).find? upper = some outer)
      (part : tree.text <:+: outer.text) :
      (document.content.without set.members.contains).isLeftEmpty upper = false := by
    rw [Forest.isLeftEmpty, found']
    exact isLeftEmpty_eq_false part filled
  refine mem_ids_remove_of_filled (Forest.mem_of_find? found) (keeps found (List.infix_refl _))
    fun upper above => ?_
  obtain ⟨outer, found', below⟩ := (Forest.mem_ancestors distinct).mp above
  obtain ⟨inner, inside⟩ := Forest.exists_find? below
  have same := (Forest.find?_of_find? distinct found' inside).symm.trans found
  obtain rfl := Option.some.inj same
  exact keeps found' ((Forest.text_isInfix_of_find? inside).trans
    (List.suffix_append outer.data.ownText _).isInfix)

/-- The sweep takes away empty elements, and with them only what has neither elements nor
text in it. -/
theorem mem_ids_remove {document : Document} {set : NodeSet} {node : NodeId} {tree : Tree}
    (found : (document.content.without set.members.contains).find? node = some tree)
    (filled : tree.data.isLeftEmpty tree.children = false)
    (shown : tree.data.isElement = true ∨ Text.allBlank tree.text = false) :
    node ∈ (document.remove set).content.ids := by
  rcases shown with element | some
  · have sound := document.content_sound.without set.members.contains
    obtain ⟨⟨parent, known⟩, -⟩ := Forest.nodes_of_find? found none
    refine mem_ids_remove_of_filled (Forest.mem_of_find? found) ?_ fun upper above => ?_
    · rw [Forest.isLeftEmpty, found]
      exact filled
    · refine Bool.eq_false_iff.mpr fun empty => ?_
      have leaf := (Forest.below_isLeftEmpty sound known above empty).2
      exact absurd element (Bool.eq_false_iff.mp leaf)
  · exact mem_ids_remove_of_text found some

end Removal

namespace Collect

variable {document : Document} {handlers : List Handler} {options : Options}

theorem isForward_eq {node : NodeId} {tree : Tree}
    (found : document.content.find? node = some tree) :
    isForward document node = Marker.isForward tree.text := by
  rw [isForward, document.find?_of_content found]

theorem isEligible_of_resolve {handler : Handler} {matched quote : Place}
    (keeps : options.ignoreFirstForward = false) (member : handler ∈ handlers)
    (known : matched ∈ document.places)
    (picked : Selector.picks handler.selector matched = true)
    (resolved : quote ∈ handler.resolve matched) :
    isEligible document handlers options quote.id = true := by
  have found : handler.finds document quote.id = true :=
    Handler.finds_iff.mpr ⟨matched, known, picked, quote, resolved, rfl⟩
  rw [isEligible, keeps, List.any_eq_true.mpr ⟨handler, member, found⟩]
  rfl

theorem exists_quote_over (stay : ∀ handler ∈ handlers, handler.rule.StaysIn document)
    {node lower : NodeId} (chosen : isEligible document handlers options node = true)
    (around : node = lower ∨ node ∈ document.content.ancestors lower) :
    ∃ quote ∈ (collect document handlers options).members,
      quote = lower ∨ quote ∈ document.content.ancestors lower := by
  obtain ⟨top, quote, around'⟩ := exists_quote_around stay chosen
  refine ⟨top, quote, ?_⟩
  rcases around with rfl | above
  · exact around'
  · rcases around' with rfl | further
    · exact .inr above
    · have whole := Forest.ancestors_isPrefix document.content_distinct above
      exact .inr (whole.subset (List.mem_append_left _ further))

/-- Neither an eligible node nor anything below it stays when the quotes are removed. -/
theorem not_mem_ids_remove {node lower : NodeId}
    (chosen : isEligible document handlers options node = true)
    (around : node = lower ∨ node ∈ document.content.ancestors lower) (label : String) :
    lower ∉ (document.apply (collect document handlers options) .remove label).content.ids := by
  intro member
  have stays := Removal.ids_remove_subset _ _ member
  rw [content_without_quotes] at stays
  obtain ⟨-, free, free'⟩ := (Forest.mem_ids_without document.content_distinct).mp stays
  rcases around with rfl | above
  · rw [chosen] at free
    cases free
  · have spared := free' node above
    rw [chosen] at spared
    cases spared

end Collect

namespace Html.Forest

variable {forest : Forest}

private theorem isLeftEmpty_without {drop : NodeId → Bool} (distinct : forest.ids.Nodup)
    {node : NodeId}
    (stays : node ∈ (forest.without drop).ids) (empty : forest.isLeftEmpty node = true) :
    (forest.without drop).isLeftEmpty node = true := by
  obtain ⟨tree, found⟩ := exists_find? ((ids_without_sublist drop forest).subset stays)
  rw [isLeftEmpty, found] at empty
  rw [isLeftEmpty, find?_without distinct found stays]
  simp only [NodeData.isLeftEmpty, Bool.and_eq_true, Bool.not_eq_true'] at empty ⊢
  obtain ⟨⟨kind, bare⟩, blank⟩ := empty
  refine ⟨⟨kind, hasElement_without bare⟩, List.all_eq_true.mpr fun c member => ?_⟩
  exact List.all_eq_true.mp blank c ((text_without_sublist drop _).subset member)

end Html.Forest

namespace Removal

open Forest

/-- What the sweep takes out of a document it takes out of a part of it as well. -/
theorem ids_sweepBody_subset {first second : Document} {drop : NodeId → Bool}
    (smaller : second.content = first.content.without drop) :
    second.sweepBody.2.content.ids ⊆ first.sweepBody.2.content.ids := by
  have distinct := first.content_distinct
  have spared {node : NodeId} (kept : node ∈ second.content.ids)
      (free : (second.bodyElements.contains node && second.content.isLeftEmpty node) = false) :
      (first.bodyElements.contains node && first.content.isLeftEmpty node) = false := by
    rw [← Bool.not_eq_true, Bool.and_eq_true, List.contains_iff_mem] at free ⊢
    intro ⟨below, empty⟩
    refine free ⟨Document.mem_bodyElements_without smaller below kept, ?_⟩
    rw [smaller] at kept ⊢
    exact isLeftEmpty_without distinct kept empty
  intro node stays
  rw [Document.content_sweepBody] at stays ⊢
  obtain ⟨kept, free, freeAbove⟩ := (mem_ids_without second.content_distinct).mp stays
  have kept' : node ∈ (first.content.without drop).ids := smaller ▸ kept
  refine (mem_ids_without distinct).mpr
    ⟨(ids_without_sublist drop _).subset kept', spared kept free, fun upper above => ?_⟩
  have above' : upper ∈ second.content.ancestors node := by
    rwa [smaller, ancestors_without distinct kept']
  exact spared (smaller ▸ upper_mem_ids_without distinct kept' above) (freeAbove upper above')

private theorem ids_remove_subset_of_without {document : Document} {first second : NodeSet}
    {drop : NodeId → Bool}
    (smaller : document.content.without second.members.contains =
      (document.content.without first.members.contains).without drop) :
    (document.remove second).content.ids ⊆ (document.remove first).content.ids := by
  apply ids_sweepBody_subset
  rw [Document.content_detachAll, Document.content_detachAll]
  exact smaller

private theorem ids_remove_subset_of_isEligible {document : Document}
    {handlers others : List Handler}
    {options options' : Options}
    (implies : ∀ node, Collect.isEligible document handlers options node = true →
      Collect.isEligible document others options' node = true) :
    (document.remove (collect document others options')).content.ids ⊆
      (document.remove (collect document handlers options)).content.ids := by
  apply ids_remove_subset_of_without
  rw [Collect.content_without_quotes, Collect.content_without_quotes]
  exact without_of_implies implies

private theorem isEligible_of_subset {document : Document} {handlers others : List Handler}
    {options : Options} (more : handlers ⊆ others) {node : NodeId}
    (chosen : Collect.isEligible document handlers options node = true) :
    Collect.isEligible document others options node = true := by
  obtain ⟨found, spared⟩ := Bool.and_eq_true_iff.mp chosen
  obtain ⟨handler, member, finds⟩ := List.any_eq_true.mp found
  exact Bool.and_eq_true_iff.mpr ⟨List.any_eq_true.mpr ⟨handler, more member, finds⟩, spared⟩

private theorem isEligible_of_ignoring {document : Document} {handlers : List Handler}
    (options : Options) {node : NodeId}
    (chosen : Collect.isEligible document handlers
      (options.withIgnoreFirstForward true) node = true) :
    Collect.isEligible document handlers
      (options.withIgnoreFirstForward false) node = true := by
  rw [Collect.isEligible, Bool.and_eq_true] at chosen
  rw [Collect.isEligible, chosen.1]
  rfl

/-- What stays when quotes are removed stays when fewer are removed. So a node that is gone
is gone with more handlers, too, and one that stays does so when forwarded messages are left
alone. Neither depends on how deep quotes may be nested before and after. -/
theorem remove_antitone (document : Document) (label : String) :
    let remaining (set : NodeSet) := (document.apply set .remove label).content.ids
    (∀ first second : NodeSet, first.members ⊆ second.members →
      remaining second ⊆ remaining first) ∧
    (∀ handlers others : List Handler, handlers ⊆ others →
      ∀ (options : Options) (depth depth' : Depth),
        remaining (collect document others (options.withDepth depth')) ⊆
          remaining (collect document handlers (options.withDepth depth))) ∧
    ∀ (handlers : List Handler) (options : Options) (depth depth' : Depth),
      remaining (collect document handlers
          ((options.withIgnoreFirstForward false).withDepth depth)) ⊆
        remaining (collect document handlers
          ((options.withIgnoreFirstForward true).withDepth depth')) := by
  intro remaining
  refine ⟨fun first second more => ?sets, fun handlers others more options _ _ => ?handlers,
    fun handlers options _ _ => ?forwards⟩
  case sets =>
    apply ids_remove_subset_of_without
    refine without_of_implies fun id dropped => ?_
    rw [List.contains_iff_mem] at dropped ⊢
    exact more dropped
  case handlers =>
    apply ids_remove_subset_of_isEligible
    intro node chosen
    exact isEligible_of_subset more chosen
  case forwards =>
    apply ids_remove_subset_of_isEligible
    intro node chosen
    exact isEligible_of_ignoring options chosen

/-- Where quotes may not be nested, one more handler makes another one's quote too deep.
It goes all the same. -/
theorem remove_antitone_nested :
    let document := Document.parse "<div class=gmail_quote>a<p class=zmail_extra>b</p></div>"
    let zoho : Handler := ⟨"zoho", ".zmail_extra", .select⟩
    let gmail : Handler := ⟨"gmail", ".gmail_quote", .refine Handler.gmail⟩
    let options : Options := { depth := .levels 0 }
    let more := collect document [gmail, zoho] options
    [zoho] ⊆ [gmail, zoho] ∧ ∃ inner ∈ (collect document [zoho] options).members,
      inner ∉ more.members ∧
        inner ∉ (document.apply more .remove options.label).content.ids := by
  intro document zoho gmail options more
  have exists_inner : ∃ inner ∈ (collect document [zoho] options).members,
      inner ∉ more.members ∧ inner ∉
        (document.apply (collect document [zoho] options) .remove options.label).content.ids := by
    decide +kernel
  obtain ⟨inner, quote, deep, gone⟩ := exists_inner
  have added : [zoho] ⊆ [gmail, zoho] := List.subset_cons_self gmail [zoho]
  have fewer := (remove_antitone document options.label).2.1 _ _ added options (.levels 0)
    (.levels 0)
  exact ⟨added, inner, quote, deep, fun stays => gone (fewer stays)⟩

end Removal

end MailQuote
