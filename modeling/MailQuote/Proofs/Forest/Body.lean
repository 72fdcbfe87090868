import MailQuote.Proofs.Forest.Places

namespace MailQuote.Html

namespace Forest

theorem text_isInfix_of_find? {target : NodeId} {forest : Forest} {tree : Tree}
    (found : forest.find? target = some tree) : tree.text <:+: forest.text := by
  induction forest with
  | nil => cases found
  | cons id data children rest ihChildren ihRest =>
      rw [text]
      rw [find?] at found
      split at found
      · cases found
        exact (List.prefix_append _ _).isInfix
      · split at found
        · next inside =>
            cases found
            have below : children.text <:+: data.ownText ++ children.text ++ rest.text :=
              ⟨data.ownText, rest.text, rfl⟩
            exact (ihChildren inside).trans below
        · exact (ihRest found).trans (List.suffix_append _ _).isInfix

theorem find?_of_find? {upper lower : NodeId} {forest : Forest} {tree inner : Tree}
    (distinct : forest.ids.Nodup) (found : forest.find? upper = some tree)
    (below : tree.children.find? lower = some inner) : forest.find? lower = some inner := by
  induction forest with
  | nil => cases found
  | cons id data children rest ihChildren ihRest =>
      have parts := List.nodup_append.mp (List.nodup_cons.mp distinct).2
      rw [find?_cons_eq_some distinct] at found ⊢
      rcases found with ⟨-, rfl⟩ | inside | after
      · exact .inr (.inl below)
      · exact .inr (.inl (ihChildren parts.1 inside))
      · exact .inr (.inr (ihRest parts.2.1 after))

theorem id_of_find? {target : NodeId} {forest : Forest} {tree : Tree}
    (found : forest.find? target = some tree) : tree.id = target := by
  induction forest with
  | nil => cases found
  | cons id data children rest ihChildren ihRest =>
      rw [find?] at found
      split at found
      · next here =>
          cases found
          exact here
      · split at found
        · next inside =>
            cases found
            exact ihChildren inside
        · exact ihRest found

end Forest

namespace Document

open Forest

theorem exists_find?_below {document : Document} {upper lower : NodeId} {tree : Tree}
    (found : document.find? upper = some tree) (below : lower ∈ tree.ids) :
    ∃ inner, document.find? lower = some inner ∧ inner.text <:+: tree.text := by
  rcases List.mem_cons.mp below with rfl | inside
  · have same := id_of_find? (document.find?_eq_join upper ▸ found)
    exact ⟨tree, same ▸ found, List.infix_refl _⟩
  · obtain ⟨inner, found'⟩ := exists_find? inside
    rw [find?_eq_join] at found ⊢
    refine ⟨inner, find?_of_find? document.sound.distinct found found', ?_⟩
    exact (text_isInfix_of_find? found').trans (List.suffix_append _ _).isInfix

end Document

namespace Forest

private theorem elementIds_sublist_of_find? {target : NodeId} {forest : Forest} {tree : Tree}
    (found : forest.find? target = some tree) :
    tree.children.elementIds.Sublist forest.elementIds := by
  induction forest with
  | nil => simp [find?] at found
  | cons id data children rest ihChildren ihRest =>
      simp only [find?] at found
      refine List.Sublist.trans ?_ (List.sublist_append_right _ _)
      split at found
      · cases found
        exact List.sublist_append_left _ _
      · split at found
        · next inside =>
            cases found
            exact (ihChildren inside).trans (List.sublist_append_left _ _)
        · exact (ihRest found).trans (List.sublist_append_right _ _)

theorem find?_of_named? {localName : String} {forest : Forest} {tree : Tree}
    (distinct : forest.ids.Nodup) (named : forest.named? localName = some tree) :
    forest.find? tree.id = some tree := by
  induction forest with
  | nil => cases named
  | cons id data children rest ihChildren ihRest =>
      have parts := List.nodup_append.mp (List.nodup_cons.mp distinct).2
      rw [find?_cons_eq_some distinct]
      simp only [named?] at named
      split at named
      · cases named
        exact .inl ⟨rfl, rfl⟩
      · split at named
        · next inside =>
            cases named
            exact .inr (.inl (ihChildren parts.1 inside))
        · exact .inr (.inr (ihRest parts.2.1 named))

private theorem find?_eq_some_of_sublist {α : Type} {keep : α → Bool} {part whole : List α}
    {first : α} (sublist : part.Sublist whole) (distinct : whole.Nodup)
    (found : whole.find? keep = some first) (member : first ∈ part) :
    part.find? keep = some first := by
  induction sublist with
  | slnil => cases member
  | cons head tail ih =>
      obtain ⟨fresh, distinct⟩ := List.nodup_cons.mp distinct
      rw [List.find?_cons] at found
      split at found
      · cases found
        exact absurd (tail.subset member) fresh
      · exact ih distinct found member
  | cons_cons head tail ih =>
      obtain ⟨fresh, distinct⟩ := List.nodup_cons.mp distinct
      rw [List.find?_cons] at found ⊢
      split at found
      · exact found
      · next drops =>
          refine ih distinct found ((List.mem_cons.mp member).resolve_left ?_)
          intro equality
          have keeps := List.find?_some found
          rw [equality, drops] at keeps
          cases keeps

private theorem map_id_named? (localName : String) (parent : Option NodeId) (forest : Forest) :
    (forest.named? localName).map Tree.id =
      ((forest.nodes parent).find? fun node =>
        node.data.name?.any fun name => name.localName == localName).map Node.id := by
  induction forest generalizing parent with
  | nil => rfl
  | cons id data children rest ihChildren ihRest =>
      have inside := ihChildren (some id)
      have after := ihRest parent
      simp only [named?, nodes, List.find?_cons, List.find?_append]
      cases data.name?.any fun name => name.localName == localName with
      | true => rfl
      | false =>
          simp only [Bool.false_eq_true, if_false, Option.map_or, ← inside, ← after]
          cases children.named? localName <;> rfl

theorem map_id_named?_cons (localName : String) (id : NodeId) (data : NodeData)
    (children rest : Forest) :
    ((cons id data children rest).named? localName).map Tree.id =
      if data.name?.any fun name => name.localName == localName then some id
      else ((children.named? localName).map Tree.id).or
        ((rest.named? localName).map Tree.id) := by
  rw [named?]
  split
  · rfl
  · cases children.named? localName <;> rfl

theorem map_id_named?_append (localName : String) (first second : Forest) :
    ((first ++ second).named? localName).map Tree.id =
      ((first.named? localName).map Tree.id).or
        ((second.named? localName).map Tree.id) := by
  induction first with
  | nil => rfl
  | cons id data children rest _ ih =>
      rw [cons_append, map_id_named?_cons, map_id_named?_cons, ih]
      split
      · rfl
      · rw [Option.or_assoc]

theorem named?_without {localName : String} {drop : NodeId → Bool} {forest : Forest}
    {tree : Tree} (distinct : forest.ids.Nodup)
    (named : forest.named? localName = some tree)
    (stays : tree.id ∈ (forest.without drop).ids) :
    (forest.without drop).named? localName =
      some ⟨tree.id, tree.data, tree.children.without drop⟩ := by
  have part := nodes_without_sublist drop none forest
  have distinct' := (ids_without_sublist drop forest).nodup distinct
  have first := map_id_named? localName none forest
  obtain ⟨node, found, same⟩ := Option.map_eq_some_iff.mp (named ▸ first).symm
  obtain ⟨node', known, same'⟩ := (mem_ids_iff_nodes none).mp stays
  have equality := nodes_unique distinct (part.subset known)
    (List.mem_of_find?_eq_some found) (same'.trans same.symm)
  have first' := map_id_named? localName none (forest.without drop)
  have nodesDistinct : (forest.nodes none).Nodup :=
    .of_map Node.id ((map_id_nodes none forest).symm ▸ distinct)
  rw [find?_eq_some_of_sublist part nodesDistinct found (equality ▸ known)] at first'
  obtain ⟨tree', named', same''⟩ := Option.map_eq_some_iff.mp first'
  have found' := find?_of_named? distinct' named'
  rw [same'', same, find?_without distinct (find?_of_named? distinct named) stays] at found'
  exact named'.trans found'.symm

end Forest

namespace Document

open Forest

theorem bodyElements_sublist (document : Document) :
    document.bodyElements.Sublist document.content.elementIds := by
  rw [bodyElements, bodyContent]
  split
  · next body named =>
      exact elementIds_sublist_of_find?
        (find?_of_named? document.content_distinct named)
  · exact .refl _

theorem bodyElements_congr {first second : Document} (same : first.content = second.content) :
    first.bodyElements = second.bodyElements := by
  simp only [bodyElements, bodyContent, body?, same]

theorem renderBody_congr {first second : Document} (same : first.content = second.content) :
    first.renderBody = second.renderBody := by
  simp only [renderBody, bodyContent, body?, same]

end Document

namespace Forest

variable {drop : NodeId → Bool} {forest : Forest}

theorem upper_mem_ids_without (distinct : forest.ids.Nodup) {upper lower : NodeId}
    (stays : lower ∈ (forest.without drop).ids) (above : upper ∈ forest.ancestors lower) :
    upper ∈ (forest.without drop).ids := by
  obtain ⟨-, -, free⟩ := (mem_ids_without distinct).mp stays
  have whole := ancestors_isPrefix distinct above
  exact (mem_ids_without distinct).mpr ⟨(ancestors_sublist_ids _ _).subset above,
    free upper above, fun further known => free further (whole.subset (by simp [known]))⟩

theorem ancestors_without (distinct : forest.ids.Nodup) {target : NodeId}
    (stays : target ∈ (forest.without drop).ids) :
    (forest.without drop).ancestors target = forest.ancestors target := by
  have distinct' := (ids_without_sublist drop forest).nodup distinct
  refine Precedes.eq_of_sublist distinct
    ((ancestors_sublist_ids _ _).trans (ids_without_sublist drop forest))
    (ancestors_sublist_ids _ _) fun upper => ?_
  constructor
  · intro above
    obtain ⟨tree, found, below⟩ := (mem_ancestors distinct').mp above
    have kept := mem_of_find? found
    obtain ⟨whole, found'⟩ := exists_find? ((ids_without_sublist drop forest).subset kept)
    rw [find?_without distinct found' kept] at found
    cases found
    exact (mem_ancestors distinct).mpr
      ⟨whole, found', (ids_without_sublist drop _).subset below⟩
  · intro above
    have kept := upper_mem_ids_without distinct stays above
    obtain ⟨whole, found, below⟩ := (mem_ancestors distinct).mp above
    refine (mem_ancestors distinct').mpr ⟨_, find?_without distinct found kept, ?_⟩
    obtain ⟨-, keeps, free⟩ := (mem_ids_without distinct).mp stays
    refine (mem_ids_without ((ids_children_sublist found).nodup distinct)).mpr
      ⟨below, keeps, fun further between => free further ?_⟩
    rw [ancestors_of_find? distinct found below]
    exact List.mem_append_right _ (.tail _ between)

theorem without_of_implies {first second : NodeId → Bool}
    (implies : ∀ id, first id = true → second id = true) :
    forest.without second = (forest.without first).without second := by
  rw [without_without]
  refine without_congr fun id _ => ?_
  cases dropped : first id with
  | false => rfl
  | true => rw [implies id dropped, Bool.or_true]

private theorem mem_elementIds_without (distinct : forest.ids.Nodup) {target : NodeId} :
    target ∈ (forest.without drop).elementIds ↔
      target ∈ forest.elementIds ∧ target ∈ (forest.without drop).ids := by
  have part := nodes_without_sublist drop none forest
  rw [mem_elementIds none, mem_elementIds none, mem_ids_iff_nodes none]
  constructor
  · intro ⟨node, member, element, same⟩
    exact ⟨⟨node, part.subset member, element, same⟩, node, member, same⟩
  · intro ⟨⟨node, member, element, same⟩, node', member', same'⟩
    have equality := nodes_unique distinct (part.subset member') member (same'.trans same.symm)
    exact ⟨node, equality ▸ member', element, same⟩

/-- If all elements in what is taken out are to be taken out themselves, these are the ones
that are gone. -/
theorem elementIds_without (distinct : forest.ids.Nodup)
    (closed : ∀ upper, drop upper = true → ∀ lower ∈ forest.elementIds,
      upper ∈ forest.ancestors lower → drop lower = true) :
    (forest.without drop).elementIds = forest.elementIds.filter fun id => !drop id := by
  refine Precedes.eq_of_sublist distinct
    ((elementIds_sublist_ids _).trans (ids_without_sublist drop forest))
    (List.filter_sublist.trans (elementIds_sublist_ids _)) fun node => ?_
  rw [mem_elementIds_without distinct, mem_ids_without distinct, List.mem_filter,
    Bool.not_eq_true']
  constructor
  · rintro ⟨element, -, spared, -⟩
    exact ⟨element, spared⟩
  · rintro ⟨element, spared⟩
    refine ⟨element, (elementIds_sublist_ids _).subset element, spared, fun upper above => ?_⟩
    by_contra dropped
    rw [closed upper (Bool.not_eq_false _ ▸ dropped) node element above] at spared
    cases spared

theorem text_without_sublist (drop : NodeId → Bool) (forest : Forest) :
    (forest.without drop).text.Sublist forest.text := by
  induction forest with
  | nil => exact .slnil
  | cons id data children rest ihChildren ihRest =>
      rw [without]
      split
      · exact ihRest.trans (List.sublist_append_right _ _)
      · exact (ihChildren.append_left data.ownText).append ihRest

theorem hasElement_without (none : forest.hasElement = false) :
    (forest.without drop).hasElement = false := by
  induction forest with
  | nil => rfl
  | cons id data children rest _ ihRest =>
      rw [hasElement, Bool.or_eq_false_iff] at none
      rw [without]
      split
      · exact ihRest none.2
      · rw [hasElement, none.1, ihRest none.2, Bool.or_false]

private theorem named?_without_eq_none {localName : String}
    (none : forest.named? localName = none) : (forest.without drop).named? localName = .none := by
  have before := map_id_named? localName .none forest
  have after := map_id_named? localName .none (forest.without drop)
  rw [none, Option.map_none, eq_comm, Option.map_eq_none_iff, List.find?_eq_none] at before
  rw [List.find?_eq_none.mpr fun node member =>
    before node ((nodes_without_sublist drop _ forest).subset member)] at after
  exact Option.map_eq_none_iff.mp after

end Forest

namespace Document

open Forest

variable {document first second : Document} {drop : NodeId → Bool} {node : NodeId}

/-- The elements in the body are those that it is above, or all if there is none. -/
theorem mem_bodyElements : node ∈ document.bodyElements ↔
    node ∈ document.content.elementIds ∧
      ∀ body ∈ document.body?, body.id ∈ document.content.ancestors node := by
  have distinct := document.content_distinct
  rw [bodyElements, bodyContent]
  cases named : document.body? with
  | none => simp
  | some body =>
      have found := find?_of_named? distinct named
      simp only [mem_elementIds_of_find? distinct found, mem_ancestors distinct, found,
        Option.mem_def, Option.some.injEq, forall_eq', exists_eq_left']
      exact and_comm

/-- What stays of the elements in the body is in the body of what stays. -/
theorem mem_bodyElements_without (smaller : second.content = first.content.without drop)
    (below : node ∈ first.bodyElements) (stays : node ∈ second.content.ids) :
    node ∈ second.bodyElements := by
  have distinct := first.content_distinct
  obtain ⟨element, above⟩ := mem_bodyElements.mp below
  rw [mem_bodyElements, body?, smaller]
  rw [smaller] at stays
  refine ⟨(mem_elementIds_without distinct).mpr ⟨element, stays⟩, fun body named' => ?_⟩
  rw [ancestors_without distinct stays]
  cases named : first.content.named? "body" with
  | none =>
      rw [named?_without_eq_none named] at named'
      cases named'
  | some whole =>
      have known := above whole named
      rw [named?_without distinct named (upper_mem_ids_without distinct stays known)] at named'
      cases named'
      exact known

private theorem body_mem_ids_without {body : Tree} (named : first.body? = some body)
    (inside : ∀ id, drop id = true → id ∈ first.bodyElements) :
    body.id ∈ (first.content.without drop).ids := by
  have distinct := first.content_distinct
  have notBelow {id : NodeId} (dropped : drop id = true) :
      body.id ∈ first.content.ancestors id :=
    (mem_bodyElements.mp (inside id dropped)).2 body named
  refine (mem_ids_without distinct).mpr
    ⟨mem_of_find? (find?_of_named? distinct named), ?_, fun upper above => ?_⟩
  · by_contra dropped
    exact not_mem_ancestors_self distinct (notBelow (Bool.not_eq_false _ ▸ dropped))
  · by_contra dropped
    have whole := ancestors_isPrefix distinct above
    have self := whole.subset (List.mem_append_left _ (notBelow (Bool.not_eq_false _ ▸ dropped)))
    exact not_mem_ancestors_self distinct self

theorem id_body?_without (smaller : second.content = first.content.without drop)
    (inside : ∀ id, drop id = true → id ∈ first.bodyElements) :
    second.body?.map Tree.id = first.body?.map Tree.id := by
  rw [body?, smaller]
  cases named : first.body? with
  | none => rw [named?_without_eq_none named]
  | some body =>
      rw [named?_without first.content_distinct named (body_mem_ids_without named inside)]
      rfl

theorem mem_bodyElements_without_iff (smaller : second.content = first.content.without drop)
    (inside : ∀ id, drop id = true → id ∈ first.bodyElements) :
    node ∈ second.bodyElements ↔ node ∈ first.bodyElements ∧ node ∈ second.content.ids := by
  have distinct := first.content_distinct
  refine ⟨fun below => ?_, fun ⟨below, stays⟩ => mem_bodyElements_without smaller below stays⟩
  obtain ⟨element, above⟩ := mem_bodyElements.mp below
  rw [smaller] at element above
  obtain ⟨element', stays⟩ := (mem_elementIds_without distinct).mp element
  refine ⟨mem_bodyElements.mpr ⟨element', fun body named => ?_⟩, smaller ▸ stays⟩
  have same := id_body?_without smaller inside
  rw [named, Option.map_some, Option.map_eq_some_iff] at same
  obtain ⟨body', named', equality⟩ := same
  have known := above body' named'
  rwa [ancestors_without distinct stays, equality] at known

theorem filter_elementIds (document : Document) :
    document.content.elementIds.filter document.bodyElements.contains =
      document.bodyElements := by
  refine Precedes.eq_of_sublist document.content_distinct
    (List.filter_sublist.trans (elementIds_sublist_ids _))
    (document.bodyElements_sublist.trans (elementIds_sublist_ids _)) fun node => ?_
  rw [List.mem_filter, List.contains_iff_mem]
  exact ⟨And.right, fun below => ⟨document.bodyElements_sublist.subset below, below⟩⟩

theorem bodyElements_without (smaller : second.content = first.content.without drop)
    (inside : ∀ id, drop id = true → id ∈ first.bodyElements)
    (closed : ∀ upper, drop upper = true → ∀ lower ∈ first.content.elementIds,
      upper ∈ first.content.ancestors lower → drop lower = true) :
    second.bodyElements = first.bodyElements.filter fun id => !drop id := by
  have distinct := first.content_distinct
  have part : second.content.ids.Sublist first.content.ids :=
    smaller ▸ ids_without_sublist drop first.content
  refine Precedes.eq_of_sublist distinct
    ((second.bodyElements_sublist.trans (elementIds_sublist_ids _)).trans part)
    ((List.filter_sublist.trans first.bodyElements_sublist).trans (elementIds_sublist_ids _))
    fun node => ?_
  rw [mem_bodyElements_without_iff smaller inside, List.mem_filter]
  refine and_congr_right fun below => ?_
  have element := first.bodyElements_sublist.subset below
  have stays : node ∈ (first.content.without drop).elementIds ↔
      node ∈ first.content.elementIds ∧ node ∈ (first.content.without drop).ids :=
    mem_elementIds_without distinct
  rw [elementIds_without distinct closed, List.mem_filter, and_iff_right element,
    and_iff_right element] at stays
  rw [stays, smaller]

end Document

end MailQuote.Html
