import MailQuote.Proofs.Wrapping

namespace MailQuote

namespace Splitting

variable {α : Type} {joins joins' : α → α → Bool}

private theorem exists_splitBy_cons (joins : α → α → Bool) (first : α) (others : List α) :
    ∃ run runs, (first :: others).splitBy joins = (first :: run) :: runs := by
  cases split : (first :: others).splitBy joins with
  | nil => exact absurd split (List.splitBy_ne_nil.mpr nofun)
  | cons run runs =>
      obtain ⟨whole, some, -⟩ := List.splitBy_eq_iff.mp split
      cases run with
      | nil => exact absurd (.head _) some
      | cons head run =>
          cases whole
          exact ⟨run, runs, rfl⟩

private theorem splitBy_cons_of_not_joins {first second : α} (apart : joins first second = false)
    (others : List α) :
    (first :: second :: others).splitBy joins = [first] :: (second :: others).splitBy joins :=
  List.splitBy_append_cons (l := [first]) others fun _ last => by
    cases last
    exact apart

private theorem splitBy_cons_of_joins {first second : α} (joined : joins first second = true)
    {others run : List α} {runs : List (List α)}
    (split : (second :: others).splitBy joins = (second :: run) :: runs) :
    (first :: second :: others).splitBy joins = (first :: second :: run) :: runs := by
  obtain ⟨whole, some, chains, ends⟩ := List.splitBy_eq_iff.mp split
  obtain ⟨chain, chains⟩ := List.forall_mem_cons.mp chains
  rw [List.isChain_cons] at ends
  refine List.splitBy_eq_iff.mpr ⟨congrArg (first :: ·) whole, fun member => ?_,
    List.forall_mem_cons.mpr ⟨List.isChain_cons_cons.mpr ⟨joined, chain⟩, chains⟩,
    List.isChain_cons.mpr ⟨fun next known => ?_, ends.2⟩⟩
  · exact some (.tail _ ((List.mem_cons.mp member).resolve_left nofun))
  · obtain ⟨_, begins, apart⟩ := ends.1 next known
    refine ⟨nofun, begins, ?_⟩
    rwa [List.getLast_cons_cons]

private theorem length_splitBy_le_cons (joins : α → α → Bool) (first : α) (others : List α) :
    (others.splitBy joins).length ≤ ((first :: others).splitBy joins).length := by
  cases others with
  | nil => exact Nat.zero_le _
  | cons second others =>
      cases joined : joins first second with
      | false =>
          rw [splitBy_cons_of_not_joins joined]
          exact Nat.le_succ _
      | true =>
          obtain ⟨run, runs, split⟩ := exists_splitBy_cons joins second others
          rw [splitBy_cons_of_joins joined split, split]
          exact Nat.le_refl _

private theorem length_splitBy_cons_le (joins : α → α → Bool) (first : α) (others : List α) :
    ((first :: others).splitBy joins).length ≤ (others.splitBy joins).length + 1 := by
  cases others with
  | nil => exact Nat.le_refl _
  | cons second others =>
      cases joined : joins first second with
      | false =>
          rw [splitBy_cons_of_not_joins joined]
          exact Nat.le_refl _
      | true =>
          obtain ⟨run, runs, split⟩ := exists_splitBy_cons joins second others
          rw [splitBy_cons_of_joins joined split, split]
          exact Nat.le_succ _

/-- Leaving out entries gives no more runs if, of joined entries, both or none are left
out and those that stay are still joined. -/
theorem length_splitBy_filter_le {entries : List α} {keep : α → Bool}
    (joined : ∀ first ∈ entries, ∀ second ∈ entries, joins first second = true →
      keep first = keep second ∧ (keep second = true → joins' first second = true)) :
    ((entries.filter keep).splitBy joins').length ≤ (entries.splitBy joins).length := by
  induction entries with
  | nil => exact Nat.le_refl _
  | cons first others ih =>
      have others_le := ih fun entry member other member' =>
        joined entry (.tail _ member) other (.tail _ member')
      cases kept : keep first with
      | false =>
          rw [List.filter_cons_of_neg (Bool.eq_false_iff.mp kept)]
          exact others_le.trans (length_splitBy_le_cons joins first others)
      | true =>
          rw [List.filter_cons_of_pos kept]
          cases others with
          | nil => exact Nat.le_refl _
          | cons second others =>
              cases together : joins first second with
              | false =>
                  rw [splitBy_cons_of_not_joins together]
                  exact (length_splitBy_cons_le _ _ _).trans (Nat.succ_le_succ others_le)
              | true =>
                  obtain ⟨same, stays⟩ := joined first (.head _) second (.tail _ (.head _))
                    together
                  have kept' : keep second = true := same ▸ kept
                  rw [List.filter_cons_of_pos kept'] at others_le ⊢
                  obtain ⟨run, runs, split⟩ := exists_splitBy_cons joins second others
                  obtain ⟨run', runs', split'⟩ :=
                    exists_splitBy_cons joins' second (others.filter keep)
                  rw [splitBy_cons_of_joins together split,
                    splitBy_cons_of_joins (stays kept') split']
                  rwa [split, split'] at others_le

private theorem exists_run_of_cons (first : α) {others run : List α}
    (member : run ∈ others.splitBy joins) :
    ∃ longer ∈ (first :: others).splitBy joins, run ⊆ longer := by
  cases others with
  | nil => cases member
  | cons second others =>
      cases joined : joins first second with
      | false =>
          rw [splitBy_cons_of_not_joins joined]
          exact ⟨run, .tail _ member, List.Subset.refl _⟩
      | true =>
          obtain ⟨run', runs, split⟩ := exists_splitBy_cons joins second others
          rw [splitBy_cons_of_joins joined split]
          rw [split] at member
          rcases List.mem_cons.mp member with rfl | later
          · exact ⟨_, .head _, List.subset_cons_self _ _⟩
          · exact ⟨run, .tail _ later, List.Subset.refl _⟩

/-- Joined entries next to each other are in one run. -/
theorem exists_run_of_joins {first second : α} (joined : joins first second = true)
    {entries : List α} (adjacent : [first, second] <:+: entries) :
    ∃ run ∈ entries.splitBy joins, first ∈ run ∧ second ∈ run := by
  obtain ⟨earlier, later, rfl⟩ := adjacent
  induction earlier with
  | nil =>
      obtain ⟨run, runs, split⟩ := exists_splitBy_cons joins second later
      change ∃ run ∈ (first :: second :: later).splitBy joins, _
      rw [splitBy_cons_of_joins joined split]
      exact ⟨_, .head _, .head _, .tail _ (.head _)⟩
  | cons head earlier ih =>
      obtain ⟨run, member, inRun, inRun'⟩ := ih
      obtain ⟨longer, member', part⟩ := exists_run_of_cons head member
      exact ⟨longer, member', part inRun, part inRun'⟩

end Splitting

open Html

namespace Html.Forest

private theorem trees_append (first second : Forest) :
    (first ++ second).trees = first.trees ++ second.trees := by
  induction first with
  | nil => rfl
  | cons id data children rest _ ihRest =>
      rw [cons_append, trees, ihRest, trees, List.cons_append]

private theorem append_cons (first : Forest) (id : NodeId) (data : NodeData)
    (children rest : Forest) :
    first ++ cons id data children rest = (first ++ cons id data children .nil) ++ rest := by
  rw [append_assoc, cons_append, nil_append]

private theorem not_mem_children_of_mem_trees {forest : Forest} (distinct : forest.ids.Nodup)
    {first second : Tree} (member : first ∈ forest.trees) (member' : second ∈ forest.trees) :
    first.id ∉ second.children.ids := by
  induction forest with
  | nil => cases member
  | cons id data children rest _ ihRest =>
      simp only [ids_cons, List.nodup_cons, List.nodup_append, List.mem_append, not_or]
        at distinct
      obtain ⟨⟨notInside, notAfter⟩, -, restDistinct, apart⟩ := distinct
      rcases List.mem_cons.mp member with rfl | later
      · rcases List.mem_cons.mp member' with rfl | later'
        · exact notInside
        · exact fun inside => notAfter (ids_subset_of_mem_trees later' (.tail _ inside))
      · rcases List.mem_cons.mp member' with rfl | later'
        · exact fun inside => apart _ inside _ (id_mem_of_mem_trees later) rfl
        · exact ihRest restDistinct later later'

private theorem exists_tree_of_mem_ids {forest : Forest} (nested : forest.WellNested)
    (leaves : ∀ tree ∈ forest.trees, tree.data.isElement = false) {node : NodeId}
    (member : node ∈ forest.ids) : ∃ tree ∈ forest.trees, tree.id = node := by
  induction forest with
  | nil => cases member
  | cons id data children rest _ ihRest =>
      obtain ⟨holder, -, nested⟩ := nested
      obtain ⟨leaf, others⟩ := List.forall_mem_cons.mp leaves
      obtain rfl : children = .nil := holder.resolve_left (Bool.eq_false_iff.mp leaf)
      rcases List.mem_cons.mp member with rfl | later
      · exact ⟨_, .head _, rfl⟩
      · obtain ⟨tree, known, same⟩ := ihRest nested others later
        exact ⟨tree, .tail _ known, same⟩

end Html.Forest

namespace Wrapping

open Forest

/-- Whether two nodes are children of one new disclosure. -/
def SharesContainer (original changed : Forest) (first second : NodeId) : Prop :=
  ∃ container, IsContainer original changed container ∧
    ∀ quote ∈ [first, second], ∃ data,
      (⟨some container, quote, data⟩ : Node) ∈ changed.nodes none

/-- Whether two nodes are in one run. -/
def Together (document : Document) (set : NodeSet) (first second : NodeId) : Prop :=
  ∃ run ∈ groups document set, first ∈ run ∧ second ∈ run

section Runs

variable {document : Document} {set : NodeSet} {label : String} {first second third : NodeId}

private theorem Together.trans (first_second : Together document set first second)
    (second_third : Together document set second third) : Together document set first third := by
  obtain ⟨run, known, isFirst, isSecond⟩ := first_second
  obtain ⟨run', known', isSecond', isThird⟩ := second_third
  have apart := (List.nodup_flatten.mp (flatten_distinct document set)).2
  have symmetric : Std.Symm (@List.Disjoint NodeId) := ⟨fun _ _ => List.disjoint_symm⟩
  by_cases same : run = run'
  · exact ⟨run, known, isFirst, same ▸ isThird⟩
  · exact absurd isSecond' (apart.forall known known' same isSecond)

/-- The disclosures that quotes are children of are those of their runs. -/
theorem sharesContainer_wrap (ordered : set.members.Sublist document.content.ids)
    (quote : first ∈ set.members) (quote' : second ∈ set.members) :
    SharesContainer document.content (document.wrap set label).content first second ↔
      Together document set first second := by
  constructor
  · intro ⟨container, isContainer, children⟩
    obtain ⟨run, known, rfl⟩ := (isContainer_wrap ordered).mp isContainer
    have next := (mem_of_numbered known).1
    have inRun {node : NodeId} (member : node ∈ set.members) (child : ∃ data,
        (⟨some run.1, node, data⟩ : Node) ∈ (document.wrap set label).content.nodes none) :
        node ∈ run.2 := by
      obtain ⟨data, below⟩ := child
      rcases child_of_run ordered known below rfl with summary | ⟨inRun, -⟩
      · have isNew : node = run.1 + 1 := congrArg Node.id summary
        exact absurd (ordered.subset member) (isNew ▸ not_mem_of_le (Nat.le_succ_of_le next))
      · exact inRun
    exact ⟨run.2, (mem_of_numbered known).2, inRun quote (children _ (.head _)),
      inRun quote' (children _ (.tail _ (.head _)))⟩
  · intro ⟨run, known, isFirst, isSecond⟩
    obtain ⟨container, known⟩ := exists_numbered document.next known
    have child {node : NodeId} (member : node ∈ set.members) (inRun : node ∈ run) :
        ∃ data, (⟨some container, node, data⟩ : Node) ∈
          (document.wrap set label).content.nodes none := by
      obtain ⟨origin, atPlace, rfl⟩ := (mem_ids_iff_nodes none).mp (ordered.subset member)
      exact ⟨_, quote_of_run label ordered known atPlace inRun⟩
    refine ⟨container, (isContainer_wrap ordered).mpr ⟨_, known, rfl⟩, fun node member => ?_⟩
    simp only [List.mem_cons, List.not_mem_nil, or_false] at member
    rcases member with rfl | rfl
    · exact child quote isFirst
    · exact child quote' isSecond

private theorem reaches_append {gap : Forest}
    (fills : ∀ tree ∈ gap.trees, tree.data.isFiller = true)
    (set : NodeSet) (target : NodeId) (data : NodeData) (children rest : Forest) :
    reaches set target (gap ++ .cons target data children rest) = true := by
  induction gap with
  | nil => simp [reaches]
  | cons id data' children' gap _ ihGap =>
      obtain ⟨filler, fills⟩ := List.forall_mem_cons.mp fills
      obtain ⟨leaf, blank⟩ := Bool.and_eq_true_iff.mp filler
      have bridge : bridges set id data' = true := by
        rw [bridges, if_neg (by simpa using leaf), blank]
      rw [cons_append, reaches, bridge, ihGap fills]
      split <;> rfl

section Siblings

variable {place : Place} {gap between children rest : Forest} {data : NodeData}

private theorem stretch_of_siblings (known : place ∈ document.places)
    (siblings : place.after = between ++ .cons second data children rest) :
    place.id :: (place.children.ids ++ between.ids ++ [second]) <:+: document.content.ids := by
  refine List.IsInfix.trans ⟨[], children.ids ++ rest.ids, ?_⟩ (onward_isInfix known)
  rw [Place.onward, siblings, ids_cons, ids_append, ids_cons]
  simp

private theorem precedes_of_siblings (known : place ∈ document.places)
    (siblings : place.after = between ++ .cons second data children rest) :
    Precedes document.content.ids place.id second := by
  refine Precedes.mono ?_ (stretch_of_siblings known siblings).sublist
  exact Precedes.cons_iff.mpr (.inl ⟨rfl, List.mem_append_right _ (.head _)⟩)

/-- What comes between two siblings in the document is below the first one or in the row
between them. -/
theorem mem_between_siblings (known : place ∈ document.places)
    (siblings : place.after = between ++ .cons second data children rest) {node : NodeId}
    (after : Precedes document.content.ids place.id node)
    (before : Precedes document.content.ids node second) :
    node ∈ place.children.ids ∨ node ∈ between.ids := by
  have inside := Precedes.mem_of_isInfix document.content_distinct
    (stretch_of_siblings known siblings) (List.mem_append_right _ (.head _)) after before
  rw [List.mem_append, List.mem_append, List.mem_singleton] at inside
  exact inside.resolve_right (before.ne document.content_distinct)

private theorem not_mem_elementIds_of_gap (known : place ∈ document.places)
    (siblings : place.after = gap ++ .cons second data children rest)
    (fills : ∀ tree ∈ gap.trees, tree.data.isFiller = true) {node : NodeId}
    (inGap : node ∈ gap.ids) : node ∉ document.content.elementIds := by
  intro element
  have nested := (onward_wellNested document.content_sound.wellNested known).2.2
  rw [siblings, wellNested_append] at nested
  have leaves : ∀ tree ∈ gap.trees, tree.data.isElement = false := fun tree member => by
    have leaf := (Bool.and_eq_true_iff.mp (fills tree member)).1
    simpa using leaf
  obtain ⟨tree, member, rfl⟩ := exists_tree_of_mem_ids nested.1 leaves inGap
  have inRow : tree ∈ place.after.trees := by
    rw [siblings, trees_append]
    exact List.mem_append_left _ member
  obtain ⟨before, after, row⟩ := exists_append_of_mem_trees inRow
  obtain ⟨earlier, known'⟩ := exists_place_after known row
  have isElement := isElement_of_mem_elementIds document.content_distinct known' element
  rw [Place.isElement, leaves tree member] at isElement
  cases isElement

/-- A quote and the next one in its row are in one run if there is nothing but fillers
between them, and no quote below the first one. -/
theorem together_next (ordered : set.members.Sublist document.content.elementIds)
    (known : place ∈ document.places) (quote : place.id ∈ set.members)
    (siblings : place.after = gap ++ .cons second data children rest)
    (quote' : second ∈ set.members) (fills : ∀ tree ∈ gap.trees, tree.data.isFiller = true)
    (free : ∀ other ∈ set.members, other ∉ place.children.ids) :
    Together document set place.id second := by
  have inForest := ordered.trans (elementIds_sublist_ids _)
  have joined : continues document set place.id second = true := by
    rw [continues_eq_reaches known, siblings]
    exact reaches_append fills set second data children rest
  have order := (precedes_of_siblings known siblings).of_sublist inForest
    document.content_distinct quote quote'
  apply Splitting.exists_run_of_joins joined
  refine order.isInfix_of_adjacent fun node member after before => ?_
  rcases mem_between_siblings known siblings (after.mono inForest) (before.mono inForest) with
    below | inGap
  · exact free node member below
  · exact not_mem_elementIds_of_gap known siblings fills inGap (ordered.subset member)

private theorem together_of_siblings (ordered : set.members.Sublist document.content.elementIds)
    (known : place ∈ document.places) (quote : place.id ∈ set.members) (gap : Forest)
    (siblings : place.after = gap ++ (between ++ .cons second data children rest))
    (quote' : second ∈ set.members) (fills : ∀ tree ∈ gap.trees, tree.data.isFiller = true)
    (bridged : ∀ tree ∈ between.trees, tree.id ∈ set.members ∨ tree.data.isFiller = true)
    (free : ∀ other ∈ set.members, other ∉ place.children.ids ∧
      ∀ tree ∈ between.trees, other ∉ tree.children.ids) :
    Together document set place.id second := by
  -- The gap is what was passed since the last quote, which is at the place.
  induction between generalizing place gap with
  | nil => exact together_next ordered known quote siblings quote' fills fun other member =>
      (free other member).1
  | cons id data' inner between _ ihBetween =>
      obtain ⟨bridge, bridged⟩ := List.forall_mem_cons.mp bridged
      by_cases member : id ∈ set.members
      · have next := together_next ordered known quote siblings member fills
          fun other member => (free other member).1
        obtain ⟨earlier, known'⟩ := exists_place_after known siblings
        refine next.trans (ihBetween known' member .nil rfl (by nofun) bridged ?_)
        intro other member'
        exact List.forall_mem_cons.mp (free other member').2
      · have filler : data'.isFiller = true := bridge.resolve_left member
        refine ihBetween known quote (gap ++ .cons id data' inner .nil) ?_ ?_ bridged ?_
        · rw [siblings, cons_append, append_cons]
        · rw [trees_append, List.forall_mem_append]
          exact ⟨fills, List.forall_mem_cons.mpr ⟨filler, by nofun⟩⟩
        · intro other member'
          obtain ⟨below, others⟩ := free other member'
          exact ⟨below, (List.forall_mem_cons.mp others).2⟩

private theorem Gathers.bridged {run : List NodeId} {moved left : Forest}
    (gathers : Gathers run (between ++ .cons second data children rest) moved left)
    (distinct : (between ++ .cons second data children rest).ids.Nodup)
    (member : second ∈ run) :
    ∀ tree ∈ between.trees, tree.id ∈ run ∨ tree.data.isFiller = true := by
  induction between generalizing run moved left with
  | nil => nofun
  | cons id data' inner between _ ihBetween =>
      rw [cons_append] at gathers distinct
      obtain ⟨fresh, distinct⟩ := List.nodup_cons.mp distinct
      have restDistinct := (List.nodup_append.mp distinct).2.1
      have different : second ≠ id := by
        rintro rfl
        exact fresh (List.mem_append_right _ (by simp))
      cases gathers with
      | last => exact absurd (List.mem_singleton.mp member) different
      | member others =>
          have later := (List.mem_cons.mp member).resolve_left different
          refine List.forall_mem_cons.mpr ⟨.inl (.head _), fun tree known => ?_⟩
          exact (ihBetween others restDistinct later tree known).imp_left (.tail _)
      | filler fills others =>
          exact List.forall_mem_cons.mpr ⟨.inr fills, ihBetween others restDistinct member⟩

private theorem Gathers.exists_rest {id : NodeId} {others : List NodeId} {moved left : Forest}
    (gathers : Gathers (id :: others) (.cons id data children rest) moved left)
    (distinct : (Forest.cons id data children rest).ids.Nodup) (some : others ≠ []) :
    ∃ moved, Gathers others rest moved left := by
  cases gathers with
  | last => exact absurd rfl some
  | member gathers => exact ⟨_, gathers⟩
  | filler _ gathers =>
      have again := gathers.run_subset (.head _)
      exact absurd (List.mem_append_right _ again) (List.nodup_cons.mp distinct).1

private theorem Gathers.exists_tree_of_mem {run : List NodeId} {row moved left : Forest}
    (gathers : Gathers run row moved left) {node : NodeId} (member : node ∈ run) :
    ∃ tree ∈ row.trees, tree.id = node := by
  induction gathers with
  | last => exact ⟨_, .head _, (List.mem_singleton.mp member).symm⟩
  | member _ ih =>
      rcases List.mem_cons.mp member with rfl | other
      · exact ⟨_, .head _, rfl⟩
      · obtain ⟨tree, known, same⟩ := ih other
        exact ⟨tree, .tail _ known, same⟩
  | filler _ _ ih =>
      obtain ⟨tree, known, same⟩ := ih member
      exact ⟨tree, .tail _ known, same⟩

private theorem precedes_of_mem_between (known : place ∈ document.places)
    (siblings : place.after = between ++ .cons second data children rest) {node : NodeId}
    (inside : node ∈ place.children.ids ++ between.ids) :
    Precedes document.content.ids place.id node ∧ Precedes document.content.ids node second := by
  have stretch := (stretch_of_siblings known siblings).sublist
  constructor
  · exact (Precedes.cons_iff.mpr (.inl ⟨rfl, List.mem_append_left _ inside⟩)).mono stretch
  · refine Precedes.mono ?_ stretch
    exact Precedes.cons_iff.mpr (.inr (Precedes.append_iff.mpr (.inr (.inl ⟨inside, .head _⟩))))

private theorem exists_gathers_of_together (ordered : set.members.Sublist document.content.ids)
    (known : place ∈ document.places) (quote : place.id ∈ set.members)
    (siblings : place.after = between ++ .cons second data children rest)
    (quote' : second ∈ set.members) (together : Together document set place.id second) :
    ∃ others moved left, place.id :: others <:+: set.members ∧ second ∈ others ∧
      Gathers others place.after moved left := by
  have distinct := document.content_distinct
  have order := (precedes_of_siblings known siblings).of_sublist ordered distinct quote quote'
  obtain ⟨run, isRun, isFirst, isSecond⟩ := together
  have part : run <:+: set.members := by
    rw [← flatten_groups document set]
    exact List.infix_of_mem_flatten isRun
  have joined := List.isChain_of_mem_splitBy isRun
  obtain ⟨earlier, others, rfl⟩ := List.append_of_mem isFirst
  have later : second ∈ others := by
    rcases List.mem_append.mp isSecond with before | here
    · have reverse : Precedes (earlier ++ place.id :: others) second place.id :=
        Precedes.append_iff.mpr (.inr (.inl ⟨before, .head _⟩))
      exact absurd order ((reverse.mono part.sublist).asymm set.distinct)
    · exact (List.mem_cons.mp here).resolve_left fun same => order.ne set.distinct same.symm
  have part : place.id :: others <:+: set.members :=
    (List.suffix_append _ _).isInfix.trans part
  obtain ⟨_, left, gathers⟩ := exists_gathers ordered known part joined.right_of_append
  obtain ⟨moved, gathers⟩ := gathers.exists_rest ((onward_sublist known).nodup distinct)
    (List.ne_nil_of_mem later)
  exact ⟨others, moved, left, part, later, gathers⟩

/-- Between two siblings in one run there is nothing but quotes and fillers, and no quote is
below the first sibling or below one between the two: it would come between them. -/
theorem siblings_of_together (ordered : set.members.Sublist document.content.ids)
    (known : place ∈ document.places) (quote : place.id ∈ set.members)
    (siblings : place.after = between ++ .cons second data children rest)
    (quote' : second ∈ set.members) (together : Together document set place.id second) :
    (∀ tree ∈ between.trees, tree.id ∈ set.members ∨ tree.data.isFiller = true) ∧
      ∀ other ∈ set.members, other ∉ place.children.ids ∧
        ∀ tree ∈ between.trees, other ∉ tree.children.ids := by
  have distinct := document.content_distinct
  obtain ⟨others, moved, left, part, later, gathers⟩ :=
    exists_gathers_of_together ordered known quote siblings quote' together
  obtain ⟨-, -, afterDistinct, apart⟩ : _ ∧ _ ∧ place.after.ids.Nodup ∧ _ :=
    (List.nodup_cons.mp ((onward_sublist known).nodup distinct)).imp_right List.nodup_append.mp
  -- A quote between the two siblings is in the run, and thereby in their row.
  have inRow (other : NodeId) (member : other ∈ set.members)
      (inside : other ∈ place.children.ids ++ between.ids) :
      ∃ tree ∈ place.after.trees, tree.id = other := by
    obtain ⟨after, before⟩ := precedes_of_mem_between known siblings inside
    apply gathers.exists_tree_of_mem
    exact Precedes.mem_of_isInfix set.distinct part later
      (after.of_sublist ordered distinct quote member)
      (before.of_sublist ordered distinct member quote')
  refine ⟨fun tree member => ?_, fun other member => ⟨fun below => ?_,
    fun tree member' below => ?_⟩⟩
  · rw [siblings] at gathers afterDistinct
    exact (gathers.bridged afterDistinct later tree member).imp_left fun inRun =>
      part.subset (.tail _ inRun)
  · obtain ⟨tree, known', rfl⟩ := inRow other member (List.mem_append_left _ below)
    exact apart _ below _ (id_mem_of_mem_trees known') rfl
  · have isTree : tree ∈ place.after.trees := by
      rw [siblings, trees_append]
      exact List.mem_append_left _ member'
    obtain ⟨other, known', rfl⟩ := inRow other member
      (List.mem_append_right _ (ids_subset_of_mem_trees member' (.tail _ below)))
    exact not_mem_children_of_mem_trees afterDistinct known' isTree below

end Siblings

end Runs

/-- Two quotes in one row are folded away together just if every node between them in the
row is a quote or a filler, and no quote is below the first one or below a node between
them. What is below the second one does not count. -/
theorem sharesContainer_iff (document : Document) (set : NodeSet) (label : String)
    (ordered : set.members.Sublist document.content.elementIds) (place : Place)
    (known : place ∈ document.places) (quote : place.id ∈ set.members)
    (between : Forest) (second : NodeId) (data : NodeData) (children rest : Forest)
    (siblings : place.after = between ++ .cons second data children rest)
    (quote' : second ∈ set.members) :
    SharesContainer document.content (document.apply set .wrap label).content
        place.id second ↔
      (∀ tree ∈ between.trees, tree.id ∈ set.members ∨ tree.data.isFiller = true) ∧
      ∀ other ∈ set.members, other ∉ place.children.ids ∧
        ∀ tree ∈ between.trees, other ∉ tree.children.ids := by
  have inForest := ordered.trans (elementIds_sublist_ids _)
  rw [Document.apply, sharesContainer_wrap inForest quote quote']
  constructor
  · exact siblings_of_together inForest known quote siblings quote'
  · intro ⟨bridged, free⟩
    exact together_of_siblings ordered known quote .nil siblings quote' (by nofun)
      bridged free

/-- A comment does not part two quotes. -/
theorem sharesContainer_iff_sample :
    let set := (NodeSet.empty.insert 1).insert 4
    let changed := (sample.apply set .wrap "").content
    set.members.Sublist sample.content.elementIds ∧
      SharesContainer sample.content changed 1 4 := by
  intro set changed
  have ordered : set.members.Sublist sample.content.elementIds := by decide
  let gap : Forest := .cons 3 (.comment "and") .nil .nil
  obtain ⟨⟨_, _, _, _, _, _⟩, known, rfl, rfl, rfl⟩ : ∃ place ∈ sample.places, place.id = 1 ∧
      place.children = .cons 2 (.text "old") .nil .nil ∧ place.after =
        gap ++ .cons 4 (.element ⟨.html, "blockquote"⟩ []) .nil (.cons 5 (.text "new") .nil .nil) :=
    by decide
  have quotes : 1 ∈ set.members ∧ 4 ∈ set.members := by decide
  have apart : (∀ tree ∈ gap.trees, tree.id ∈ set.members ∨ tree.data.isFiller = true) ∧
      ∀ other ∈ set.members, other ∉ (Forest.cons 2 (.text "old") .nil .nil).ids ∧
        ∀ tree ∈ gap.trees, other ∉ tree.children.ids := by decide
  have shared := sharesContainer_iff sample set "" ordered _ known quotes.1 gap 4 _ _ _ rfl quotes.2
  exact ⟨ordered, shared.mpr apart⟩

/-- A document with a quote below the first of two adjacent ones. -/
def nested : Document where
  content :=
    .cons 0 (.element ⟨.html, "body"⟩ [])
      (.cons 1 (.element ⟨.html, "blockquote"⟩ [])
        (.cons 2 (.element ⟨.html, "blockquote"⟩ []) .nil .nil)
        (.cons 3 (.element ⟨.html, "blockquote"⟩ []) .nil .nil)) .nil
  loose := []
  next := 4
  sound := ⟨by decide, by decide, by decide⟩

theorem not_sharesContainer_nested :
    let set := ((NodeSet.empty.insert 1).insert 2).insert 3
    let changed := (nested.apply set .wrap "").content
    set.members.Sublist nested.content.elementIds ∧
      (∃ place ∈ nested.places, place.id = 1 ∧
        place.after = .cons 3 (.element ⟨.html, "blockquote"⟩ []) .nil .nil) ∧
      ¬ SharesContainer nested.content changed 1 3 := by
  intro set changed
  refine ⟨by decide, by decide, fun ⟨container, _, children⟩ => ?_⟩
  have parted : ∀ first ∈ changed.nodes none, ∀ second ∈ changed.nodes none,
      first.id = 1 → second.id = 3 → first.parent ≠ second.parent := by decide
  obtain ⟨_, first⟩ := children 1 (by simp)
  obtain ⟨_, second⟩ := children 3 (by simp)
  exact parted _ first _ second rfl rfl rfl

end Wrapping

end MailQuote
