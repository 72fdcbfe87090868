import MailQuote.Proofs.Forest.Nodes

namespace MailQuote.Html

/-- A forest that lacks the end of one of its rows of siblings. -/
inductive Context where
  | gap
  | inside (id : NodeId) (data : NodeData) (children : Context) (rest : Forest)
  | beside (id : NodeId) (data : NodeData) (children : Forest) (rest : Context)

namespace Context

open Forest

/-- The forest with a row of siblings in the gap. -/
def fill : Context → Forest → Forest
  | .gap, row => row
  | .inside id data children rest, row => .cons id data (children.fill row) rest
  | .beside id data children rest, row => .cons id data children (rest.fill row)

def ids : Context → List NodeId
  | .gap => []
  | .inside id _ children rest => id :: (children.ids ++ rest.ids)
  | .beside id _ children rest => id :: (children.ids ++ rest.ids)

variable {context : Context} {row : Forest}

private theorem ids_fill_perm (context : Context) (row : Forest) :
    (context.fill row).ids.Perm (context.ids ++ row.ids) := by
  induction context with
  | gap => exact .refl _
  | inside id data children rest ih =>
      simp only [fill, ids, ids_cons, List.cons_append, List.append_assoc]
      refine List.Perm.cons id ((ih.append_right _).trans ?_)
      rw [List.append_assoc]
      exact List.perm_append_comm.append_left _
  | beside id data children rest ih =>
      simp only [fill, ids, ids_cons, List.cons_append, List.append_assoc]
      exact (ih.append_left _).cons id

theorem mem_ids_fill {context : Context} {row : Forest} {target : NodeId} :
    target ∈ (context.fill row).ids ↔ target ∈ context.ids ∨ target ∈ row.ids := by
  rw [(ids_fill_perm context row).mem_iff, List.mem_append]

theorem ids_subset_fill : row.ids ⊆ (context.fill row).ids := fun _ member =>
  mem_ids_fill.mpr (.inr member)

theorem nodup_of_fill (distinct : (context.fill row).ids.Nodup) : row.ids.Nodup :=
  (List.nodup_append.mp ((ids_fill_perm context row).nodup distinct)).2.1

theorem not_mem_ids (distinct : (context.fill row).ids.Nodup) {id : NodeId}
    (member : id ∈ row.ids) : id ∉ context.ids := fun other =>
  (List.nodup_append.mp ((ids_fill_perm context row).nodup distinct)).2.2 id other id
    member rfl

private theorem wellNested_of_fill (nested : (context.fill row).WellNested) : row.WellNested := by
  induction context with
  | gap => exact nested
  | inside id data children rest ih => exact ih nested.2.1
  | beside id data children rest ih => exact ih nested.2.2

theorem find?_fill {target : NodeId} (apart : target ∉ context.ids) (row : Forest) :
    (context.fill row).find? target = row.find? target := by
  induction context with
  | gap => rfl
  | inside id data children rest ih =>
      simp only [ids, List.mem_cons, List.mem_append, not_or] at apart
      obtain ⟨different, notInside, notAfter⟩ := apart
      rw [fill, find?, if_neg (Ne.symm different), ih notInside]
      cases row.find? target with
      | none => exact find?_eq_none.mpr notAfter
      | some tree => rfl
  | beside id data children rest ih =>
      simp only [ids, List.mem_cons, List.mem_append, not_or] at apart
      obtain ⟨different, notInside, notAfter⟩ := apart
      rw [fill, find?, if_neg (Ne.symm different), find?_eq_none.mpr notInside]
      exact ih notAfter

theorem erase_fill {target : NodeId} (apart : target ∉ context.ids) (row : Forest) :
    (context.fill row).erase target = context.fill (row.erase target) := by
  induction context with
  | gap => rfl
  | inside id data children rest ih =>
      simp only [ids, List.mem_cons, List.mem_append, not_or] at apart
      obtain ⟨different, notInside, notAfter⟩ := apart
      rw [fill, erase_cons_of_ne (Ne.symm different), ih notInside, erase_eq_self notAfter]
      rfl
  | beside id data children rest ih =>
      simp only [ids, List.mem_cons, List.mem_append, not_or] at apart
      obtain ⟨different, notInside, notAfter⟩ := apart
      rw [fill, erase_cons_of_ne (Ne.symm different), ih notAfter, erase_eq_self notInside]
      rfl

theorem insertBefore_fill {mark : NodeId} (apart : mark ∉ context.ids)
    (added row : Forest) :
    insertBefore mark added (context.fill row) =
      context.fill (insertBefore mark added row) := by
  induction context with
  | gap => rfl
  | inside id data children rest ih =>
      simp only [ids, List.mem_cons, List.mem_append, not_or] at apart
      obtain ⟨different, notInside, notAfter⟩ := apart
      simp only [fill, insertBefore, if_neg (Ne.symm different), ih notInside,
        insertBefore_eq_self added notAfter]
  | beside id data children rest ih =>
      simp only [ids, List.mem_cons, List.mem_append, not_or] at apart
      obtain ⟨different, notInside, notAfter⟩ := apart
      simp only [fill, insertBefore, if_neg (Ne.symm different), ih notAfter,
        insertBefore_eq_self added notInside]

theorem appendTo_fill {parent : NodeId} (apart : parent ∉ context.ids)
    (added row : Forest) :
    appendTo parent added (context.fill row) = context.fill (appendTo parent added row) := by
  induction context with
  | gap => rfl
  | inside id data children rest ih =>
      simp only [ids, List.mem_cons, List.mem_append, not_or] at apart
      obtain ⟨different, notInside, notAfter⟩ := apart
      have elsewhere : decide (id = parent) = false := by simpa using Ne.symm different
      simp only [fill, appendTo, elsewhere, Bool.false_and, Bool.false_eq_true, if_false,
        ih notInside, appendTo_eq_self added notAfter]
  | beside id data children rest ih =>
      simp only [ids, List.mem_cons, List.mem_append, not_or] at apart
      obtain ⟨different, notInside, notAfter⟩ := apart
      have elsewhere : decide (id = parent) = false := by simpa using Ne.symm different
      simp only [fill, appendTo, elsewhere, Bool.false_and, Bool.false_eq_true, if_false,
        ih notAfter, appendTo_eq_self added notInside]

/-- The nodes in the gap stand together, and all of its topmost ones have one
parent. -/
theorem nodes_fill (context : Context) (outer : Option NodeId) :
    ∃ before after inner, ∀ row : Forest,
      (context.fill row).nodes outer = before ++ row.nodes inner ++ after := by
  induction context generalizing outer with
  | gap => exact ⟨[], [], outer, fun row => by simp [fill]⟩
  | inside id data children rest ih =>
      obtain ⟨before, after, inner, equality⟩ := ih (some id)
      refine ⟨⟨outer, id, data⟩ :: before, after ++ rest.nodes outer, inner, fun row => ?_⟩
      simp [fill, nodes, equality]
  | beside id data children rest ih =>
      obtain ⟨before, after, inner, equality⟩ := ih outer
      refine ⟨⟨outer, id, data⟩ :: (children.nodes (some id) ++ before), after, inner,
        fun row => ?_⟩
      simp [fill, nodes, equality]

/-- What lies above a node outside of the gap does not depend on what is in the gap. -/
theorem ancestors_fill_congr {target : NodeId} {first second : Forest}
    (apart : target ∉ first.ids) (apart' : target ∉ second.ids) (context : Context) :
    (context.fill first).ancestors target = (context.fill second).ancestors target := by
  induction context with
  | gap =>
      rw [fill, fill, ancestors_of_not_mem apart, ancestors_of_not_mem apart']
  | inside id data children rest ih =>
      have same : target ∈ (children.fill first).ids ↔ target ∈ (children.fill second).ids := by
        rw [mem_ids_fill, mem_ids_fill, or_iff_left apart, or_iff_left apart']
      simp only [fill, ancestors, ih, same]
  | beside id data children rest ih =>
      simp only [fill, ancestors, ih]

theorem exists_ancestors_fill (context : Context) :
    ∃ above : List NodeId, ∀ (row : Forest) (target : NodeId), target ∉ context.ids →
      target ∈ row.ids → (context.fill row).ancestors target = above ++ row.ancestors target := by
  induction context with
  | gap => exact ⟨[], fun row target _ _ => rfl⟩
  | inside id data children rest ih =>
      obtain ⟨above, inner⟩ := ih
      refine ⟨id :: above, fun row target apart member => ?_⟩
      simp only [ids, List.mem_cons, List.mem_append, not_or] at apart
      obtain ⟨different, notInside, -⟩ := apart
      have below : target ∈ (children.fill row).ids := ids_subset_fill member
      rw [fill, ancestors, if_neg (Ne.symm different), if_pos below,
        inner row target notInside member, List.cons_append]
  | beside id data children rest ih =>
      obtain ⟨above, inner⟩ := ih
      refine ⟨above, fun row target apart member => ?_⟩
      simp only [ids, List.mem_cons, List.mem_append, not_or] at apart
      obtain ⟨different, notInside, notAfter⟩ := apart
      rw [fill, ancestors, if_neg (Ne.symm different), if_neg notInside,
        inner row target notAfter member]

end Context

/-! Places of the nodes of a forest. A node has one place only, and the forest is
the row of siblings from the node on with what is around it. -/

def Place.onward (place : Place) : Forest :=
  .cons place.id place.data place.children place.after

private theorem Place.rowIn_subset_following {before after : Forest} {above : List Level}
    {other : Place} (member : other ∈ precedingIn above before after) :
    Forest.rowIn above before after ⊆ other.following := by
  induction before generalizing after with
  | nil => cases member
  | cons id data children rest _ ihRest =>
      rcases List.mem_cons.mp member with rfl | further
      · exact List.Subset.refl _
      · exact fun place later => ihRest further (.tail _ later)

theorem Place.mem_following_of_preceding {place other : Place}
    (earlier : other ∈ place.preceding) : place ∈ other.following :=
  rowIn_subset_following earlier (.head _)

namespace Forest

private theorem map_id_placesIn (forest before : Forest) (above : List Level) :
    (placesIn above before forest).map Place.id = forest.ids := by
  induction forest generalizing above before with
  | nil => rfl
  | cons id data children rest ihChildren ihRest =>
      simp [placesIn, ihChildren, ihRest]

theorem id_mem_of_placesIn {forest before : Forest} {above : List Level} {place : Place}
    (member : place ∈ placesIn above before forest) : place.id ∈ forest.ids := by
  rw [← map_id_placesIn forest before above]
  exact List.mem_map_of_mem member

private theorem exists_placesIn {target : NodeId} {forest : Forest} (member : target ∈ forest.ids)
    (before : Forest) (above : List Level) :
    ∃ place ∈ placesIn above before forest, place.id = target := by
  rw [← map_id_placesIn forest before above] at member
  exact List.mem_map.mp member

theorem placesIn_unique {forest before : Forest} {above : List Level}
    (distinct : forest.ids.Nodup) {first second : Place}
    (mem : first ∈ placesIn above before forest)
    (mem' : second ∈ placesIn above before forest) (same : first.id = second.id) :
    first = second := by
  rw [← map_id_placesIn forest before above] at distinct
  exact List.inj_on_of_nodup_map distinct mem mem' same

theorem ids_subset_of_mem_trees {forest : Forest} {tree : Tree} (member : tree ∈ forest.trees) :
    tree.ids ⊆ forest.ids := by
  induction forest with
  | nil => cases member
  | cons id data children rest _ ihRest =>
      rcases List.mem_cons.mp member with rfl | later
      · exact List.subset_append_left (id :: children.ids) rest.ids
      · exact List.Subset.trans (ihRest later)
          (List.subset_append_right (id :: children.ids) rest.ids)

theorem id_mem_of_mem_trees {forest : Forest} {tree : Tree} (member : tree ∈ forest.trees) :
    tree.id ∈ forest.ids :=
  ids_subset_of_mem_trees member (.head _)

private theorem rowIn_subset (forest before : Forest) (above : List Level) :
    rowIn above before forest ⊆ placesIn above before forest := by
  induction forest generalizing before with
  | nil => exact List.Subset.refl _
  | cons id data children rest _ ihRest =>
      intro place member
      rcases List.mem_cons.mp member with rfl | later
      · exact .head _
      · exact .tail _ (List.mem_append_right _ (ihRest _ later))

theorem following_subset {forest before : Forest} {above : List Level} {place : Place}
    (member : place ∈ placesIn above before forest) :
    place.following ⊆ placesIn above before forest := by
  induction forest generalizing above before with
  | nil => simp [placesIn] at member
  | cons id data children rest ihChildren ihRest =>
      simp only [placesIn, List.mem_cons, List.mem_append] at member
      intro other later
      rcases member with rfl | inside | after
      · exact .tail _ (List.mem_append_right _ (rowIn_subset _ _ _ later))
      · exact .tail _ (List.mem_append_left _ (ihChildren inside later))
      · exact .tail _ (List.mem_append_right _ (ihRest after later))

/-- The siblings before a place are at places of the forest that it is in, or of the row that
comes before it. -/
theorem preceding_subset_append {forest before : Forest} {above : List Level} {place : Place}
    (member : place ∈ placesIn above before forest) :
    place.preceding ⊆ placesIn above before forest ++ Place.precedingIn above before forest := by
  induction forest generalizing above before with
  | nil => cases member
  | cons id data children rest ihChildren ihRest =>
      simp only [placesIn, List.mem_cons, List.mem_append] at member
      intro other earlier
      simp only [placesIn, List.mem_append, List.mem_cons]
      rcases member with rfl | inside | after
      · exact .inr earlier
      · rcases List.mem_append.mp (ihChildren inside earlier) with known | none
        · exact .inl (.inr (.inl known))
        · cases none
      · rcases List.mem_append.mp (ihRest after earlier) with known | outside
        · exact .inl (.inr (.inr known))
        · rcases List.mem_cons.mp outside with rfl | further
          · exact .inl (.inl rfl)
          · exact .inr further

theorem preceding_subset {forest : Forest} {place : Place} (known : place ∈ forest.places) :
    place.preceding ⊆ forest.places := by
  intro other earlier
  rcases List.mem_append.mp (preceding_subset_append known earlier) with inside | none
  · exact inside
  · cases none

private theorem id_mem_of_rowIn {forest before : Forest} {above : List Level} {place : Place}
    (member : place ∈ rowIn above before forest) : place.id ∈ forest.ids :=
  id_mem_of_placesIn (rowIn_subset forest before above member)

theorem exists_fill_of_placesIn {forest before : Forest} {above : List Level}
    {place : Place} (member : place ∈ placesIn above before forest) :
    ∃ context : Context, forest = context.fill place.onward := by
  induction forest generalizing above before with
  | nil => simp [placesIn] at member
  | cons id data children rest ihChildren ihRest =>
      simp only [placesIn, List.mem_cons, List.mem_append] at member
      rcases member with rfl | inside | after
      · exact ⟨.gap, rfl⟩
      · obtain ⟨context, equality⟩ := ihChildren inside
        exact ⟨.inside id data context rest, by rw [Context.fill, ← equality]⟩
      · obtain ⟨context, equality⟩ := ihRest after
        exact ⟨.beside id data children context, by rw [Context.fill, ← equality]⟩

/-- A node stands right before all that is below it and after it in its row. -/
theorem onward_isInfix {forest before : Forest} {above : List Level} {place : Place}
    (member : place ∈ placesIn above before forest) :
    place.onward.ids <:+: forest.ids := by
  obtain ⟨context, equality⟩ := exists_fill_of_placesIn member
  obtain ⟨earlier, later, parent, nodes⟩ := context.nodes_fill none
  refine ⟨earlier.map Node.id, later.map Node.id, ?_⟩
  rw [equality, ← map_id_nodes none (context.fill _), nodes, List.map_append, List.map_append,
    map_id_nodes]

theorem onward_sublist {forest before : Forest} {above : List Level} {place : Place}
    (member : place ∈ placesIn above before forest) :
    place.onward.ids.Sublist forest.ids :=
  (onward_isInfix member).sublist

theorem onward_wellNested {forest before : Forest} {above : List Level} {place : Place}
    (nested : forest.WellNested) (member : place ∈ placesIn above before forest) :
    place.onward.WellNested := by
  obtain ⟨context, equality⟩ := exists_fill_of_placesIn member
  exact Context.wellNested_of_fill (equality ▸ nested)

theorem exists_node_of_placesIn {forest before : Forest} {above : List Level}
    {place : Place} (member : place ∈ placesIn above before forest)
    (outer : Option NodeId) :
    ∃ parent, (⟨parent, place.id, place.data⟩ : Node) ∈ forest.nodes outer := by
  obtain ⟨context, equality⟩ := exists_fill_of_placesIn member
  obtain ⟨earlier, later, parent, nodes⟩ := context.nodes_fill outer
  exact ⟨parent, by simp [equality, nodes, Place.onward, Forest.nodes]⟩

theorem id_ne_of_following {forest before : Forest} {above : List Level}
    (distinct : forest.ids.Nodup) {place other : Place}
    (member : place ∈ placesIn above before forest) (later : other ∈ place.following) :
    other.id ≠ place.id := by
  have fresh := (List.nodup_cons.mp ((onward_sublist member).nodup distinct)).1
  exact fun same => fresh (same ▸ List.mem_append_right _ (id_mem_of_rowIn later))

theorem isElement_of_mem_elementIds {forest : Forest} (distinct : forest.ids.Nodup)
    {place : Place} (known : place ∈ forest.places)
    (element : place.id ∈ forest.elementIds) : place.isElement = true := by
  obtain ⟨node, inForest, isElement, same⟩ := (mem_elementIds none).mp element
  obtain ⟨parent, atPlace⟩ := exists_node_of_placesIn known none
  have equality := nodes_unique distinct inForest atPlace same
  rwa [equality] at isElement

theorem above_of_placesIn {forest before : Forest} {above : List Level} {place : Place}
    (distinct : forest.ids.Nodup) (member : place ∈ placesIn above before forest) :
    place.above.map Level.id =
      (forest.ancestors place.id).reverse ++ above.map Level.id := by
  induction forest generalizing above before with
  | nil => simp [placesIn] at member
  | cons id data children rest ihChildren ihRest =>
      have parts := List.nodup_append.mp (List.nodup_cons.mp distinct).2
      simp only [placesIn, List.mem_cons, List.mem_append] at member
      rcases member with rfl | below | later
      · simp [ancestors]
      · have known := id_mem_of_placesIn below
        rw [ihChildren parts.1 below, ancestors_cons_of_mem_children distinct known]
        simp
      · have known := id_mem_of_placesIn later
        rw [ihRest parts.2.1 later, ancestors_cons_of_mem_rest distinct known]

theorem exists_append_of_mem_trees {forest : Forest} {tree : Tree}
    (member : tree ∈ forest.trees) :
    ∃ between rest, forest = between ++ .cons tree.id tree.data tree.children rest := by
  induction forest with
  | nil => cases member
  | cons id data children rest _ ihRest =>
      rcases List.mem_cons.mp member with rfl | later
      · exact ⟨.nil, rest, rfl⟩
      · obtain ⟨between, rest, rfl⟩ := ihRest later
        exact ⟨.cons id data children between, rest, rfl⟩

private theorem exists_rowIn_append (above : List Level) (before between : Forest) (id : NodeId)
    (data : NodeData) (children rest : Forest) :
    ∃ earlier, ⟨id, data, children, earlier, rest, above⟩ ∈
      rowIn above before (between ++ .cons id data children rest) := by
  induction between generalizing before with
  | nil => exact ⟨before, .head _⟩
  | cons id' data' children' between _ ihBetween =>
      obtain ⟨earlier, known⟩ := ihBetween (.cons id' data' children' before)
      exact ⟨earlier, .tail _ known⟩

/-- The siblings after a place are at places with the same nodes above them. -/
theorem exists_place_after {forest : Forest} {place : Place} (known : place ∈ forest.places)
    {between rest children : Forest} {id : NodeId} {data : NodeData}
    (siblings : place.after = between ++ .cons id data children rest) :
    ∃ earlier, ⟨id, data, children, earlier, rest, place.above⟩ ∈ forest.places := by
  obtain ⟨earlier, later⟩ := exists_rowIn_append place.above
    (.cons place.id place.data place.children place.before) between id data children rest
  exact ⟨earlier, following_subset known (by rwa [Place.following, siblings])⟩

theorem ancestors_of_mem_after {forest : Forest} (distinct : forest.ids.Nodup) {place : Place}
    (known : place ∈ forest.places) {tree : Tree} (member : tree ∈ place.after.trees) :
    forest.ancestors tree.id = forest.ancestors place.id := by
  obtain ⟨between, rest, siblings⟩ := exists_append_of_mem_trees member
  obtain ⟨earlier, known'⟩ := exists_place_after known siblings
  have above := above_of_placesIn distinct known
  have above' := above_of_placesIn distinct known'
  rw [List.map_nil, List.append_nil] at above above'
  exact List.reverse_injective (above'.symm.trans above)

end Forest

namespace Document

variable (document : Document)

theorem place?_of_mem {target : NodeId} (member : target ∈ document.content.ids) :
    ∃ place ∈ document.places, document.place? target = some place ∧ place.id = target := by
  obtain ⟨known, found, equality⟩ := Forest.exists_placesIn member .nil []
  cases first : document.places.find? fun place => place.id == target with
  | none =>
      exact absurd (beq_iff_eq.mpr equality) (List.find?_eq_none.mp first known found)
  | some place =>
      refine ⟨place, List.mem_of_find?_eq_some first, ?_,
        by simpa using List.find?_some first⟩
      rw [place?, rows, List.findSome?_cons]
      simp only [places] at first
      rw [first]

end Document

/-! Going up from a place. The places of the nodes above it are places of the same forest,
and those above one of them are the further ones. -/

namespace Place

variable {place upper : Place}

private theorem map_id_ancestorsOf (children : Forest) (above : List Level) :
    (ancestorsOf children above).map Place.id = above.map Level.id := by
  induction above generalizing children with
  | nil => rfl
  | cons level above ih => rw [ancestorsOf, List.map_cons, List.map_cons, ih]

private theorem ancestors_of_ancestorsOf {children : Forest} {above : List Level}
    {nearer further : List Place}
    (split : ancestorsOf children above = nearer ++ upper :: further) :
    upper.ancestors = further := by
  induction above generalizing children nearer with
  | nil => simp [ancestorsOf] at split
  | cons level above ih =>
      cases nearer with
      | nil =>
          obtain ⟨rfl, rfl⟩ := List.cons.inj split
          rfl
      | cons first nearer => exact ih (List.cons.inj split).2

private theorem ancestors_of_split {nearer further : List Place}
    (split : place.ancestors = nearer ++ upper :: further) : upper.ancestors = further :=
  ancestors_of_ancestorsOf split

/-- The outermost place of a kind above a place. -/
def outermost? (kind : Place → Bool) (place : Place) : Option Place :=
  place.ancestors.reverse.find? kind

theorem outermost?_eq_none {kind : Place → Bool} :
    place.outermost? kind = none ↔ ∀ upper ∈ place.ancestors, kind upper = false := by
  simp [outermost?]

theorem outermost?_eq_some {kind : Place → Bool} (found : place.outermost? kind = some upper) :
    upper ∈ place.ancestors ∧ kind upper = true ∧
      ∀ further ∈ upper.ancestors, kind further = false := by
  obtain ⟨chosen, outer, inner, split, none⟩ := List.find?_eq_some_iff_append.mp found
  rw [List.reverse_eq_append_iff, List.reverse_cons, List.append_assoc,
    List.singleton_append] at split
  rw [ancestors_of_split split, split]
  exact ⟨by simp, chosen, by simpa using none⟩

private theorem above_of_rowIn {forest before : Forest} {above : List Level}
    (member : place ∈ Forest.rowIn above before forest) : place.above = above := by
  induction forest generalizing before with
  | nil => cases member
  | cons id data children rest _ ihRest =>
      rcases List.mem_cons.mp member with rfl | later
      · rfl
      · exact ihRest later

private theorem above_of_following {other : Place} (member : other ∈ place.following) :
    other.above = place.above :=
  above_of_rowIn member

end Place

namespace Forest

private theorem ancestors_of_placesIn {forest before : Forest} {above : List Level} {place : Place}
    (member : place ∈ placesIn above before forest) :
    ∃ nearer, nearer ⊆ placesIn above before forest ∧
      place.ancestors = nearer ++ Place.ancestorsOf (before.onto forest) above := by
  induction forest generalizing above before with
  | nil => cases member
  | cons id data children rest ihChildren ihRest =>
      simp only [placesIn, List.mem_cons, List.mem_append] at member
      rcases member with rfl | inside | after
      · exact ⟨[], List.nil_subset _, rfl⟩
      · obtain ⟨nearer, known, whole⟩ := ihChildren inside
        refine ⟨nearer ++ [⟨id, data, children, before, rest, above⟩], ?_, ?_⟩
        · refine List.append_subset.mpr ⟨fun place member => ?_, by simp [placesIn]⟩
          exact .tail _ (List.mem_append_left _ (known member))
        · rw [whole, List.append_assoc]
          rfl
      · obtain ⟨nearer, known, whole⟩ := ihRest after
        exact ⟨nearer, fun place member => .tail _ (List.mem_append_right _ (known member)),
          whole⟩

variable {forest : Forest} {place : Place}

theorem ancestors_subset_places (known : place ∈ forest.places) :
    place.ancestors ⊆ forest.places := by
  obtain ⟨nearer, inside, whole⟩ := ancestors_of_placesIn known
  rw [whole, Place.ancestorsOf, List.append_nil]
  exact inside

theorem map_id_ancestors (distinct : forest.ids.Nodup) (known : place ∈ forest.places) :
    place.ancestors.map Place.id = (forest.ancestors place.id).reverse := by
  have levels := above_of_placesIn distinct known
  rw [Place.ancestors, Place.map_id_ancestorsOf, levels, List.map_nil, List.append_nil]

theorem find?_of_places (distinct : forest.ids.Nodup) (known : place ∈ forest.places) :
    forest.find? place.id = some place.tree := by
  obtain ⟨context, stands⟩ := exists_fill_of_placesIn known
  have apart : place.id ∉ context.ids := Context.not_mem_ids (stands ▸ distinct) (.head _)
  rw [stands, Context.find?_fill apart, Place.onward, find?, if_pos rfl, Place.tree]

theorem mem_ancestors_of_places (distinct : forest.ids.Nodup) (known : place ∈ forest.places)
    {upper : Place} (above : upper ∈ place.ancestors) :
    upper.id ∈ forest.ancestors place.id := by
  rw [← List.mem_reverse, ← map_id_ancestors distinct known]
  exact List.mem_map_of_mem above

/-- Above a node below another one is what is above that, that node itself, and what is
between them. -/
theorem ancestors_of_find? {upper lower : NodeId} {tree : Tree} (distinct : forest.ids.Nodup)
    (found : forest.find? upper = some tree) (below : lower ∈ tree.children.ids) :
    forest.ancestors lower =
      forest.ancestors upper ++ upper :: tree.children.ancestors lower := by
  induction forest with
  | nil => cases found
  | cons id data children rest ihChildren ihRest =>
      have parts := List.nodup_append.mp (List.nodup_cons.mp distinct).2
      rcases (find?_cons_eq_some distinct).mp found with ⟨rfl, rfl⟩ | inside | after
      · rw [ancestors_cons_of_mem_children distinct below, ancestors, if_pos rfl,
          List.nil_append]
      · have known := mem_of_find? inside
        have known' := (ids_children_sublist inside).subset below
        rw [ancestors_cons_of_mem_children distinct known',
          ancestors_cons_of_mem_children distinct known, ihChildren parts.1 inside,
          List.cons_append]
      · have known := mem_of_find? after
        have known' := (ids_children_sublist after).subset below
        rw [ancestors_cons_of_mem_rest distinct known', ancestors_cons_of_mem_rest distinct known,
          ihRest parts.2.1 after]

theorem mem_tree_ids (distinct : forest.ids.Nodup) (known : place ∈ forest.places)
    {lower : NodeId} (inside : lower ∈ place.tree.ids) :
    place.id = lower ∨ place.id ∈ forest.ancestors lower := by
  rcases List.mem_cons.mp inside with rfl | below
  · exact .inl rfl
  · exact .inr ((mem_ancestors distinct).mpr ⟨place.tree, find?_of_places distinct known, below⟩)

theorem ancestors_of_following (distinct : forest.ids.Nodup) (known : place ∈ forest.places)
    {other : Place} (member : other ∈ place.following) :
    forest.ancestors other.id = forest.ancestors place.id := by
  have levels := above_of_placesIn distinct known
  have levels' := above_of_placesIn distinct (following_subset known member)
  rw [Place.above_of_following member, levels, List.append_cancel_right_eq] at levels'
  exact (List.reverse_injective levels').symm

end Forest

end MailQuote.Html
