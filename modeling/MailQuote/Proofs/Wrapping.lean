import MailQuote.Proofs.Wrapping.Folding

namespace MailQuote

open Html

namespace Wrapping

open Forest

def disclosureNodes (parent : Option NodeId) (container : NodeId) (label : String) :
    List Node :=
  [⟨parent, container, disclosureData⟩, ⟨some container, container + 1, summaryData⟩,
    ⟨some (container + 1), container + 2, .text label⟩]

/-- Runs, each with the identifier of its disclosure. -/
def numbered (container : NodeId) : List (List NodeId) → List (NodeId × List NodeId)
  | [] => []
  | run :: runs => (container, run) :: numbered (container + 3) runs

/-- A node as a child of the disclosure of its run, if it is in one. -/
def relocate (runs : List (NodeId × List NodeId)) (node : Node) : Node :=
  runs.foldl (fun node run => moveTo run.1 run.2 node) node

private theorem le_of_disclosureNodes {parent : Option NodeId} {container : NodeId}
    {label : String} {node : Node} (member : node ∈ disclosureNodes parent container label) :
    container ≤ node.id := by
  simp only [disclosureNodes, List.mem_cons, List.not_mem_nil, or_false] at member
  rcases member with rfl | rfl | rfl
  · exact Nat.le_refl _
  · exact Nat.le_add_right _ 1
  · exact Nat.le_add_right _ 2

private theorem id_moveTo (container : NodeId) (run : List NodeId) (node : Node) :
    (moveTo container run node).id = node.id := by
  unfold moveTo
  split <;> rfl

theorem mem_of_numbered {container : NodeId} {runs : List (List NodeId)}
    {run : NodeId × List NodeId} (member : run ∈ numbered container runs) :
    container ≤ run.1 ∧ run.2 ∈ runs := by
  induction runs generalizing container with
  | nil => cases member
  | cons first runs ih =>
      rcases List.mem_cons.mp member with rfl | later
      · exact ⟨Nat.le_refl _, .head _⟩
      · obtain ⟨le, member⟩ := ih later
        exact ⟨Nat.le_trans (Nat.le_add_right _ 3) le, .tail _ member⟩

private theorem index_of_numbered {container : NodeId} {runs : List (List NodeId)}
    {run : NodeId × List NodeId} (member : run ∈ numbered container runs) :
    ∃ index : Nat, run.1 = container + 3 * index := by
  induction runs generalizing container with
  | nil => cases member
  | cons first runs ih =>
      rcases List.mem_cons.mp member with rfl | later
      · exact ⟨0, rfl⟩
      · obtain ⟨index, equality⟩ := ih later
        exact ⟨index + 1, by rw [equality, Nat.mul_succ, Nat.add_assoc, Nat.add_comm 3]⟩

private theorem numbered_unique {container : NodeId} {runs : List (List NodeId)}
    {first second : NodeId × List NodeId} (mem : first ∈ numbered container runs)
    (mem' : second ∈ numbered container runs) (same : first.1 = second.1) :
    first = second := by
  induction runs generalizing container with
  | nil => cases mem
  | cons run runs ih =>
      have beyond {other : NodeId × List NodeId}
          (later : other ∈ numbered (container + 3) runs) : container < other.1 :=
        Nat.lt_of_lt_of_le (Nat.lt_add_of_pos_right (by decide)) (mem_of_numbered later).1
      rcases List.mem_cons.mp mem with rfl | later
      · rcases List.mem_cons.mp mem' with rfl | later'
        · rfl
        · exact absurd same (Nat.ne_of_lt (beyond later'))
      · rcases List.mem_cons.mp mem' with rfl | later'
        · exact absurd same.symm (Nat.ne_of_lt (beyond later))
        · exact ih later later'

theorem exists_numbered (container : NodeId) {runs : List (List NodeId)}
    {run : List NodeId} (member : run ∈ runs) :
    ∃ container', (container', run) ∈ numbered container runs := by
  induction runs generalizing container with
  | nil => cases member
  | cons first runs ih =>
      rcases List.mem_cons.mp member with rfl | later
      · exact ⟨container, .head _⟩
      · obtain ⟨container', known⟩ := ih (container + 3) later
        exact ⟨container', .tail _ known⟩

theorem id_relocate (runs : List (NodeId × List NodeId)) (node : Node) :
    (relocate runs node).id = node.id := by
  induction runs generalizing node with
  | nil => rfl
  | cons run runs ih => rw [relocate, List.foldl_cons, ← relocate, ih, id_moveTo]

private theorem relocate_of_not_mem {container : NodeId} {runs : List (List NodeId)} {node : Node}
    (absent : ∀ run ∈ runs, node.id ∉ run) :
    relocate (numbered container runs) node = node := by
  induction runs generalizing container with
  | nil => rfl
  | cons first runs ih =>
      rw [numbered, relocate, List.foldl_cons, moveTo_of_not_mem (absent _ (.head _))]
      exact ih fun run member => absent run (.tail _ member)

private theorem relocate_of_mem {container : NodeId} {runs : List (List NodeId)}
    (distinct : runs.flatten.Nodup) {run : NodeId × List NodeId}
    (member : run ∈ numbered container runs) {node : Node} (inRun : node.id ∈ run.2) :
    relocate (numbered container runs) node = { node with parent := some run.1 } := by
  induction runs generalizing container with
  | nil => cases member
  | cons first runs ih =>
      rw [List.flatten_cons, List.nodup_append] at distinct
      obtain ⟨-, runsDistinct, apart⟩ := distinct
      rw [numbered, relocate, List.foldl_cons, ← relocate]
      rcases List.mem_cons.mp member with rfl | later
      · have moved : moveTo container first node =
            { node with parent := some container } := if_pos inRun
        rw [moved]
        refine relocate_of_not_mem fun run later inRun' => ?_
        exact apart node.id inRun node.id (List.mem_flatten_of_mem later inRun') rfl
      · have notFirst : node.id ∉ first := fun inFirst => apart node.id inFirst node.id
          (List.mem_flatten_of_mem (mem_of_numbered later).2 inRun) rfl
        rw [moveTo_of_not_mem notFirst]
        exact ih runsDistinct later

/-- Folding away a run moves its members below a disclosure, which has the parent
that they had. -/
theorem mem_nodes_step (container : NodeId) {context : Context} {run : List NodeId}
    {row moved left : Forest} (gathers : Gathers run row moved left)
    (distinct : (context.fill row).ids.Nodup) (label : String) :
    ∃ parent, (∀ id ∈ run, ∃ data,
        (⟨parent, id, data⟩ : Node) ∈ (context.fill row).nodes none) ∧
      ∀ node, node ∈ (context.fill (.cons container disclosureData
          (summary container label ++ moved) left)).nodes none ↔
        node ∈ disclosureNodes parent container label ∨
          ∃ origin ∈ (context.fill row).nodes none, node = moveTo container run origin := by
  obtain ⟨before, after, parent, nodes⟩ := context.nodes_fill none
  have ids : (context.fill row).ids =
      before.map Node.id ++ row.ids ++ after.map Node.id := by
    rw [← map_id_nodes none, nodes]
    simp
  rw [ids, List.nodup_append, List.nodup_append] at distinct
  obtain ⟨⟨-, rowDistinct, apartBefore⟩, -, apartAfter⟩ := distinct
  have keptBefore : ∀ node ∈ before, moveTo container run node = node :=
    fun node member => moveTo_of_not_mem fun inRun =>
      apartBefore node.id (List.mem_map_of_mem member) node.id (gathers.run_subset inRun) rfl
  have keptAfter : ∀ node ∈ after, moveTo container run node = node :=
    fun node member => moveTo_of_not_mem fun inRun =>
      apartAfter node.id (List.mem_append_right _ (gathers.run_subset inRun)) node.id
        (List.mem_map_of_mem member) rfl
  have perm := gathers.nodes_moveTo_perm rowDistinct parent container
  refine ⟨parent, fun id member => ?_, fun node => ?_⟩
  · obtain ⟨data, known⟩ := gathers.exists_node parent member
    exact ⟨data, by simp [nodes, known]⟩
  · have inRow := perm.mem_iff (a := node)
    simp only [List.mem_append, List.mem_map] at inRow
    have inDisclosure : node ∈ (Forest.cons container disclosureData
        (summary container label ++ moved) left).nodes parent ↔
          node ∈ disclosureNodes parent container label ∨
            ∃ origin ∈ row.nodes parent, moveTo container run origin = node := by
      rw [← inRow]
      simp [Forest.nodes, summary, disclosureNodes, or_assoc]
    rw [nodes, nodes]
    simp only [List.mem_append, inDisclosure]
    constructor
    · rintro ((member | own | ⟨origin, member, rfl⟩) | member)
      · exact .inr ⟨node, .inl (.inl member), (keptBefore node member).symm⟩
      · exact .inl own
      · exact .inr ⟨origin, .inl (.inr member), rfl⟩
      · exact .inr ⟨node, .inr member, (keptAfter node member).symm⟩
    · rintro (own | ⟨origin, (member | member) | member, rfl⟩)
      · exact .inl (.inr (.inl own))
      · exact .inl (.inl (by rwa [keptBefore origin member]))
      · exact .inl (.inr (.inr ⟨origin, member, rfl⟩))
      · exact .inr (by rwa [keptAfter origin member])

/-- An older node that is not in the run stays below its parent. -/
theorem mem_nodes_step_of_not_mem {container : NodeId} {context : Context}
    {run : List NodeId} {row moved left : Forest} (gathers : Gathers run row moved left)
    (distinct : (context.fill row).ids.Nodup) (label : String) {node : Node}
    (apart : node.id ∉ run) (older : node.id < container) :
    node ∈ (context.fill (.cons container disclosureData
        (summary container label ++ moved) left)).nodes none ↔
      node ∈ (context.fill row).nodes none := by
  obtain ⟨parent, -, nodes⟩ := mem_nodes_step container gathers distinct label
  rw [nodes]
  constructor
  · rintro (own | ⟨origin, inForest, rfl⟩)
    · exact absurd older (Nat.not_lt.mpr (le_of_disclosureNodes own))
    · rw [id_moveTo] at apart
      rwa [moveTo_of_not_mem apart]
  · intro inForest
    exact .inr ⟨node, inForest, (moveTo_of_not_mem apart).symm⟩

namespace Folding

variable {original before after : Forest} {label : String} {container : NodeId}
  {runs : List (List NodeId)}

private theorem run_subset (folding : Folding original label container runs before after) :
    ∀ run ∈ runs, run ⊆ original.ids := by
  induction folding with
  | done => simp
  | step known gathers opened sound rest ih =>
      intro run member
      rcases List.mem_cons.mp member with rfl | later
      · exact fun id inRun => (onward_sublist known).subset (gathers.run_subset inRun)
      · exact ih run later

private theorem exists_parent (folding : Folding original label container runs before after) :
    ∀ run ∈ runs, run ≠ [] ∧ ∃ parent, ∀ id ∈ run, ∃ data,
      (⟨parent, id, data⟩ : Node) ∈ original.nodes none := by
  induction folding with
  | done => simp
  | @step _ place _ _ _ _ _ _ known gathers opened sound rest ih =>
      intro run member
      rcases List.mem_cons.mp member with rfl | later
      · obtain ⟨context, equality⟩ := exists_fill_of_placesIn known
        obtain ⟨earlier, later, parent, nodes⟩ := context.nodes_fill none
        refine ⟨gathers.run_ne_nil, parent, fun id inRun => ?_⟩
        obtain ⟨data, inRow⟩ := gathers.exists_node parent inRun
        exact ⟨data, by rw [equality, nodes]; simp [inRow]⟩
      · exact ih run later

private theorem mem_nodes (folding : Folding original label container runs before after)
    (fresh : ∀ id ∈ original.ids, id < container) (distinct : runs.flatten.Nodup)
    (node : Node) :
    node ∈ after.nodes none ↔
      (∃ origin ∈ before.nodes none, node = relocate (numbered container runs) origin) ∨
        ∃ run ∈ numbered container runs, ∃ parent,
          (∀ id ∈ run.2, ∃ data, (⟨parent, id, data⟩ : Node) ∈ before.nodes none) ∧
            node ∈ disclosureNodes parent run.1 label := by
  induction folding with
  | done => simp [numbered, relocate]
  | @step container place others runs context moved left result known gathers opened sound
      rest ih =>
      rw [List.flatten_cons, List.nodup_append] at distinct
      obtain ⟨-, runsDistinct, apart⟩ := distinct
      obtain ⟨parent, parents, nodes⟩ := mem_nodes_step container gathers sound.distinct label
      have older {run : List NodeId} (later : run ∈ runs) {id : NodeId} (member : id ∈ run) :
          id ∉ place.id :: others ∧ id < container :=
        ⟨fun inRun => apart id inRun id (List.mem_flatten_of_mem later member) rfl,
          fresh id (rest.run_subset run later member)⟩
      have own (node : Node) (member : node ∈ disclosureNodes parent container label) :
          relocate (numbered (container + 3) runs) node = node :=
        relocate_of_not_mem fun run later inRun =>
          absurd (older later inRun).2 (Nat.not_lt.mpr (le_of_disclosureNodes member))
      have same {run : List NodeId} (later : run ∈ runs) {id : NodeId} (member : id ∈ run)
          (upper : Option NodeId) (data : NodeData) :
          (⟨upper, id, data⟩ : Node) ∈ (context.fill (.cons container disclosureData
            (summary container label ++ moved) left)).nodes none ↔
              (⟨upper, id, data⟩ : Node) ∈ (context.fill place.onward).nodes none :=
        mem_nodes_step_of_not_mem gathers sound.distinct label (older later member).1
          (older later member).2
      rw [ih (fun id member => Nat.lt_add_right 3 (fresh id member)) runsDistinct]
      constructor
      · rintro (⟨origin, inFolded, rfl⟩ | ⟨run, later, upper, uppers, isNew⟩)
        · rcases (nodes origin).mp inFolded with isOwn | ⟨origin, inForest, rfl⟩
          · exact .inr ⟨_, .head _, parent, parents, (own origin isOwn).symm ▸ isOwn⟩
          · exact .inl ⟨origin, inForest, rfl⟩
        · refine .inr ⟨run, .tail _ later, upper, fun id member => ?_, isNew⟩
          obtain ⟨data, inFolded⟩ := uppers id member
          exact ⟨data, (same (mem_of_numbered later).2 member upper data).mp inFolded⟩
      · rintro (⟨origin, inForest, rfl⟩ | ⟨run, member, upper, uppers, isNew⟩)
        · exact .inl ⟨_, (nodes _).mpr (.inr ⟨origin, inForest, rfl⟩), rfl⟩
        · rcases List.mem_cons.mp member with rfl | later
          · obtain ⟨data, inForest⟩ := uppers place.id (.head _)
            obtain ⟨data', inForest'⟩ := parents place.id (.head _)
            have equality := nodes_unique sound.distinct inForest inForest' rfl
            have sameParent : upper = parent := congrArg Node.parent equality
            subst sameParent
            exact .inl ⟨node, (nodes node).mpr (.inl isNew), (own node isNew).symm⟩
          · refine .inr ⟨run, later, upper, fun id member => ?_, isNew⟩
            obtain ⟨data, inForest⟩ := uppers id member
            exact ⟨data, (same (mem_of_numbered later).2 member upper data).mpr inForest⟩

end Folding

/-- Whether a filler stands between two members of a run, and another node is at or
below the second one. -/
def IsOvertaken (original : Forest) (run : List NodeId) (filler other : NodeId) : Prop :=
  ∃ place ∈ original.places, place.id = filler ∧ place.data.isFiller = true ∧
    (∃ tree ∈ place.before.trees, tree.id ∈ run) ∧
    ∃ tree ∈ place.after.trees, tree.id ∈ run ∧ other ∈ tree.ids

private theorem not_isOvertaken {original : Forest} (distinct : original.ids.Nodup)
    {element : NodeId} (member : element ∈ original.elementIds) (run : List NodeId)
    (other : NodeId) : ¬ IsOvertaken original run element other := by
  intro ⟨place, known, same, fills, _⟩
  have isElement := isElement_of_mem_elementIds distinct known (same ▸ member)
  rw [Place.isElement] at isElement
  simp [NodeData.isFiller, isElement] at fills

namespace Gathers

variable {original : Forest} {place : Place} {others : List NodeId} {moved left : Forest}

/-- A node that is left after the run is gathered but came before a node that is
moved is overtaken. -/
theorem isOvertaken (gathers : Gathers (place.id :: others) place.onward moved left)
    (distinct : original.ids.Nodup) (known : place ∈ original.places)
    {first second : NodeId} (stays : first ∈ left.ids) (moves : second ∈ moved.ids)
    (order : Precedes place.onward.ids first second) :
    IsOvertaken original (place.id :: others) first second := by
  have distinct := (onward_sublist known).nodup distinct
  obtain ⟨id, data, children, before, after, above⟩ := place
  change Precedes ((id :: children.ids) ++ after.ids) first second at order
  change ((id :: children.ids) ++ after.ids).Nodup at distinct
  have afterDistinct : after.ids.Nodup := (List.nodup_append.mp distinct).2.1
  change Gathers (id :: others) (.cons id data children after) moved left at gathers
  -- The first member is moved with all that is below it, so it overtakes nothing.
  have notFirst (late : first ∈ after.ids) : second ∉ id :: children.ids := fun here =>
    (Precedes.append_iff.mpr (.inr (.inl ⟨here, late⟩))).asymm distinct order
  cases gathers with
  | last => exact absurd (by simpa using moves) (notFirst stays)
  | member rest =>
      have late := rest.left_sublist.subset stays
      rw [ids_cons, ← List.cons_append, List.mem_append] at moves
      have moves := moves.resolve_left (notFirst late)
      obtain ⟨place, following, same, fills, around, tree, after', inRun, below⟩ :=
        rest.exists_filler afterDistinct stays moves (order.of_append distinct late) above
          (.cons id data children before)
      exact ⟨place, following_subset known following, same, fills,
        ⟨_, around (.head _), .head _⟩, tree, after', .tail _ inRun, below⟩
  | filler fills rest =>
      have again := rest.run_subset (.head _)
      exact absurd rfl ((List.nodup_append.mp distinct).2.2 id (.head _) id again)

end Gathers

/-- Unwrapping undoes a step of folding away but for the order of the nodes in the
row that the run is in. -/
theorem unwrap_step {original : Forest} {container : NodeId} {place : Place}
    {run : List NodeId} {context : Context} {moved left : Forest}
    (known : place ∈ original.places) (gathers : Gathers run place.onward moved left)
    (opened : context.IsOpen original.ids) (fresh : ∀ id ∈ original.ids, id < container)
    (label : String) :
    ∃ before after parent,
      ((context.fill place.onward).unwrap original.ids).nodes none =
        before ++ place.onward.nodes parent ++ after ∧
      ((context.fill (.cons container disclosureData (summary container label ++ moved)
        left)).unwrap original.ids).nodes none =
          before ++ (moved.nodes parent ++ left.nodes parent) ++ after := by
  obtain ⟨before, after, parent, nodes⟩ := Context.nodes_unwrap_fill opened none
  have inside : place.onward.ids ⊆ original.ids := (onward_sublist known).subset
  refine ⟨before, after, parent, ?_, ?_⟩
  · rw [nodes, unwrap_eq_self inside]
  · rw [nodes, unwrap_disclosure label fresh
      (gathers.moved_sublist.trans (onward_sublist known)).subset
      (gathers.left_sublist.trans (onward_sublist known)).subset, nodes_append]

private theorem precedes_unwrap_step {original : Forest} {container : NodeId} {place : Place}
    {others : List NodeId} {context : Context} {moved left : Forest}
    (known : place ∈ original.places)
    (gathers : Gathers (place.id :: others) place.onward moved left)
    (opened : context.IsOpen original.ids) (distinct : original.ids.Nodup)
    (fresh : ∀ id ∈ original.ids, id < container) (label : String)
    {first second : NodeId}
    (order : Precedes ((context.fill place.onward).unwrap original.ids).ids
      first second) :
    let folded := context.fill (.cons container disclosureData
      (summary container label ++ moved) left)
    Precedes (folded.unwrap original.ids).ids first second ∨
      IsOvertaken original (place.id :: others) first second ∧
        ∀ member ∈ place.id :: others,
          Precedes (folded.unwrap original.ids).ids member first := by
  intro folded
  obtain ⟨before, after, parent, nodes, nodes'⟩ :=
    unwrap_step known gathers opened fresh label
  have ids := congrArg (List.map Node.id) nodes
  have ids' := congrArg (List.map Node.id) nodes'
  simp only [map_id_nodes, List.map_append] at ids ids'
  rw [ids] at order
  rw [ids']
  have part : (moved.ids ++ left.ids).Sublist
      (before.map Node.id ++ (moved.ids ++ left.ids) ++ after.map Node.id) :=
    (List.sublist_append_right _ _).trans (List.sublist_append_left _ _)
  have rowDistinct := (onward_sublist known).nodup distinct
  rcases order.exchange gathers.ids_perm.symm.subset with kept | inRow
  · exact .inl kept
  · rcases gathers.precedes rowDistinct inRow with kept | ⟨stays, moves⟩
    · exact .inl (kept.mono part)
    · refine .inr ⟨gathers.isOvertaken distinct known stays moves inRow,
        fun member inRun => Precedes.mono ?_ part⟩
      exact Precedes.append_iff.mpr (.inr (.inl ⟨gathers.run_subset_moved inRun, stays⟩))

namespace Folding

variable {original before after : Forest} {label : String} {container : NodeId}
  {runs : List (List NodeId)}

private theorem nodes_unwrap_perm (folding : Folding original label container runs before after)
    (fresh : ∀ id ∈ original.ids, id < container) :
    ((after.unwrap original.ids).nodes none).Perm
      ((before.unwrap original.ids).nodes none) := by
  induction folding with
  | done => exact .refl _
  | step known gathers opened sound rest ih =>
      obtain ⟨earlier, later, parent, nodes, nodes'⟩ :=
        unwrap_step known gathers opened fresh label
      refine (ih fun id member => Nat.lt_add_right 3 (fresh id member)).trans ?_
      rw [nodes, nodes']
      exact ((gathers.nodes_perm parent).append_left _).append_right _

private theorem filter_nodes_unwrap
    (folding : Folding original label container runs before after)
    (fresh : ∀ id ∈ original.ids, id < container) :
    ((after.unwrap original.ids).nodes none).filter (!·.data.isFiller) =
      ((before.unwrap original.ids).nodes none).filter (!·.data.isFiller) := by
  induction folding with
  | done => rfl
  | step known gathers opened sound rest ih =>
      obtain ⟨earlier, later, parent, nodes, nodes'⟩ :=
        unwrap_step known gathers opened fresh label
      rw [ih fun id member => Nat.lt_add_right 3 (fresh id member), nodes, nodes']
      rw [List.filter_append, List.filter_append, gathers.filter_nodes,
        List.filter_append, List.filter_append]

/-- No node comes before another one in the original order and after it in the new
one unless it is a filler that is overtaken. Such a filler comes after the whole
run. -/
theorem precedes_unwrap (folding : Folding original label container runs before after)
    (distinct : original.ids.Nodup) (fresh : ∀ id ∈ original.ids, id < container)
    (elements : ∀ run ∈ runs, run ⊆ original.elementIds) {first second : NodeId}
    (order : Precedes (before.unwrap original.ids).ids first second) :
    Precedes (after.unwrap original.ids).ids first second ∨
      ∃ run ∈ runs, IsOvertaken original run first second ∧
        ∀ member ∈ run, Precedes (after.unwrap original.ids).ids member first := by
  induction folding generalizing first second with
  | done => exact .inl order
  | step known gathers opened sound rest ih =>
      have ih {first second : NodeId} := @ih
        (fun id member => Nat.lt_add_right 3 (fresh id member))
        (fun run member => elements run (.tail _ member)) first second
      rcases precedes_unwrap_step known gathers opened distinct fresh label order with
        kept | ⟨overtaken, follows⟩
      · rcases ih kept with kept | ⟨run, member, overtaken⟩
        · exact .inl kept
        · exact .inr ⟨run, .tail _ member, overtaken⟩
      · refine .inr ⟨_, .head _, overtaken, fun member inRun => ?_⟩
        refine (ih (follows member inRun)).resolve_right fun ⟨run, _, overtaken, _⟩ => ?_
        exact not_isOvertaken distinct (elements _ (.head _) inRun) run _ overtaken

end Folding

/-- Whether a node of a changed forest is a new disclosure. -/
def IsContainer (original changed : Forest) (container : NodeId) : Prop :=
  container ∉ original.ids ∧
    ∃ parent data, (⟨parent, container, data⟩ : Node) ∈ changed.nodes none ∧
      data.isDetails = true

/-- Whether a disclosure has no children but its summary and quotes, and stands below
the node that the quotes were below. -/
structure Encloses (original changed : Forest) (quotes : List NodeId)
    (container : NodeId) : Prop where
  summary : ∃ summary ∈ changed.nodes none, summary.parent = some container ∧
    summary.data = summaryData ∧ summary.id ∉ original.ids ∧
      ∀ node ∈ changed.nodes none, node.parent = some container →
        node = summary ∨ node.id ∈ quotes
  parent : ∃ parent, (⟨parent, container, disclosureData⟩ : Node) ∈ changed.nodes none ∧
    ∀ quote ∈ quotes, ∀ data,
      (⟨some container, quote, data⟩ : Node) ∈ changed.nodes none →
        (⟨parent, quote, data⟩ : Node) ∈ original.nodes none

section Disclosures

variable {document : Document} {set : NodeSet} {label : String}

theorem flatten_distinct (document : Document) (set : NodeSet) :
    (groups document set).flatten.Nodup := by
  rw [flatten_groups]
  exact set.distinct

theorem nodes_wrap (ordered : set.members.Sublist document.content.ids) (node : Node) :
    node ∈ (document.wrap set label).content.nodes none ↔
      (∃ origin ∈ document.content.nodes none,
        node = relocate (numbered document.next (groups document set)) origin) ∨
        ∃ run ∈ numbered document.next (groups document set), ∃ parent,
          (∀ id ∈ run.2, ∃ data,
            (⟨parent, id, data⟩ : Node) ∈ document.content.nodes none) ∧
              node ∈ disclosureNodes parent run.1 label := by
  exact (folding_wrap document set label ordered).mem_nodes document.content_sound.below
    (flatten_distinct document set) node

theorem not_mem_of_le {id : NodeId} (le : document.next ≤ id) :
    id ∉ document.content.ids := fun member =>
  Nat.not_lt.mpr le (document.content_sound.below id member)

private theorem parent_mem {parent : NodeId} {node : Node}
    (member : node ∈ document.content.nodes none) (isParent : node.parent = some parent) :
    parent ∈ document.content.ids := by
  have above := (parent_mem_ancestors document.content_distinct member isParent).resolve_left
    nofun
  exact (ancestors_sublist_ids _ _).subset above

theorem exists_parent_of_run (ordered : set.members.Sublist document.content.ids)
    {run : NodeId × List NodeId}
    (member : run ∈ numbered document.next (groups document set)) :
    run.2 ≠ [] ∧ ∃ parent, ∀ id ∈ run.2, ∃ data,
      (⟨parent, id, data⟩ : Node) ∈ document.content.nodes none :=
  (folding_wrap document set "" ordered).exists_parent run.2 (mem_of_numbered member).2

theorem isContainer_wrap (ordered : set.members.Sublist document.content.ids)
    {container : NodeId} :
    IsContainer document.content (document.wrap set label).content container ↔
      ∃ run ∈ numbered document.next (groups document set), run.1 = container := by
  constructor
  · intro ⟨isNew, parent, data, member, details⟩
    rcases (nodes_wrap ordered _).mp member with
      ⟨origin, known, equality⟩ | ⟨run, known, upper, -, own⟩
    · have same : container = origin.id := by
        rw [← id_relocate (numbered document.next (groups document set)) origin, ← equality]
      exact absurd ((mem_ids_iff_nodes none).mpr ⟨origin, known, same.symm⟩) isNew
    · simp only [disclosureNodes, List.mem_cons, List.not_mem_nil, or_false,
        Node.mk.injEq] at own
      rcases own with ⟨-, same, -⟩ | ⟨-, -, rfl⟩ | ⟨-, -, rfl⟩
      · exact ⟨run, known, same.symm⟩
      · exact absurd details (by decide)
      · exact absurd details (by simp [NodeData.isDetails, NodeData.name?])
  · rintro ⟨run, known, rfl⟩
    obtain ⟨-, parent, parents⟩ := exists_parent_of_run ordered known
    refine ⟨not_mem_of_le (mem_of_numbered known).1, parent, disclosureData, ?_, rfl⟩
    exact (nodes_wrap ordered _).mpr (.inr ⟨run, known, parent, parents, .head _⟩)

theorem quote_of_run (label : String)
    (ordered : set.members.Sublist document.content.ids)
    {run : NodeId × List NodeId}
    (known : run ∈ numbered document.next (groups document set)) {node : Node}
    (member : node ∈ document.content.nodes none) (inRun : node.id ∈ run.2) :
    (⟨some run.1, node.id, node.data⟩ : Node) ∈
      (document.wrap set label).content.nodes none := by
  have moved := relocate_of_mem (flatten_distinct document set) known inRun
  exact (nodes_wrap ordered _).mpr (.inl ⟨node, member, moved.symm⟩)

theorem exists_run (set : NodeSet) (document : Document) {quote : NodeId}
    (member : quote ∈ set.members) :
    ∃ run ∈ numbered document.next (groups document set), quote ∈ run.2 := by
  rw [← flatten_groups document set] at member
  obtain ⟨run, known, inRun⟩ := List.mem_flatten.mp member
  obtain ⟨container, known⟩ := exists_numbered document.next known
  exact ⟨_, known, inRun⟩

theorem child_of_run (ordered : set.members.Sublist document.content.ids)
    {run : NodeId × List NodeId}
    (known : run ∈ numbered document.next (groups document set)) {node : Node}
    (member : node ∈ (document.wrap set label).content.nodes none)
    (isParent : node.parent = some run.1) :
    node = ⟨some run.1, run.1 + 1, summaryData⟩ ∨
      node.id ∈ run.2 ∧ ∃ origin ∈ document.content.nodes none,
        origin.id = node.id ∧ origin.data = node.data := by
  have isNew : run.1 ∉ document.content.ids := not_mem_of_le (mem_of_numbered known).1
  rcases (nodes_wrap ordered _).mp member with
    ⟨origin, original, rfl⟩ | ⟨other, known', upper, uppers, own⟩
  · by_cases quoted : origin.id ∈ set.members
    · obtain ⟨other, known', inRun⟩ := exists_run set document quoted
      rw [relocate_of_mem (flatten_distinct document set) known' inRun] at isParent ⊢
      cases numbered_unique known' known (Option.some.inj isParent)
      exact .inr ⟨inRun, origin, original, rfl, rfl⟩
    · have kept : relocate (numbered document.next (groups document set)) origin = origin := by
        refine relocate_of_not_mem fun run known inRun => quoted ?_
        rw [← flatten_groups document set]
        exact List.mem_flatten_of_mem known inRun
      rw [kept] at isParent
      exact absurd (parent_mem original isParent) isNew
  · simp only [disclosureNodes, List.mem_cons, List.not_mem_nil, or_false] at own
    rcases own with rfl | rfl | rfl
    · obtain ⟨first, inRun⟩ := List.exists_mem_of_ne_nil _
        (exists_parent_of_run ordered known').1
      obtain ⟨data, original⟩ := uppers first inRun
      exact absurd (parent_mem original isParent) isNew
    · rw [Option.some.inj isParent]
      exact .inl rfl
    · obtain ⟨index, equality⟩ := index_of_numbered known
      obtain ⟨index', equality'⟩ := index_of_numbered known'
      have same : other.1 + 1 = run.1 := Option.some.inj isParent
      have apart (first next second : Nat) : next + 3 * first + 1 ≠ next + 3 * second := by
        omega
      rw [equality, equality'] at same
      exact absurd same (apart index' document.next index)

theorem encloses_wrap (ordered : set.members.Sublist document.content.ids)
    {container : NodeId}
    (isContainer : IsContainer document.content (document.wrap set label).content container) :
    Encloses document.content (document.wrap set label).content set.members container := by
  obtain ⟨run, known, rfl⟩ := (isContainer_wrap ordered).mp isContainer
  obtain ⟨-, parent, parents⟩ := exists_parent_of_run ordered known
  have own {node : Node} (member : node ∈ disclosureNodes parent run.1 label) :
      node ∈ (document.wrap set label).content.nodes none :=
    (nodes_wrap ordered node).mpr (.inr ⟨run, known, parent, parents, member⟩)
  have next := (mem_of_numbered known).1
  have quotes : run.2 ⊆ set.members := fun id inRun => by
    rw [← flatten_groups document set]
    exact List.mem_flatten_of_mem (mem_of_numbered known).2 inRun
  refine ⟨⟨⟨some run.1, run.1 + 1, summaryData⟩, own (.tail _ (.head _)), rfl, rfl,
    not_mem_of_le (Nat.le_succ_of_le next), fun node member isParent => ?_⟩,
    ⟨parent, own (.head _), fun quote isQuote data member => ?_⟩⟩
  · exact (child_of_run ordered known member isParent).imp_right fun child =>
      quotes child.1
  · rcases child_of_run ordered known member rfl with equality | ⟨inRun, origin, original,
      same, sameData⟩
    · have isNew : quote ∉ document.content.ids := by
        have own : quote = run.1 + 1 := congrArg Node.id equality
        rw [own]
        exact not_mem_of_le (Nat.le_succ_of_le next)
      exact absurd (ordered.subset isQuote) isNew
    · obtain ⟨data', atParent⟩ := parents quote inRun
      have equality := nodes_unique document.content_distinct atParent original same.symm
      have sameData : data' = data := (congrArg Node.data equality).trans sameData
      exact sameData ▸ atParent

end Disclosures

/-- Folding quotes away and unwrapping them again gives the nodes that there were,
each below its parent. All that is not blank is in the original order, and so is all
else but for a filler between two quotes that were folded away together: it comes
after these quotes. Each quote is below one new disclosure, and a new disclosure
encloses its quotes. -/
theorem wrap_faithful (document : Document) (set : NodeSet) (label : String)
    (ordered : set.members.Sublist document.content.elementIds) :
    let original := document.content
    let changed := (document.apply set .wrap label).content
    let unwrapped := changed.unwrap original.ids
    (unwrapped.nodes none).Perm (original.nodes none) ∧
    (unwrapped.nodes none).filter (!·.data.isFiller) =
      (original.nodes none).filter (!·.data.isFiller) ∧
    (∀ first second, Precedes original.ids first second →
      Precedes unwrapped.ids first second ∨
        ∃ run ∈ groups document set, IsOvertaken original run first second ∧
          ∀ quote ∈ run, Precedes unwrapped.ids quote first) ∧
    (∀ quote ∈ set.members, ∃! container, IsContainer original changed container ∧
      ∃ data, (⟨some container, quote, data⟩ : Node) ∈ changed.nodes none) ∧
    (∀ container, IsContainer original changed container →
      Encloses original changed set.members container) := by
  intro original changed unwrapped
  have inForest := ordered.trans (elementIds_sublist_ids original)
  have folding := folding_wrap document set label inForest
  have fresh := document.content_sound.below
  have whole : original.unwrap original.ids = original := unwrap_eq_self (List.Subset.refl _)
  refine ⟨?perm, ?filter, fun first second order => ?order, fun quote member => ?quotes,
    fun container => encloses_wrap inForest⟩
  case perm =>
    have perm := folding.nodes_unwrap_perm fresh
    rwa [whole] at perm
  case filter =>
    have filter := folding.filter_nodes_unwrap fresh
    rwa [whole] at filter
  case order =>
    refine folding.precedes_unwrap document.content_distinct fresh
      (fun run known id inRun => ordered.subset ?_) (whole.symm ▸ order)
    rw [← flatten_groups document set]
    exact List.mem_flatten_of_mem known inRun
  case quotes =>
    obtain ⟨run, known, inRun⟩ := exists_run set document member
    obtain ⟨origin, atPlace, rfl⟩ := (mem_ids_iff_nodes none).mp (inForest.subset member)
    have below := quote_of_run label inForest known atPlace inRun
    refine ⟨run.1, ⟨(isContainer_wrap inForest).mpr ⟨run, known, rfl⟩, origin.data, below⟩, ?_⟩
    intro container ⟨_, data, below'⟩
    have distinct := (document.wrap set label).content_distinct
    have equality := nodes_unique distinct below' below rfl
    exact Option.some.inj (congrArg Node.parent equality)

/-- A document with two quotes between which there is a comment. -/
def sample : Document where
  content :=
    .cons 0 (.element ⟨.html, "body"⟩ [])
      (.cons 1 (.element ⟨.html, "blockquote"⟩ []) (.cons 2 (.text "old") .nil .nil)
        (.cons 3 (.comment "and") .nil
          (.cons 4 (.element ⟨.html, "blockquote"⟩ []) .nil
            (.cons 5 (.text "new") .nil .nil)))) .nil
  loose := []
  next := 6
  sound := ⟨by decide, by decide, by decide⟩

theorem wrap_faithful_sample :
    let set := (NodeSet.empty.insert 1).insert 4
    let changed := (sample.apply set .wrap "").content
    set.members.Sublist sample.content.elementIds ∧
      ∀ quote ∈ set.members, ∃! container, IsContainer sample.content changed container ∧
        ∃ data, (⟨some container, quote, data⟩ : Node) ∈ changed.nodes none := by
  intro set changed
  have ordered : set.members.Sublist sample.content.elementIds := by decide
  exact ⟨ordered, (wrap_faithful sample set "" ordered).2.2.2.1⟩

end Wrapping

end MailQuote
