import MailQuote.Apply
import MailQuote.Proofs.Forest.Places

namespace MailQuote

open Html

/-- Whether a node is blank text, or neither text nor element. -/
def Html.NodeData.isFiller (data : NodeData) : Bool :=
  !data.isElement && Text.allBlank data.ownText

namespace Wrapping

open Forest

/-- A row of siblings that is parted: the members of a run are gathered, with all
that is below them, and the others are left. Between two members there is nothing
but fillers. -/
inductive Gathers : (run : List NodeId) → (row moved left : Forest) → Prop
  | last {id : NodeId} {data : NodeData} {children rest : Forest} :
      Gathers [id] (.cons id data children rest) (.cons id data children .nil) rest
  | member {id : NodeId} {data : NodeData} {children rest moved left : Forest}
      {run : List NodeId} (others : Gathers run rest moved left) :
      Gathers (id :: run) (.cons id data children rest) (.cons id data children moved) left
  | filler {id : NodeId} {data : NodeData} {rest moved left : Forest} {run : List NodeId}
      (fills : data.isFiller = true) (others : Gathers run rest moved left) :
      Gathers run (.cons id data .nil rest) moved (.cons id data .nil left)

/-- A node with a given parent if it is in a run. -/
def moveTo (container : NodeId) (run : List NodeId) (node : Node) : Node :=
  if node.id ∈ run then { node with parent := some container } else node

theorem moveTo_of_not_mem {container : NodeId} {run : List NodeId} {node : Node}
    (absent : node.id ∉ run) : moveTo container run node = node :=
  if_neg absent

private theorem map_moveTo {container : NodeId} {run : List NodeId} {forest : Forest}
    (parent : Option NodeId) (apart : ∀ id ∈ forest.ids, id ∉ run) :
    (forest.nodes parent).map (moveTo container run) = forest.nodes parent := by
  have kept : ∀ node ∈ forest.nodes parent, moveTo container run node = node :=
    fun node member => moveTo_of_not_mem
      (apart node.id ((mem_ids_iff_nodes parent).mpr ⟨node, member, rfl⟩))
  rw [List.map_congr_left kept, List.map_id']

namespace Gathers

variable {run : List NodeId} {row moved left : Forest}

theorem run_ne_nil (gathers : Gathers run row moved left) : run ≠ [] := by
  induction gathers with
  | last => nofun
  | member => nofun
  | filler _ _ ih => exact ih

theorem run_subset (gathers : Gathers run row moved left) : run ⊆ row.ids := by
  induction gathers with
  | last => simp
  | member _ ih =>
      intro id member
      rcases List.mem_cons.mp member with rfl | other
      · simp
      · simp [ih other]
  | filler _ _ ih => exact fun id member => by simp [ih member]

theorem run_subset_moved (gathers : Gathers run row moved left) : run ⊆ moved.ids := by
  induction gathers with
  | last => simp
  | member _ ih =>
      intro id member
      rcases List.mem_cons.mp member with rfl | other
      · simp
      · simp [ih other]
  | filler _ _ ih => exact ih

theorem moved_sublist (gathers : Gathers run row moved left) :
    moved.ids.Sublist row.ids := by
  induction gathers with
  | last => simp
  | member _ ih => exact (ih.append_left _).cons_cons _
  | filler _ _ ih => exact ih.cons _

theorem left_sublist (gathers : Gathers run row moved left) :
    left.ids.Sublist row.ids := by
  induction gathers with
  | last => simp
  | member _ ih => exact (ih.trans (List.sublist_append_right _ _)).cons _
  | filler _ _ ih => exact ih.cons_cons _

theorem exists_node (gathers : Gathers run row moved left) (parent : Option NodeId)
    {id : NodeId} (member : id ∈ run) :
    ∃ data, (⟨parent, id, data⟩ : Node) ∈ row.nodes parent := by
  induction gathers with
  | @last id data children rest =>
      rw [List.mem_singleton.mp member]
      exact ⟨data, .head _⟩
  | @member id data children rest moved left run others ih =>
      rcases List.mem_cons.mp member with rfl | other
      · exact ⟨data, .head _⟩
      · obtain ⟨data, known⟩ := ih other
        exact ⟨data, .tail _ (List.mem_append_right _ known)⟩
  | filler _ _ ih =>
      obtain ⟨data, known⟩ := ih member
      exact ⟨data, .tail _ known⟩

theorem nodes_perm (gathers : Gathers run row moved left) (parent : Option NodeId) :
    (moved.nodes parent ++ left.nodes parent).Perm (row.nodes parent) := by
  induction gathers with
  | last => simp [nodes]
  | member _ ih =>
      simp only [nodes, List.cons_append, List.append_assoc]
      exact (ih.append_left _).cons _
  | filler _ _ ih => exact List.perm_middle.trans (ih.cons _)

theorem ids_perm (gathers : Gathers run row moved left) :
    (moved.ids ++ left.ids).Perm row.ids := by
  have perm := (gathers.nodes_perm none).map Node.id
  rwa [List.map_append, map_id_nodes, map_id_nodes, map_id_nodes] at perm

/-- Two nodes of the row keep their order unless the first one is left and the second
one moved. -/
theorem precedes (gathers : Gathers run row moved left) (distinct : row.ids.Nodup)
    {first second : NodeId} (order : Precedes row.ids first second) :
    Precedes (moved.ids ++ left.ids) first second ∨
      (first ∈ left.ids ∧ second ∈ moved.ids) := by
  have isFirst := gathers.ids_perm.mem_iff.mpr order.left_mem
  have isSecond := gathers.ids_perm.mem_iff.mpr order.right_mem
  rw [Precedes.append_iff]
  rcases List.mem_append.mp isFirst with moves | stays
  · rcases List.mem_append.mp isSecond with moves' | stays'
    · exact .inl (.inl (order.of_sublist gathers.moved_sublist distinct moves moves'))
    · exact .inl (.inr (.inl ⟨moves, stays'⟩))
  · rcases List.mem_append.mp isSecond with moves' | stays'
    · exact .inr ⟨stays, moves'⟩
    · exact .inl (.inr (.inr (order.of_sublist gathers.left_sublist distinct stays stays')))

/-- If the members of the run get another parent, all other nodes keep theirs. -/
theorem nodes_moveTo_perm (gathers : Gathers run row moved left) (distinct : row.ids.Nodup)
    (parent : Option NodeId) (container : NodeId) :
    (moved.nodes (some container) ++ left.nodes parent).Perm
      ((row.nodes parent).map (moveTo container run)) := by
  induction gathers with
  | @last id data children rest =>
      simp only [ids_cons, List.nodup_cons, List.mem_append, not_or] at distinct
      obtain ⟨⟨notInside, notAfter⟩, -⟩ := distinct
      have inside : ∀ other ∈ children.ids, other ∉ [id] := fun other member known =>
        notInside (List.mem_singleton.mp known ▸ member)
      have after : ∀ other ∈ rest.ids, other ∉ [id] := fun other member known =>
        notAfter (List.mem_singleton.mp known ▸ member)
      simp [nodes, moveTo, map_moveTo (some id) inside, map_moveTo parent after]
  | @member id data children rest moved left run others ih =>
      simp only [ids_cons, List.nodup_cons, List.nodup_append, List.mem_append,
        not_or] at distinct
      obtain ⟨⟨notInside, notAfter⟩, -, restDistinct, apart⟩ := distinct
      have inside : ∀ other ∈ children.ids, other ∉ id :: run := by
        intro other member known
        rcases List.mem_cons.mp known with rfl | known
        · exact notInside member
        · exact apart other member other (others.run_subset known) rfl
      have same : ∀ node ∈ rest.nodes parent,
          moveTo container (id :: run) node = moveTo container run node := by
        intro node member
        have different : node.id ≠ id := fun equality => notAfter
          (equality ▸ (mem_ids_iff_nodes parent).mpr ⟨node, member, rfl⟩)
        simp [moveTo, different]
      have first : moveTo container (id :: run) ⟨parent, id, data⟩ =
          ⟨some container, id, data⟩ := by simp [moveTo]
      simp only [nodes, List.map_cons, List.map_append, map_moveTo (some id) inside,
        List.map_congr_left same, first, List.cons_append, List.append_assoc]
      exact ((ih restDistinct).append_left _).cons _
  | @filler id data rest moved left run fills others ih =>
      obtain ⟨notAfter, restDistinct⟩ := List.nodup_cons.mp distinct
      have first : moveTo container run ⟨parent, id, data⟩ = ⟨parent, id, data⟩ :=
        moveTo_of_not_mem fun known => notAfter (others.run_subset known)
      simp only [nodes, List.nil_append, List.map_cons, first]
      exact List.perm_middle.trans ((ih restDistinct).cons _)

theorem filter_nodes (gathers : Gathers run row moved left) (parent : Option NodeId) :
    (moved.nodes parent ++ left.nodes parent).filter (!·.data.isFiller) =
      (row.nodes parent).filter (!·.data.isFiller) := by
  induction gathers with
  | last => simp [nodes]
  | member others ih =>
      simp only [nodes, List.cons_append, List.append_assoc, List.filter_cons,
        List.filter_append] at ih ⊢
      rw [ih]
  | filler fills others ih =>
      simp only [nodes, List.nil_append, List.filter_append, List.filter_cons, fills,
        Bool.not_true, Bool.false_eq_true, if_false] at ih ⊢
      exact ih

private theorem exists_tree (gathers : Gathers run row moved left) {node : NodeId}
    (member : node ∈ moved.ids) : ∃ tree ∈ row.trees, tree.id ∈ run ∧ node ∈ tree.ids := by
  induction gathers with
  | @last id data children rest =>
      exact ⟨⟨id, data, children⟩, .head _, .head _, by simpa [Tree.ids] using member⟩
  | @member id data children rest moved left run others ih =>
      rw [ids_cons, ← List.cons_append, List.mem_append] at member
      rcases member with here | later
      · exact ⟨⟨id, data, children⟩, .head _, .head _, here⟩
      · obtain ⟨tree, known, inRun, below⟩ := ih later
        exact ⟨tree, .tail _ known, .tail _ inRun, below⟩
  | filler _ _ ih =>
      obtain ⟨tree, known, inRun, below⟩ := ih member
      exact ⟨tree, .tail _ known, inRun, below⟩

/-- Only a filler is overtaken, and by members of the run that come later in the
row, with what is below them. -/
theorem exists_filler (gathers : Gathers run row moved left) (distinct : row.ids.Nodup)
    {first second : NodeId} (stays : first ∈ left.ids) (moves : second ∈ moved.ids)
    (order : Precedes row.ids first second) (above : List Level) (before : Forest) :
    ∃ place ∈ rowIn above before row, place.id = first ∧ place.data.isFiller = true ∧
      before.trees ⊆ place.before.trees ∧
      ∃ tree ∈ place.after.trees, tree.id ∈ run ∧ second ∈ tree.ids := by
  induction gathers generalizing before with
  | @last id data children rest =>
      have reverse : Precedes ((id :: children.ids) ++ rest.ids) second first :=
        Precedes.append_iff.mpr (.inr (.inl ⟨by simpa using moves, stays⟩))
      exact absurd order (reverse.asymm distinct)
  | @member id data children rest moved left run others ih =>
      change Precedes ((id :: children.ids) ++ rest.ids) first second at order
      change ((id :: children.ids) ++ rest.ids).Nodup at distinct
      have late : first ∈ rest.ids := others.left_sublist.subset stays
      rw [ids_cons, ← List.cons_append, List.mem_append] at moves
      rcases moves with here | moves
      · have reverse : Precedes ((id :: children.ids) ++ rest.ids) second first :=
          Precedes.append_iff.mpr (.inr (.inl ⟨here, late⟩))
        exact absurd order (reverse.asymm distinct)
      · have restDistinct : rest.ids.Nodup := (List.nodup_append.mp distinct).2.1
        obtain ⟨place, known, same, fills, around, tree, following, inRun, below⟩ :=
          ih restDistinct stays moves (order.of_append distinct late)
            (.cons id data children before)
        exact ⟨place, .tail _ known, same, fills, fun tree member => around (.tail _ member),
          tree, following, .tail _ inRun, below⟩
  | @filler id data rest moved left run fills others ih =>
      rcases List.mem_cons.mp stays with rfl | stays
      · obtain ⟨tree, following, inRun, below⟩ := others.exists_tree moves
        exact ⟨_, .head _, rfl, fills, fun _ member => member, tree, following, inRun, below⟩
      · change Precedes ([id] ++ rest.ids) first second at order
        have restDistinct : rest.ids.Nodup := (List.nodup_cons.mp distinct).2
        have late : first ∈ rest.ids := others.left_sublist.subset stays
        obtain ⟨place, known, same, fills', around, tree, following, inRun, below⟩ :=
          ih restDistinct stays moves (order.of_append distinct late)
            (.cons id data .nil before)
        exact ⟨place, .tail _ known, same, fills', fun tree member => around (.tail _ member),
          tree, following, inRun, below⟩

end Gathers

end Wrapping

namespace Html.Document

open Forest

variable {document : Document} {context : Context}

theorem content_append {parent target : NodeId} {tree : Tree}
    (found : document.content.find? target = some tree) :
    (document.append parent target).content =
      appendTo parent (ofTree tree) (document.content.erase target) := by
  unfold append
  split
  · next tree' found' =>
      rw [document.find?_of_content found] at found'
      cases found'
      rfl
  · next absent =>
      rw [document.find?_of_content found] at absent
      cases absent

private theorem content_append_sibling {container target : NodeId} {name : Name}
    {attributes : List Attr} {data : NodeData} {inner before children rest : Forest}
    (stands : document.content = context.fill (.cons container (.element name attributes)
      inner (before ++ .cons target data children rest))) :
    (document.append container target).content =
      context.fill (.cons container (.element name attributes)
        (inner ++ .cons target data children .nil) (before ++ rest)) := by
  have distinct := document.content_distinct
  rw [stands] at distinct
  have containerOutside : container ∉ context.ids :=
    Context.not_mem_ids distinct (by simp)
  have targetOutside : target ∉ context.ids := Context.not_mem_ids distinct (by simp)
  have apart := Context.nodup_of_fill distinct
  simp only [ids_cons, ids_append, List.nodup_cons, List.nodup_append, List.mem_append,
    List.mem_cons, not_or] at apart
  obtain ⟨⟨notInner, notBefore, different, -, notRest⟩, -, ⟨-, ⟨⟨-, afterTarget⟩, -⟩,
    before'⟩, inner'⟩ := apart
  have innerApart : target ∉ inner.ids := fun known =>
    inner' target known target (.inr (.inl rfl)) rfl
  have beforeApart : target ∉ before.ids := fun known =>
    before' target known target (.inl rfl) rfl
  have found : document.content.find? target = some ⟨target, data, children⟩ := by
    rw [stands, Context.find?_fill targetOutside]
    simp [Forest.find?, find?_append, different, find?_eq_none.mpr innerApart,
      find?_eq_none.mpr beforeApart]
  rw [content_append found, stands, Context.erase_fill targetOutside,
    Context.appendTo_fill containerOutside, erase_cons_of_ne different, erase_append,
    erase_cons_self, erase_eq_self innerApart, erase_eq_self beforeApart,
    erase_eq_self afterTarget]
  have rowApart : container ∉ (before ++ rest).ids := by simp [notBefore, notRest]
  simp [appendTo, appendTo_eq_self _ notInner, appendTo_eq_self _ rowApart,
    NodeData.isElement, NodeData.name?, ofTree]

/-- Moving the members of a run into a container one after another gathers them
there. -/
theorem content_foldl_append {container : NodeId} {name : Name} {attributes : List Attr}
    {run : List NodeId} {row moved left : Forest}
    (gathers : Wrapping.Gathers run row moved left) {inner before : Forest}
    (stands : document.content = context.fill
      (.cons container (.element name attributes) inner (before ++ row))) :
    (run.foldl (·.append container ·) document).content = context.fill
      (.cons container (.element name attributes) (inner ++ moved) (before ++ left)) := by
  induction gathers generalizing document inner before with
  | last => exact content_append_sibling stands
  | member others ih =>
      rw [List.foldl_cons, ih (content_append_sibling stands)]
      simp only [append_assoc, cons_append, nil_append]
  | filler fills others ih =>
      have stands := stands.trans
        (congrArg (fun row => context.fill (.cons _ _ inner row))
          (append_assoc before (.cons _ _ .nil .nil) _).symm)
      rw [ih stands, append_assoc, cons_append, nil_append]

theorem content_insertBefore {mark target : NodeId} {tree : Tree}
    (found : document.find? target = some tree) :
    (document.insertBefore mark target).content =
      Forest.insertBefore mark (ofTree tree) (document.content.erase target) := by
  unfold insertBefore
  split
  · next tree' found' =>
      rw [found] at found'
      cases found'
      rfl
  · next absent =>
      rw [found] at absent
      cases absent

theorem next_not_mem (document : Document) :
    document.next ∉ (join document.rows).ids := fun member =>
  Nat.lt_irrefl _ (document.sound.below _ member)

theorem find?_addDisclosure (document : Document) (label : String) :
    (document.addDisclosure label).2.find? document.next = some
      ⟨document.next, Wrapping.disclosureData, Wrapping.summary document.next label⟩ := by
  have fresh := find?_eq_none.mpr document.next_not_mem
  rw [rows, join_cons] at fresh
  rw [find?_eq_join, addDisclosure, rows, join_cons, join_append, ← append_assoc,
    find?_append, fresh]
  simp [Forest.find?, Wrapping.disclosure]

/-- Folding away a run puts a disclosure in the place of its first member, and
gathers the run in it. -/
theorem content_wrapGroup (label : String) {first : NodeId} {others : List NodeId}
    {data : NodeData} {children rest moved left : Forest}
    (stands : document.content = context.fill (.cons first data children rest))
    (gathers : Wrapping.Gathers (first :: others) (.cons first data children rest)
      moved left) :
    (document.wrapGroup label (first :: others)).content = context.fill
      (.cons document.next Wrapping.disclosureData
        (Wrapping.summary document.next label ++ moved) left) := by
  have distinct := document.content_distinct
  have outside : first ∉ context.ids :=
    Context.not_mem_ids (stands ▸ distinct) (by simp)
  have fresh : document.next ∉ document.content.ids := fun member =>
    document.next_not_mem (by simp [rows, member])
  have apart := Context.nodup_of_fill (stands ▸ distinct)
  simp only [ids_cons, List.nodup_cons, List.mem_append, not_or] at apart
  have inserted : ((document.addDisclosure label).2.insertBefore first
      document.next).content = context.fill (.cons document.next Wrapping.disclosureData
        (Wrapping.summary document.next label)
        (.nil ++ .cons first data children rest)) := by
    rw [content_insertBefore (document.find?_addDisclosure label)]
    change Forest.insertBefore first _ (document.content.erase document.next) = _
    rw [erase_eq_self fresh, stands, Context.insertBefore_fill outside]
    simp [Forest.insertBefore, insertBefore_eq_self _ apart.1.1,
      insertBefore_eq_self _ apart.1.2, ofTree]
  exact content_foldl_append gathers inserted

theorem next_append (document : Document) (parent target : NodeId) :
    (document.append parent target).next = document.next := by
  unfold append
  split <;> rfl

theorem next_insertBefore (document : Document) (mark target : NodeId) :
    (document.insertBefore mark target).next = document.next := by
  unfold insertBefore
  split <;> rfl

theorem next_wrapGroup (document : Document) (label : String) (first : NodeId)
    (others : List NodeId) :
    (document.wrapGroup label (first :: others)).next = document.next + 3 := by
  have kept (run : List NodeId) (moving : Document) (container : NodeId) :
      (run.foldl (·.append container ·) moving).next = moving.next := by
    induction run generalizing moving with
    | nil => rfl
    | cons member run ih => rw [List.foldl_cons, ih, next_append]
  exact (kept _ _ _).trans (next_insertBefore _ _ _)

end Html.Document

end MailQuote
