import Mathlib.Data.List.Nodup
import MailQuote.Html.Document

namespace MailQuote.Html

namespace Forest

/-- The nodes above a node, the outermost first. -/
def ancestors (target : NodeId) : Forest → List NodeId
  | .nil => []
  | .cons id _ children rest =>
      if id = target then []
      else if target ∈ children.ids then id :: children.ancestors target
      else rest.ancestors target

theorem ancestors_of_not_mem {target : NodeId} {forest : Forest}
    (absent : target ∉ forest.ids) : forest.ancestors target = [] := by
  induction forest with
  | nil => rfl
  | cons id data children rest _ ihRest =>
      simp only [ids_cons, List.mem_cons, List.mem_append, not_or] at absent
      rw [ancestors, if_neg (Ne.symm absent.1), if_neg absent.2.1, ihRest absent.2.2]

theorem ancestors_cons_of_not_mem {id target : NodeId} {children : Forest}
    (absent : target ∉ id :: children.ids) (data : NodeData) (rest : Forest) :
    (cons id data children rest).ancestors target = rest.ancestors target := by
  rw [List.mem_cons, not_or] at absent
  rw [ancestors, if_neg (Ne.symm absent.1), if_neg absent.2]

section Distinct

variable {id target : NodeId} {data : NodeData} {children rest : Forest}

theorem ancestors_cons_of_mem_children (distinct : (cons id data children rest).ids.Nodup)
    (member : target ∈ children.ids) :
    (cons id data children rest).ancestors target = id :: children.ancestors target := by
  have different : id ≠ target := by
    rintro rfl
    exact (List.nodup_cons.mp distinct).1 (List.mem_append_left _ member)
  rw [ancestors, if_neg different, if_pos member]

theorem ancestors_cons_of_mem_rest (distinct : (cons id data children rest).ids.Nodup)
    (member : target ∈ rest.ids) :
    (cons id data children rest).ancestors target = rest.ancestors target := by
  rw [ids_cons, ← List.cons_append] at distinct
  apply ancestors_cons_of_not_mem
  intro other
  exact (List.nodup_append.mp distinct).2.2 target other target member rfl

end Distinct

theorem ancestors_cons_congr {id target : NodeId} {data : NodeData} {children : Forest}
    (member : target ∈ id :: children.ids) (first second : Forest) :
    (cons id data children first).ancestors target =
      (cons id data children second).ancestors target := by
  rw [ancestors, ancestors]
  split
  · rfl
  · next different =>
      have below := (List.mem_cons.mp member).resolve_left (Ne.symm different)
      rw [if_pos below, if_pos below]

theorem ancestors_sublist_ids (target : NodeId) (forest : Forest) :
    (forest.ancestors target).Sublist forest.ids := by
  induction forest with
  | nil => exact .slnil
  | cons id data children rest ihChildren ihRest =>
      simp only [ancestors]
      split
      · exact List.nil_sublist _
      · split
        · exact (ihChildren.trans (List.sublist_append_left _ _)).cons_cons id
        · exact (ihRest.trans (List.sublist_append_right _ _)).cons id

/-- What is above a node above another one is above that, too. -/
theorem ancestors_isPrefix {upper lower : NodeId} {forest : Forest}
    (distinct : forest.ids.Nodup) (member : upper ∈ forest.ancestors lower) :
    forest.ancestors upper ++ [upper] <+: forest.ancestors lower := by
  induction forest with
  | nil => simp [ancestors] at member
  | cons id data children rest ihChildren ihRest =>
      simp only [ids_cons, List.nodup_cons, List.nodup_append, List.mem_append,
        not_or] at distinct
      obtain ⟨⟨notInside, notAfter⟩, inside, after, apart⟩ := distinct
      simp only [ancestors] at member ⊢
      by_cases here : id = lower
      · simp [here] at member
      · by_cases below : lower ∈ children.ids
        · simp only [here, below, if_true, if_false, List.mem_cons] at member ⊢
          rcases member with rfl | deeper
          · simp
          · have known := (ancestors_sublist_ids lower children).subset deeper
            have different : id ≠ upper := fun equality => notInside (equality ▸ known)
            simpa [different, known] using ihChildren inside deeper
        · simp only [here, below, if_false] at member ⊢
          have known := (ancestors_sublist_ids lower rest).subset member
          have different : id ≠ upper := fun equality => notAfter (equality ▸ known)
          have notBelow : upper ∉ children.ids := fun other => apart _ other _ known rfl
          simpa [different, notBelow] using ihRest after member

theorem find?_cons_eq_some {id target : NodeId} {data : NodeData} {children rest : Forest}
    (distinct : (cons id data children rest).ids.Nodup) {tree : Tree} :
    (cons id data children rest).find? target = some tree ↔
      (id = target ∧ tree = ⟨id, data, children⟩) ∨
        children.find? target = some tree ∨ rest.find? target = some tree := by
  simp only [ids_cons, List.nodup_cons, List.nodup_append, List.mem_append, not_or] at distinct
  obtain ⟨⟨notInside, notAfter⟩, -, -, apart⟩ := distinct
  rw [find?]
  split
  · next here =>
      subst here
      simp [find?_eq_none.mpr notInside, find?_eq_none.mpr notAfter, eq_comm]
  · next elsewhere =>
      cases inside : children.find? target with
      | none => simp [elsewhere]
      | some found =>
          have notRest : target ∉ rest.ids := fun member =>
            apart target (mem_of_find? inside) target member rfl
          simp [elsewhere, find?_eq_none.mpr notRest]

private theorem mem_ancestors_cons {id upper lower : NodeId} {data : NodeData}
    {children rest : Forest} (distinct : (cons id data children rest).ids.Nodup) :
    upper ∈ (cons id data children rest).ancestors lower ↔
      (id = upper ∧ lower ∈ children.ids) ∨
        upper ∈ children.ancestors lower ∨ upper ∈ rest.ancestors lower := by
  simp only [ids_cons, List.nodup_cons, List.nodup_append, List.mem_append, not_or] at distinct
  obtain ⟨⟨notInside, notAfter⟩, -, -, apart⟩ := distinct
  rw [ancestors]
  split
  · next here =>
      subst here
      simp [notInside, ancestors_of_not_mem notInside, ancestors_of_not_mem notAfter]
  · split
    · next below =>
        have notRest : lower ∉ rest.ids := fun member => apart lower below lower member rfl
        simp [below, ancestors_of_not_mem notRest, eq_comm]
    · next notBelow => simp [notBelow, ancestors_of_not_mem notBelow]

/-- A node is above another one if that is among its descendants. -/
theorem mem_ancestors {upper lower : NodeId} {forest : Forest}
    (distinct : forest.ids.Nodup) :
    upper ∈ forest.ancestors lower ↔
      ∃ tree, forest.find? upper = some tree ∧ lower ∈ tree.children.ids := by
  induction forest with
  | nil => simp [ancestors, find?]
  | cons id data children rest ihChildren ihRest =>
      have parts := List.nodup_append.mp (List.nodup_cons.mp distinct).2
      rw [mem_ancestors_cons distinct, ihChildren parts.1, ihRest parts.2.1]
      simp only [find?_cons_eq_some distinct, or_and_right, exists_or]
      refine or_congr_left ?_
      constructor
      · rintro ⟨here, below⟩
        exact ⟨⟨id, data, children⟩, ⟨here, rfl⟩, below⟩
      · rintro ⟨tree, ⟨here, rfl⟩, below⟩
        exact ⟨here, below⟩

theorem not_mem_ancestors_self {target : NodeId} {forest : Forest}
    (distinct : forest.ids.Nodup) : target ∉ forest.ancestors target := by
  intro member
  have shorter := (ancestors_isPrefix distinct member).length_le
  rw [List.length_append, List.length_singleton] at shorter
  exact Nat.not_succ_le_self _ shorter

end Forest

namespace Document

variable (document : Document)

theorem content_sound : document.content.Sound document.next :=
  document.sound.left

theorem content_distinct : document.content.ids.Nodup :=
  document.content_sound.distinct

theorem find?_of_content {target : NodeId} {tree : Tree}
    (found : document.content.find? target = some tree) :
    document.find? target = some tree := by
  rw [find?, rows, List.findSome?_cons, found]

end Document

def Precedes (nodes : List NodeId) (first second : NodeId) : Prop :=
  [first, second].Sublist nodes

namespace Precedes

variable {nodes others : List NodeId} {first second : NodeId}

theorem cons_iff {head : NodeId} :
    Precedes (head :: nodes) first second ↔
      (first = head ∧ second ∈ nodes) ∨ Precedes nodes first second := by
  unfold Precedes
  constructor
  · intro sublist
    cases sublist with
    | cons _ tail => exact .inr tail
    | cons_cons _ tail => exact .inl ⟨rfl, List.singleton_sublist.mp tail⟩
  · rintro (⟨rfl, member⟩ | tail)
    · exact (List.singleton_sublist.mpr member).cons_cons _
    · exact tail.cons _

theorem append_iff :
    Precedes (nodes ++ others) first second ↔
      Precedes nodes first second ∨ (first ∈ nodes ∧ second ∈ others) ∨
        Precedes others first second := by
  induction nodes with
  | nil => simp [Precedes]
  | cons head tail ih =>
      rw [List.cons_append, cons_iff, ih, cons_iff, List.mem_append, List.mem_cons]
      constructor
      · rintro (⟨rfl, inTail | inOthers⟩ | before | ⟨inTail, inOthers⟩ | after)
        · exact .inl (.inl ⟨rfl, inTail⟩)
        · exact .inr (.inl ⟨.inl rfl, inOthers⟩)
        · exact .inl (.inr before)
        · exact .inr (.inl ⟨.inr inTail, inOthers⟩)
        · exact .inr (.inr after)
      · rintro ((⟨rfl, inTail⟩ | before) | ⟨rfl | inTail, inOthers⟩ | after)
        · exact .inl ⟨rfl, .inl inTail⟩
        · exact .inr (.inl before)
        · exact .inl ⟨rfl, .inr inOthers⟩
        · exact .inr (.inr (.inl ⟨inTail, inOthers⟩))
        · exact .inr (.inr (.inr after))

theorem left_mem (before : Precedes nodes first second) : first ∈ nodes :=
  before.subset (by simp)

theorem right_mem (before : Precedes nodes first second) : second ∈ nodes :=
  before.subset (by simp)

theorem mono (before : Precedes nodes first second) (part : nodes.Sublist others) :
    Precedes others first second :=
  before.trans part

theorem ne (before : Precedes nodes first second) (distinct : nodes.Nodup) :
    first ≠ second := by
  have pair := before.nodup distinct
  simpa using pair

/-- Nodes of a part have the order there that they have in the whole. -/
theorem of_sublist (before : Precedes others first second) (part : nodes.Sublist others)
    (distinct : others.Nodup) (mem : first ∈ nodes) (mem' : second ∈ nodes) :
    Precedes nodes first second := by
  induction part with
  | slnil => cases mem
  | cons head tail ih =>
      obtain ⟨fresh, distinct⟩ := List.nodup_cons.mp distinct
      rcases cons_iff.mp before with ⟨rfl, _⟩ | before
      · exact absurd (tail.subset mem) fresh
      · exact ih before distinct mem mem'
  | cons_cons head tail ih =>
      obtain ⟨fresh, distinct⟩ := List.nodup_cons.mp distinct
      rcases List.mem_cons.mp mem with rfl | inTail
      · have different : second ≠ first := fun equality => by
          subst equality
          rcases cons_iff.mp before with ⟨_, again⟩ | before
          · exact fresh again
          · exact fresh before.left_mem
        exact cons_iff.mpr (.inl ⟨rfl, (List.mem_cons.mp mem').resolve_left different⟩)
      · rcases cons_iff.mp before with ⟨rfl, _⟩ | before
        · exact absurd (tail.subset inTail) fresh
        · have later := (List.mem_cons.mp mem').resolve_left fun equality =>
            fresh (equality ▸ before.right_mem)
          exact cons_iff.mpr (.inr (ih before distinct inTail later))

/-- What comes after a node of the second part is in that part, too. -/
theorem of_append (before : Precedes (nodes ++ others) first second)
    (distinct : (nodes ++ others).Nodup) (late : first ∈ others) :
    Precedes others first second := by
  have early (member : first ∈ nodes) : False :=
    (List.nodup_append.mp distinct).2.2 first member first late rfl
  rcases append_iff.mp before with both | ⟨member, _⟩ | both
  · exact (early both.left_mem).elim
  · exact (early member).elim
  · exact both

/-- Two nodes keep their order when others are exchanged between them and around
them, unless both are among those. -/
theorem exchange {earlier later : List NodeId}
    (before : Precedes (earlier ++ nodes ++ later) first second) (part : nodes ⊆ others) :
    Precedes (earlier ++ others ++ later) first second ∨ Precedes nodes first second := by
  simp only [append_iff, List.mem_append] at before ⊢
  rcases before with (inEarlier | ⟨isFirst, isSecond⟩ | inNodes) | ⟨isFirst, isSecond⟩ | inLater
  · exact .inl (.inl (.inl inEarlier))
  · exact .inl (.inl (.inr (.inl ⟨isFirst, part isSecond⟩)))
  · exact .inr inNodes
  · exact .inl (.inr (.inl ⟨isFirst.imp_right fun member => part member, isSecond⟩))
  · exact .inl (.inr (.inr inLater))

theorem asymm (before : Precedes nodes first second) (distinct : nodes.Nodup) :
    ¬ Precedes nodes second first := by
  induction nodes with
  | nil => cases before
  | cons head tail ih =>
      obtain ⟨fresh, distinct⟩ := List.nodup_cons.mp distinct
      rw [cons_iff] at before ⊢
      rintro (⟨rfl, inTail⟩ | after)
      · rcases before with ⟨rfl, again⟩ | before
        · exact fresh again
        · exact fresh before.right_mem
      · rcases before with ⟨rfl, _⟩ | before
        · exact fresh after.right_mem
        · exact ih before distinct after

theorem pairwise_of_sublist (part : nodes.Sublist others) :
    nodes.Pairwise (Precedes others) :=
  List.pairwise_of_forall_sublist fun pair => pair.trans part

/-- Two parts of a list have the same order, so they are the same if they have the same
entries. -/
theorem eq_of_sublist {parts : List NodeId} (distinct : others.Nodup)
    (part : nodes.Sublist others) (part' : parts.Sublist others)
    (same : ∀ node, node ∈ nodes ↔ node ∈ parts) : nodes = parts := by
  have perm : nodes.Perm parts :=
    (List.perm_ext_iff_of_nodup (part.nodup distinct) (part'.nodup distinct)).mpr same
  refine perm.eq_of_pairwise ?_ (pairwise_of_sublist part) (pairwise_of_sublist part')
  intro first second _ _ before after
  exact absurd after (before.asymm distinct)

/-- What comes between two entries of a stretch of a list is in that stretch. -/
theorem mem_of_isInfix {node : NodeId} (distinct : others.Nodup)
    (part : first :: nodes <:+: others) (member : second ∈ nodes)
    (after : Precedes others first node) (before : Precedes others node second) :
    node ∈ nodes := by
  obtain ⟨earlier, later, rfl⟩ := part
  rw [List.append_assoc] at distinct after before
  have distinct' := (List.nodup_append.mp distinct).2.1
  have onward := after.of_append distinct (.head _)
  rw [List.cons_append, cons_iff] at onward
  have inside : node ∈ nodes ++ later := onward.elim And.right right_mem
  have onward' := before.of_append distinct (.tail _ inside)
  refine (List.mem_append.mp inside).resolve_right fun late => ?_
  exact (append_iff.mpr (.inr (.inl ⟨.tail _ member, late⟩))).asymm distinct' onward'

/-- Two entries between which there is no other are next to each other. -/
theorem isInfix_of_adjacent (order : Precedes nodes first second)
    (apart : ∀ node ∈ nodes, Precedes nodes first node → ¬ Precedes nodes node second) :
    [first, second] <:+: nodes := by
  induction nodes with
  | nil => cases order
  | cons head tail ih =>
      by_cases later : Precedes tail first second
      · have inTail := ih later fun node member after before =>
          apart node (.tail _ member) (after.mono (List.sublist_cons_self _ _))
            (before.mono (List.sublist_cons_self _ _))
        exact inTail.trans (List.suffix_cons _ _).isInfix
      · obtain ⟨rfl, member⟩ := (cons_iff.mp order).resolve_right later
        cases tail with
        | nil => cases member
        | cons next others =>
            rcases List.mem_cons.mp member with rfl | beyond
            · exact ⟨[], others, rfl⟩
            · have after : Precedes (first :: next :: others) first next :=
                cons_iff.mpr (.inl ⟨rfl, .head _⟩)
              have before : Precedes (first :: next :: others) next second :=
                cons_iff.mpr (.inr (cons_iff.mpr (.inl ⟨rfl, beyond⟩)))
              exact absurd before (apart next (.tail _ (.head _)) after)

end Precedes

/-- A node as it stands in a forest. -/
structure Node where
  parent : Option NodeId
  id : NodeId
  data : NodeData
deriving DecidableEq

namespace Forest

/-- The nodes of a row of siblings with a given parent, in document order. -/
def nodes (parent : Option NodeId) : Forest → List Node
  | .nil => []
  | .cons id data children rest =>
      ⟨parent, id, data⟩ :: (children.nodes (some id) ++ rest.nodes parent)

@[simp] theorem nodes_append (parent : Option NodeId) (first second : Forest) :
    (first ++ second).nodes parent = first.nodes parent ++ second.nodes parent := by
  induction first with
  | nil => rfl
  | cons id data children rest _ ih => simp [nodes, ih]

@[simp] theorem map_id_nodes (parent : Option NodeId) (forest : Forest) :
    (forest.nodes parent).map Node.id = forest.ids := by
  induction forest generalizing parent with
  | nil => rfl
  | cons id data children rest ihChildren ihRest =>
      simp [nodes, ihChildren, ihRest]

theorem mem_ids_iff_nodes {target : NodeId} (parent : Option NodeId) {forest : Forest} :
    target ∈ forest.ids ↔ ∃ node ∈ forest.nodes parent, node.id = target := by
  rw [← map_id_nodes parent, List.mem_map]

theorem nodes_unique {parent : Option NodeId} {forest : Forest}
    (distinct : forest.ids.Nodup) {first second : Node}
    (mem : first ∈ forest.nodes parent) (mem' : second ∈ forest.nodes parent)
    (same : first.id = second.id) : first = second := by
  rw [← map_id_nodes parent] at distinct
  exact List.inj_on_of_nodup_map distinct mem mem' same

private theorem elementIds_eq_nodes (parent : Option NodeId) (forest : Forest) :
    forest.elementIds =
      ((forest.nodes parent).filter fun node => node.data.isElement).map Node.id := by
  induction forest generalizing parent with
  | nil => rfl
  | cons id data children rest ihChildren ihRest =>
      simp only [elementIds, nodes, List.filter_cons, List.filter_append,
        ihChildren (some id), ihRest parent]
      split <;> simp

theorem mem_elementIds {target : NodeId} (parent : Option NodeId) {forest : Forest} :
    target ∈ forest.elementIds ↔
      ∃ node ∈ forest.nodes parent, node.data.isElement = true ∧ node.id = target := by
  simp [elementIds_eq_nodes parent, and_assoc]

theorem elementIds_sublist_ids (forest : Forest) : forest.elementIds.Sublist forest.ids := by
  rw [elementIds_eq_nodes none, ← map_id_nodes none forest]
  exact List.filter_sublist.map _

theorem nodes_without_sublist (drop : NodeId → Bool) (parent : Option NodeId)
    (forest : Forest) :
    ((forest.without drop).nodes parent).Sublist (forest.nodes parent) := by
  induction forest generalizing parent with
  | nil => exact .slnil
  | cons id data children rest ihChildren ihRest =>
      simp only [without]
      split
      · exact ((ihRest parent).trans (List.sublist_append_right _ _)).cons _
      · exact ((ihChildren (some id)).append (ihRest parent)).cons_cons _

/-- A node stays if neither it nor a node above it is taken out. -/
theorem mem_ids_without {drop : NodeId → Bool} {target : NodeId} {forest : Forest}
    (distinct : forest.ids.Nodup) :
    target ∈ (forest.without drop).ids ↔
      target ∈ forest.ids ∧ drop target = false ∧
        ∀ upper ∈ forest.ancestors target, drop upper = false := by
  induction forest with
  | nil => simp [without]
  | cons id data children rest ihChildren ihRest =>
      simp only [ids_cons, List.nodup_cons, List.nodup_append, List.mem_append,
        not_or] at distinct
      obtain ⟨⟨notInside, notAfter⟩, inside, after, apart⟩ := distinct
      have ihChildren := ihChildren inside
      have ihRest := ihRest after
      by_cases here : id = target
      · subst here
        have none : id ∉ (rest.without drop).ids := fun member =>
          notAfter ((ids_without_sublist _ _).subset member)
        simp only [without, ancestors, if_true]
        split
        · next dropped => simp [dropped, none]
        · next kept => simp [Bool.eq_false_iff.mpr kept]
      · by_cases below : target ∈ children.ids
        · have notAfter' : target ∉ rest.ids := fun other => apart _ below _ other rfl
          have none : target ∉ (rest.without drop).ids := fun member =>
            notAfter' ((ids_without_sublist _ _).subset member)
          simp only [without, ancestors, here, below, if_true, if_false]
          split
          · next dropped => simp [dropped, none]
          · next kept =>
              simp [Bool.eq_false_iff.mpr kept, Ne.symm here, none, ihChildren, below]
        · have none : target ∉ (children.without drop).ids := fun member =>
            below ((ids_without_sublist _ _).subset member)
          simp only [without, ancestors, here, below, if_false]
          split <;> simp [Ne.symm here, none, ihRest, below]

theorem mem_nodes_without {drop : NodeId → Bool} {parent : Option NodeId} {node : Node}
    {forest : Forest} (distinct : forest.ids.Nodup) :
    node ∈ (forest.without drop).nodes parent ↔
      node ∈ forest.nodes parent ∧ drop node.id = false ∧
        ∀ upper ∈ forest.ancestors node.id, drop upper = false := by
  have part := nodes_without_sublist drop parent forest
  constructor
  · intro member
    have known := (mem_ids_iff_nodes parent).mpr ⟨node, member, rfl⟩
    exact ⟨part.subset member, ((mem_ids_without distinct).mp known).2⟩
  · intro ⟨member, stays⟩
    have known := (mem_ids_iff_nodes parent).mpr ⟨node, member, rfl⟩
    obtain ⟨other, member', same⟩ := (mem_ids_iff_nodes parent).mp
      ((mem_ids_without distinct).mpr ⟨known, stays⟩)
    exact nodes_unique distinct (part.subset member') member same ▸ member'

theorem parent_mem_ancestors {outer : Option NodeId} {forest : Forest} {node : Node}
    {parent : NodeId} (distinct : forest.ids.Nodup) (member : node ∈ forest.nodes outer)
    (isParent : node.parent = some parent) :
    outer = some parent ∨ parent ∈ forest.ancestors node.id := by
  induction forest generalizing outer with
  | nil => simp [nodes] at member
  | cons id data children rest ihChildren ihRest =>
      have parts := List.nodup_append.mp (List.nodup_cons.mp distinct).2
      simp only [nodes, List.mem_cons, List.mem_append] at member
      rcases member with rfl | below | later
      · exact .inl isParent
      · have known := (mem_ids_iff_nodes _).mpr ⟨node, below, rfl⟩
        right
        rw [ancestors_cons_of_mem_children distinct known, List.mem_cons]
        exact (ihChildren parts.1 below).imp (fun same => (Option.some.inj same).symm)
          fun above => above
      · have known := (mem_ids_iff_nodes _).mpr ⟨node, later, rfl⟩
        rw [ancestors_cons_of_mem_rest distinct known]
        exact ihRest parts.2.1 later

theorem without_without (first second : NodeId → Bool) (forest : Forest) :
    (forest.without first).without second =
      forest.without fun id => first id || second id := by
  induction forest with
  | nil => rfl
  | cons id data children rest ihChildren ihRest =>
      cases dropped : first id <;> simp [without, dropped, ihChildren, ihRest]

theorem without_congr {first second : NodeId → Bool} {forest : Forest}
    (same : ∀ id ∈ forest.ids, first id = second id) :
    forest.without first = forest.without second := by
  induction forest with
  | nil => rfl
  | cons id data children rest ihChildren ihRest =>
      simp only [ids_cons, List.forall_mem_cons, List.forall_mem_append] at same
      simp only [without, same.1, ihChildren same.2.1, ihRest same.2.2]

/-- The descendants of a node stand together, directly after it. -/
theorem ids_split_of_find? {target : NodeId} {forest : Forest} {tree : Tree}
    (found : forest.find? target = some tree) :
    ∃ before after, forest.ids = before ++ (target :: tree.children.ids) ++ after := by
  induction forest with
  | nil => simp [find?] at found
  | cons id data children rest ihChildren ihRest =>
      simp only [find?] at found
      split at found
      · next here =>
          cases found
          exact ⟨[], rest.ids, by simp [here]⟩
      · split at found
        · next inside =>
            cases found
            obtain ⟨before, after, equality⟩ := ihChildren inside
            exact ⟨id :: before, after ++ rest.ids, by simp [equality]⟩
        · obtain ⟨before, after, equality⟩ := ihRest found
          exact ⟨id :: (children.ids ++ before), after, by simp [equality]⟩

theorem ids_children_sublist {target : NodeId} {forest : Forest} {tree : Tree}
    (found : forest.find? target = some tree) : tree.children.ids.Sublist forest.ids := by
  obtain ⟨before, after, whole⟩ := ids_split_of_find? found
  rw [whole, List.append_assoc]
  exact ((List.sublist_cons_self _ _).trans (List.sublist_append_left _ _)).trans
    (List.sublist_append_right _ _)

theorem nodes_of_find? {target : NodeId} {forest : Forest} {tree : Tree}
    (found : forest.find? target = some tree) (parent : Option NodeId) :
    (∃ upper, (⟨upper, target, tree.data⟩ : Node) ∈ forest.nodes parent) ∧
      tree.children.nodes (some target) ⊆ forest.nodes parent := by
  induction forest generalizing parent with
  | nil => simp [find?] at found
  | cons id data children rest ihChildren ihRest =>
      simp only [find?] at found
      split at found
      · next here =>
          subst here
          cases found
          exact ⟨⟨parent, .head _⟩, fun node member => .tail _ (List.mem_append_left _ member)⟩
      · split at found
        · next inside =>
            cases found
            obtain ⟨⟨upper, self⟩, children⟩ := ihChildren inside (some id)
            exact ⟨⟨upper, .tail _ (List.mem_append_left _ self)⟩,
              fun node member => .tail _ (List.mem_append_left _ (children member))⟩
        · obtain ⟨⟨upper, self⟩, children⟩ := ihRest found parent
          exact ⟨⟨upper, .tail _ (List.mem_append_right _ self)⟩,
            fun node member => .tail _ (List.mem_append_right _ (children member))⟩

/-- The elements below a node are those of the forest that are below it. -/
theorem mem_elementIds_of_find? {upper lower : NodeId} {forest : Forest} {tree : Tree}
    (distinct : forest.ids.Nodup) (found : forest.find? upper = some tree) :
    lower ∈ tree.children.elementIds ↔
      lower ∈ tree.children.ids ∧ lower ∈ forest.elementIds := by
  have children := (nodes_of_find? found none).2
  rw [mem_elementIds (some upper), mem_elementIds none, mem_ids_iff_nodes (some upper)]
  constructor
  · intro ⟨node, below, element, same⟩
    exact ⟨⟨node, below, same⟩, node, children below, element, same⟩
  · intro ⟨⟨node, below, same⟩, other, known, element, same'⟩
    have equality := nodes_unique distinct (children below) known (same.trans same'.symm)
    exact ⟨node, below, equality ▸ element, same⟩

theorem find?_without {drop : NodeId → Bool} {target : NodeId} {forest : Forest}
    {tree : Tree} (distinct : forest.ids.Nodup) (found : forest.find? target = some tree)
    (stays : target ∈ (forest.without drop).ids) :
    (forest.without drop).find? target =
      some ⟨tree.id, tree.data, tree.children.without drop⟩ := by
  induction forest with
  | nil => cases found
  | cons id data children rest ihChildren ihRest =>
      have distinct' := (ids_without_sublist drop _).nodup distinct
      have found := (find?_cons_eq_some distinct).mp found
      simp only [ids_cons, List.nodup_cons, List.nodup_append, List.mem_append,
        not_or] at distinct
      obtain ⟨⟨notInside, notAfter⟩, insideDistinct, afterDistinct, apart⟩ := distinct
      have insideKept := (ids_without_sublist drop children).subset
      have afterKept := (ids_without_sublist drop rest).subset
      simp only [without] at stays distinct' ⊢
      split at stays
      · next dropped =>
          rw [if_pos dropped]
          rcases found with ⟨rfl, rfl⟩ | inside | after
          · exact absurd (afterKept stays) notAfter
          · exact absurd rfl (apart target (mem_of_find? inside) target (afterKept stays))
          · exact ihRest afterDistinct after stays
      · next kept =>
          rw [if_neg kept] at distinct' ⊢
          rw [find?_cons_eq_some distinct']
          rw [ids_cons, List.mem_cons, List.mem_append] at stays
          rcases found with ⟨rfl, rfl⟩ | inside | after
          · exact .inl ⟨rfl, rfl⟩
          · have member := mem_of_find? inside
            have different : target ≠ id := fun here => notInside (here ▸ member)
            have notRest : target ∉ (rest.without drop).ids := fun other =>
              apart target member target (afterKept other) rfl
            have stays := (stays.resolve_left different).resolve_right notRest
            exact .inr (.inl (ihChildren insideDistinct inside stays))
          · have member := mem_of_find? after
            have different : target ≠ id := fun here => notAfter (here ▸ member)
            have notInside : target ∉ (children.without drop).ids := fun other =>
              apart target (insideKept other) target member rfl
            have stays := (stays.resolve_left different).resolve_left notInside
            exact .inr (.inr (ihRest afterDistinct after stays))

end Forest

end MailQuote.Html
