import Mathlib.Data.List.SplitBy
import MailQuote.Proofs.Forest.Body
import MailQuote.Proofs.Wrapping.Parting

namespace MailQuote

open Html

namespace Wrapping

open Forest

theorem exists_tree_of_reaches {set : NodeSet} {target : NodeId} {row : Forest}
    (reached : reaches set target row = true) : ∃ tree ∈ row.trees, tree.id = target := by
  induction row with
  | nil => simp [reaches] at reached
  | cons id data children rest _ ihRest =>
      simp only [reaches] at reached
      split at reached
      · next here => exact ⟨_, .head _, here⟩
      · split at reached
        · obtain ⟨tree, member, same⟩ := ihRest reached
          exact ⟨tree, .tail _ member, same⟩
        · cases reached

theorem mem_of_reaches {set : NodeSet} {target : NodeId} {row : Forest}
    (reached : reaches set target row = true) : target ∈ row.ids := by
  obtain ⟨tree, member, rfl⟩ := exists_tree_of_reaches reached
  exact id_mem_of_mem_trees member

/-- Which siblings are members is all that counts. -/
theorem reaches_congr {first second : NodeSet} {row : Forest}
    (same : ∀ tree ∈ row.trees, first.contains tree.id = second.contains tree.id)
    (target : NodeId) : reaches first target row = reaches second target row := by
  induction row with
  | nil => rfl
  | cons id data children rest _ ihRest =>
      obtain ⟨here, others⟩ := List.forall_mem_cons.mp same
      have bridge : bridges first id data = bridges second id data := by
        rw [bridges, bridges, here]
      rw [reaches, reaches, bridge, ihRest others]

/-- A run that can be gathered from its first member on can be gathered from an
earlier quote on, if that is the last one before it. -/
theorem gathers_of_reaches {document : Document} {set : NodeSet}
    {previous next : NodeId} {row before : Forest} {above : List Level}
    (places : rowIn above before row ⊆ document.places) (nested : row.WellNested)
    (order : (previous :: row.ids).Sublist document.content.ids)
    (alone : ∀ node ∈ set.members, Precedes document.content.ids previous node →
      ¬ Precedes document.content.ids node next)
    (reached : reaches set next row = true) :
    ∃ place ∈ document.places, place.id = next ∧
      ∀ run moved left, Gathers run place.onward moved left →
        ∃ left, Gathers run row moved left := by
  induction row generalizing before with
  | nil => simp [reaches] at reached
  | cons id data children rest _ ihRest =>
      obtain ⟨holder, -, nested⟩ := nested
      simp only [reaches] at reached
      split at reached
      · next here =>
          exact ⟨_, places (.head _), here, fun run moved left gathers => ⟨left, gathers⟩⟩
      · split at reached
        · next bridge =>
            have later := mem_of_reaches reached
            have isFirst : Precedes document.content.ids previous id := by
              refine Precedes.mono ?_ order
              exact Precedes.cons_iff.mpr (.inl ⟨rfl, .head _⟩)
            have isSecond : Precedes document.content.ids id next := by
              refine Precedes.mono ?_ ((List.sublist_cons_self _ _).trans order)
              exact Precedes.cons_iff.mpr (.inl ⟨rfl, List.mem_append_right _ later⟩)
            have other : data.isElement = false := by
              by_contra element
              rw [bridges, if_pos (by simpa using element), NodeSet.contains_iff] at bridge
              exact alone id bridge isFirst isSecond
            have fills : data.isFiller = true := by
              rw [bridges, other] at bridge
              simpa [NodeData.isFiller, other] using bridge
            have childless := holder.resolve_left (by simp [other])
            subst childless
            obtain ⟨place, known, same, gathered⟩ := ihRest
              (fun other member => places (.tail _ member)) nested
              (((List.sublist_cons_self _ _).cons_cons _).trans order)
              reached
            refine ⟨place, known, same, fun run moved left gathers => ?_⟩
            obtain ⟨left, others⟩ := gathered run moved left gathers
            exact ⟨_, .filler fills others⟩
        · cases reached

section Runs

variable {document : Document} {set : NodeSet}

private theorem places_unique {first second : Place} (mem : first ∈ document.places)
    (mem' : second ∈ document.places) (same : first.id = second.id) : first = second :=
  placesIn_unique document.content_distinct mem mem' same

theorem continues_eq_reaches {previous : Place} (known : previous ∈ document.places)
    (set : NodeSet) (next : NodeId) :
    continues document set previous.id next = reaches set next previous.after := by
  obtain ⟨place, known', found, same⟩ := document.place?_of_mem
    (id_mem_of_placesIn known)
  rw [continues, found, places_unique known' known same]

private theorem not_between {first second node : NodeId} {members nodes : List NodeId}
    (distinct : nodes.Nodup) (ordered : members.Sublist nodes)
    (adjacent : [first, second] <:+: members) (member : node ∈ members)
    (isFirst : Precedes nodes first node) : ¬ Precedes nodes node second := by
  intro isSecond
  obtain ⟨earlier, later, rfl⟩ := adjacent
  have pairs := Precedes.pairwise_of_sublist ordered
  simp only [List.append_assoc, List.cons_append, List.nil_append, List.pairwise_append,
    List.pairwise_cons, List.mem_cons, List.mem_append] at pairs member
  obtain ⟨-, ⟨-, after, -⟩, before⟩ := pairs
  rcases member with early | rfl | rfl | late
  · exact isFirst.asymm distinct (before node early first (.inl rfl))
  · exact isFirst.ne distinct rfl
  · exact isSecond.ne distinct rfl
  · exact isSecond.asymm distinct (after node late)

theorem exists_gathers (ordered : set.members.Sublist document.content.ids)
    {others : List NodeId} {place : Place} (known : place ∈ document.places)
    (part : place.id :: others <:+: set.members)
    (joined : (place.id :: others).IsChain fun previous next =>
      continues document set previous next = true) :
    ∃ moved left, Gathers (place.id :: others) place.onward moved left := by
  induction others generalizing place with
  | nil => exact ⟨_, _, .last⟩
  | cons second others ih =>
      obtain ⟨continued, joined⟩ := List.isChain_cons_cons.mp joined
      rw [continues_eq_reaches known] at continued
      have adjacent : [place.id, second] <:+: set.members :=
        List.IsInfix.trans ⟨[], others, rfl⟩ part
      have order : (place.id :: place.after.ids).Sublist document.content.ids :=
        ((List.sublist_append_right _ _).cons_cons _).trans (onward_sublist known)
      have nested := (onward_wellNested document.content_sound.wellNested known).2.2
      obtain ⟨next, known', same, gathered⟩ := gathers_of_reaches
        (following_subset known) nested order
        (fun node => not_between document.content_distinct ordered adjacent)
        continued
      subst same
      obtain ⟨moved, left, gathers⟩ := ih known'
        (List.IsInfix.trans ⟨[place.id], [], by simp⟩ part) joined
      obtain ⟨left, gathers⟩ := gathered _ _ _ gathers
      exact ⟨_, _, .member gathers⟩

theorem flatten_groups (document : Document) (set : NodeSet) :
    (groups document set).flatten = set.members :=
  List.flatten_splitBy _ _

private theorem exists_gathers_of_group (ordered : set.members.Sublist document.content.ids)
    {group : List NodeId} (member : group ∈ groups document set) :
    ∃ place ∈ document.places, ∃ others moved left, group = place.id :: others ∧
      Gathers (place.id :: others) place.onward moved left := by
  have part : group <:+: set.members := by
    rw [← flatten_groups document set]
    exact List.infix_of_mem_flatten member
  obtain ⟨first, others, rfl⟩ := List.exists_cons_of_ne_nil
    (List.ne_nil_of_mem_splitBy member)
  obtain ⟨place, known, -, rfl⟩ := document.place?_of_mem
    (ordered.subset (part.subset (.head _)))
  obtain ⟨moved, left, gathers⟩ := exists_gathers ordered known part
    (List.isChain_of_mem_splitBy member)
  exact ⟨place, known, others, moved, left, rfl, gathers⟩

private theorem groups_apart (ordered : set.members.Sublist document.content.ids) :
    (groups document set).Pairwise fun earlier later =>
      ∀ place ∈ document.places, later.head? = some place.id →
        ∀ id ∈ earlier, id ∉ place.onward.ids := by
  have pairs := Precedes.pairwise_of_sublist ordered
  rw [← flatten_groups document set, List.pairwise_flatten] at pairs
  refine pairs.2.imp fun {earlier later} before place known head id member inRow => ?_
  have order := before id member place.id (List.mem_of_mem_head? head)
  rcases List.mem_cons.mp inRow with same | below
  · exact order.ne document.content_distinct same
  · have reverse : Precedes place.onward.ids place.id id :=
      Precedes.cons_iff.mpr (.inl ⟨rfl, below⟩)
    exact order.asymm document.content_distinct (reverse.mono (onward_sublist known))

end Runs

end Wrapping

/-! Undoing the folding away of quotes: what is in the new disclosures, besides
their summaries, comes in the place of the disclosures. -/

/-- Whether an element is one that can be opened, as disclosures are. -/
def Html.NodeData.isDetails (data : NodeData) : Bool :=
  data.name? == some ⟨.html, "details"⟩

/-- The forest with each details element that is not an original node replaced by its
children, and without the other nodes that are not original. -/
def Html.Forest.unwrap (original : List NodeId) : Forest → Forest
  | .nil => .nil
  | .cons id data children rest =>
      if id ∈ original then
        .cons id data (children.unwrap original) (rest.unwrap original)
      else if data.isDetails then children.unwrap original ++ rest.unwrap original
      else rest.unwrap original

/-- Whether what is in the gap is kept when the forest is unwrapped. -/
def Html.Context.IsOpen (original : List NodeId) : Context → Prop
  | .gap => True
  | .inside id data children _ =>
      (id ∈ original ∨ data.isDetails = true) ∧ children.IsOpen original
  | .beside _ _ _ rest => rest.IsOpen original

namespace Html.Forest

variable {original : List NodeId}

private theorem unwrap_append (first second : Forest) :
    (first ++ second).unwrap original =
      first.unwrap original ++ second.unwrap original := by
  induction first with
  | nil => rfl
  | cons id data children rest _ ih =>
      simp only [cons_append, unwrap, ih]
      split
      · rfl
      · split
        · exact (append_assoc _ _ _).symm
        · rfl

theorem unwrap_eq_self {forest : Forest} (known : forest.ids ⊆ original) :
    forest.unwrap original = forest := by
  induction forest with
  | nil => rfl
  | cons id data children rest ihChildren ihRest =>
      simp only [ids_cons, List.cons_subset, List.append_subset] at known
      rw [unwrap, if_pos known.1, ihChildren known.2.1, ihRest known.2.2]

/-- What comes of a new disclosure: the run in it, and what is after it. -/
theorem unwrap_disclosure {container : NodeId} (label : String) {moved left : Forest}
    (fresh : ∀ id ∈ original, id < container) (known : moved.ids ⊆ original)
    (known' : left.ids ⊆ original) :
    (Forest.cons container Wrapping.disclosureData
      (Wrapping.summary container label ++ moved) left).unwrap original =
        moved ++ left := by
  have outside (id : NodeId) (le : container ≤ id) : id ∉ original := fun member =>
    absurd (fresh id member) (Nat.not_lt.mpr le)
  have details : Wrapping.disclosureData.isDetails = true := rfl
  have summary : ¬ Wrapping.summaryData.isDetails = true := by decide
  rw [unwrap, if_neg (outside _ (Nat.le_refl _)), if_pos details, unwrap_append,
    Wrapping.summary, unwrap, if_neg (outside _ (Nat.le_succ _)), if_neg summary,
    unwrap_eq_self known, unwrap_eq_self known']
  rfl

end Html.Forest

namespace Html.Context

open Forest

variable {original : List NodeId}

theorem nodes_unwrap_fill {context : Context} (opened : context.IsOpen original)
    (outer : Option NodeId) :
    ∃ before after inner, ∀ row : Forest,
      ((context.fill row).unwrap original).nodes outer =
        before ++ (row.unwrap original).nodes inner ++ after := by
  induction context generalizing outer with
  | gap => exact ⟨[], [], outer, fun row => by simp [fill]⟩
  | inside id data children rest ih =>
      obtain ⟨visible, opened⟩ := opened
      by_cases known : id ∈ original
      · obtain ⟨before, after, inner, equality⟩ := ih opened (some id)
        refine ⟨⟨outer, id, data⟩ :: before, after ++ (rest.unwrap original).nodes outer,
          inner, fun row => ?_⟩
        simp [fill, unwrap, known, nodes, equality]
      · have details := visible.resolve_left known
        obtain ⟨before, after, inner, equality⟩ := ih opened outer
        refine ⟨before, after ++ (rest.unwrap original).nodes outer, inner, fun row => ?_⟩
        simp [fill, unwrap, known, details, equality]
  | beside id data children rest ih =>
      obtain ⟨before, after, inner, equality⟩ := ih opened outer
      by_cases known : id ∈ original
      · refine ⟨⟨outer, id, data⟩ :: ((children.unwrap original).nodes (some id) ++ before),
          after, inner, fun row => ?_⟩
        simp [fill, unwrap, known, nodes, equality]
      · by_cases details : data.isDetails = true
        · refine ⟨(children.unwrap original).nodes outer ++ before, after, inner,
            fun row => ?_⟩
          simp [fill, unwrap, known, details, equality]
        · exact ⟨before, after, inner, fun row => by
            simp [fill, unwrap, known, details, equality]⟩

private theorem isOpen_of_subset {context : Context} (known : context.ids ⊆ original) :
    context.IsOpen original := by
  induction context with
  | gap => exact trivial
  | inside id data children rest ih =>
      simp only [ids, List.cons_subset, List.append_subset] at known
      exact ⟨.inl known.1, ih known.2.1⟩
  | beside id data children rest ih =>
      simp only [ids, List.cons_subset, List.append_subset] at known
      exact ih known.2.2

private theorem fill_ne_nil {row : Forest} (some : row ≠ .nil) (context : Context) :
    .nil ≠ context.fill row := by
  cases context with
  | gap => exact some.symm
  | inside => nofun
  | beside => nofun

end Html.Context

namespace Wrapping.Gathers

open Forest

variable {original : List NodeId} {run : List NodeId} {row moved left later : Forest}

/-- A later part of a row stays whole when an earlier run is gathered. -/
theorem exists_fill (gathers : Gathers run row moved left) {context : Context}
    (opened : context.IsOpen original) (equality : row = context.fill later)
    (some : later ≠ .nil) (apart : ∀ id ∈ run, id ∉ later.ids) :
    ∃ context : Context, context.IsOpen original ∧
      (moved = context.fill later ∨ left = context.fill later) := by
  induction gathers generalizing context with
  | @last id data children rest =>
      cases context with
      | gap =>
          have whole : Forest.cons id data children rest = later := equality
          exact absurd (whole ▸ by simp) (apart id (.head _))
      | inside id' data' children' rest' =>
          obtain ⟨rfl, rfl, rfl, rfl⟩ := Forest.cons.inj equality
          exact ⟨.inside id data children' .nil, opened, .inl rfl⟩
      | beside id' data' children' rest' =>
          obtain ⟨rfl, rfl, rfl, rfl⟩ := Forest.cons.inj equality
          exact ⟨rest', opened, .inr rfl⟩
  | @member id data children rest moved left run others ih =>
      cases context with
      | gap =>
          have whole : Forest.cons id data children rest = later := equality
          exact absurd (whole ▸ by simp) (apart id (.head _))
      | inside id' data' children' rest' =>
          obtain ⟨rfl, rfl, rfl, rfl⟩ := Forest.cons.inj equality
          exact ⟨.inside id data children' moved, opened, .inl rfl⟩
      | beside id' data' children' rest' =>
          obtain ⟨rfl, rfl, rfl, tail⟩ := Forest.cons.inj equality
          obtain ⟨context, opened, rfl | rfl⟩ := @ih rest' opened tail
            fun other member => apart other (.tail _ member)
          · exact ⟨.beside id data children context, opened, .inl rfl⟩
          · exact ⟨context, opened, .inr rfl⟩
  | @filler id data rest moved left run fills others ih =>
      cases context with
      | gap =>
          have whole : Forest.cons id data .nil rest = later := equality
          obtain ⟨first, member⟩ := List.exists_mem_of_ne_nil run others.run_ne_nil
          exact absurd (whole ▸ by simp [others.run_subset member]) (apart first member)
      | inside id' data' children' rest' =>
          obtain ⟨-, -, absurdity, -⟩ := Forest.cons.inj equality
          exact absurd absurdity (Context.fill_ne_nil some children')
      | beside id' data' children' rest' =>
          obtain ⟨rfl, rfl, rfl, tail⟩ := Forest.cons.inj equality
          obtain ⟨context, opened, rfl | rfl⟩ := @ih rest' opened tail apart
          · exact ⟨context, opened, .inl rfl⟩
          · exact ⟨.beside id data .nil context, opened, .inr rfl⟩

end Wrapping.Gathers

/-! Folding away one run after another. Runs that are folded away do not touch the
row of a later run, so each is gathered from the row that it is in at the start. -/

namespace Wrapping

open Forest

/-- The course of folding away runs of an original forest, from one forest to
another one. The disclosures are numbered from a given identifier on. -/
inductive Folding (original : Forest) (label : String) :
    NodeId → List (List NodeId) → Forest → Forest → Prop
  | done (container : NodeId) (forest : Forest) :
      Folding original label container [] forest forest
  | step {container : NodeId} {place : Place} {others : List NodeId}
      {runs : List (List NodeId)} {context : Context} {moved left result : Forest}
      (known : place ∈ original.places)
      (gathers : Gathers (place.id :: others) place.onward moved left)
      (opened : context.IsOpen original.ids)
      (sound : (context.fill place.onward).Sound container)
      (rest : Folding original label (container + 3) runs
        (context.fill (.cons container disclosureData (summary container label ++ moved)
          left)) result) :
      Folding original label container ((place.id :: others) :: runs)
        (context.fill place.onward) result

/-- A later part of a row stays whole when a run is folded away elsewhere. -/
theorem exists_fill_of_fold {original : List NodeId} {run : List NodeId}
    {row moved left later : Forest} (gathers : Gathers run row moved left)
    {context other : Context} (opened : context.IsOpen original)
    (opened' : other.IsOpen original) (equality : context.fill row = other.fill later)
    (some : later ≠ .nil) (apart : ∀ id ∈ run, id ∉ later.ids) (container : NodeId)
    (label : String) :
    ∃ kept : Context, kept.IsOpen original ∧
      context.fill (.cons container disclosureData (summary container label ++ moved)
        left) = kept.fill later := by
  obtain ⟨first, member⟩ := List.exists_mem_of_ne_nil run gathers.run_ne_nil
  have inside (context : Context) : first ∈ (context.fill row).ids :=
    Context.ids_subset_fill (gathers.run_subset member)
  induction context generalizing other with
  | gap =>
      obtain ⟨kept, opened', rfl | rfl⟩ := gathers.exists_fill opened' equality some apart
      · exact ⟨.inside container disclosureData
          (.beside (container + 1) summaryData _ kept) left, ⟨.inr rfl, opened'⟩, rfl⟩
      · exact ⟨.beside container disclosureData _ kept, opened', rfl⟩
  | inside id data children rest ih =>
      cases other with
      | gap =>
          have whole : (Context.inside id data children rest).fill row = later := equality
          exact absurd (whole ▸ inside _) (apart first member)
      | inside id' data' children' rest' =>
          obtain ⟨rfl, rfl, tail, rfl⟩ := Forest.cons.inj equality
          obtain ⟨kept, opened', same⟩ := ih opened.2 opened'.2 tail
          exact ⟨.inside id data kept rest, ⟨opened.1, opened'⟩, by
            simp only [Context.fill, same]⟩
      | beside id' data' children' rest' =>
          obtain ⟨rfl, rfl, rfl, rfl⟩ := Forest.cons.inj equality
          exact ⟨.beside id data (children.fill (.cons container disclosureData
            (summary container label ++ moved) left)) rest', opened', rfl⟩
  | beside id data children rest ih =>
      cases other with
      | gap =>
          have whole : (Context.beside id data children rest).fill row = later := equality
          exact absurd (whole ▸ inside _) (apart first member)
      | inside id' data' children' rest' =>
          obtain ⟨rfl, rfl, rfl, rfl⟩ := Forest.cons.inj equality
          exact ⟨.inside id data children' (rest.fill (.cons container disclosureData
            (summary container label ++ moved) left)), opened', rfl⟩
      | beside id' data' children' rest' =>
          obtain ⟨rfl, rfl, rfl, tail⟩ := Forest.cons.inj equality
          obtain ⟨kept, opened', same⟩ := @ih rest' opened opened' tail
          exact ⟨.beside id data children kept, opened', by
            simp only [Context.fill, same]⟩

/-- Whether a run can be gathered from its row in an original forest, and this row
is whole in another forest. -/
private def IsReady (original forest : Forest) (run : List NodeId) : Prop :=
  ∃ place ∈ original.places, ∃ others moved left, run = place.id :: others ∧
    Gathers (place.id :: others) place.onward moved left ∧
    ∃ context : Context, context.IsOpen original.ids ∧ forest = context.fill place.onward

private theorem folding_foldl (original : Forest) (label : String) (runs : List (List NodeId))
    (document : Document) (ready : ∀ run ∈ runs, IsReady original document.content run)
    (apart : runs.Pairwise fun earlier later =>
      ∀ place ∈ original.places, later.head? = some place.id →
        ∀ id ∈ earlier, id ∉ place.onward.ids) :
    Folding original label document.next runs document.content
      (runs.foldl (Document.wrapGroup label) document).content := by
  induction runs generalizing document with
  | nil => exact .done _ _
  | cons run runs ih =>
      obtain ⟨place, known, others, moved, left, rfl, gathers, context, opened, stands⟩ :=
        ready run (.head _)
      obtain ⟨first, apart⟩ := List.pairwise_cons.mp apart
      have content := Document.content_wrapGroup label stands gathers
      have next := document.next_wrapGroup label place.id others
      have sound := document.content_sound
      rw [List.foldl_cons]
      rw [stands] at sound ⊢
      refine .step known gathers opened sound ?_
      rw [← content, ← next]
      refine ih _ (fun run member => ?_) apart
      obtain ⟨later, known', others', moved', left', rfl, gathers', other, opened',
        stands'⟩ := ready run (.tail _ member)
      have kept := exists_fill_of_fold gathers opened opened' (stands ▸ stands')
        (by nofun) (first _ member later known' rfl) document.next label
      rw [← content] at kept
      exact ⟨later, known', others', moved', left', rfl, gathers', kept⟩

/-- Folding away the quotes of a set that is in document order takes this course. -/
theorem folding_wrap (document : Document) (set : NodeSet) (label : String)
    (ordered : set.members.Sublist document.content.ids) :
    Folding document.content label document.next (groups document set) document.content
      (document.wrap set label).content := by
  refine folding_foldl _ _ _ _ (fun run member => ?_) (groups_apart ordered)
  obtain ⟨place, known, others, moved, left, same, gathers⟩ :=
    exists_gathers_of_group ordered member
  obtain ⟨context, stands⟩ := exists_fill_of_placesIn known
  have inside : context.ids ⊆ document.content.ids := fun id member => by
    rw [stands]
    exact Context.mem_ids_fill.mpr (.inl member)
  exact ⟨place, known, others, moved, left, same, gathers, context,
    Context.isOpen_of_subset inside, stands⟩

end Wrapping

/-! What folding quotes away keeps: each old node lies below the old nodes that it lay
below, and the first element of a name is the same one, unless disclosures have that
name, too. -/

namespace Html.Context

open Forest

private theorem map_id_named?_fill {localName : String} {first second : Forest}
    (same : (first.named? localName).map Tree.id = (second.named? localName).map Tree.id)
    (context : Context) :
    ((context.fill first).named? localName).map Tree.id =
      ((context.fill second).named? localName).map Tree.id := by
  induction context with
  | gap => exact same
  | inside id data children rest ih =>
      rw [fill, fill, map_id_named?_cons, map_id_named?_cons, ih]
  | beside id data children rest ih =>
      rw [fill, fill, map_id_named?_cons, map_id_named?_cons, ih]

end Html.Context

namespace Wrapping

open Forest

namespace Gathers

variable {run : List NodeId} {row moved left : Forest}

private theorem ancestors_moved (gathers : Gathers run row moved left) (distinct : row.ids.Nodup)
    {node : NodeId} (member : node ∈ moved.ids) :
    moved.ancestors node = row.ancestors node := by
  induction gathers with
  | last =>
      rw [ids_cons, ids_nil, List.append_nil] at member
      exact ancestors_cons_congr member _ _
  | @member id data children rest moved left run others ih =>
      have restDistinct := (List.nodup_append.mp (List.nodup_cons.mp distinct).2).2.1
      rw [ids_cons, ← List.cons_append, List.mem_append] at member
      rcases member with here | later
      · exact ancestors_cons_congr here _ _
      · have later' := others.moved_sublist.subset later
        have part : (cons id data children moved).ids.Sublist
            (cons id data children rest).ids :=
          (others.moved_sublist.append_left _).cons_cons _
        rw [ancestors_cons_of_mem_rest (part.nodup distinct) later,
          ancestors_cons_of_mem_rest distinct later', ih restDistinct later]
  | filler _ others ih =>
      have restDistinct := (List.nodup_cons.mp distinct).2
      have later := others.moved_sublist.subset member
      rw [ancestors_cons_of_mem_rest distinct later, ih restDistinct member]

private theorem ancestors_left (gathers : Gathers run row moved left) (distinct : row.ids.Nodup)
    {node : NodeId} (member : node ∈ left.ids) :
    left.ancestors node = row.ancestors node := by
  induction gathers with
  | last => exact (ancestors_cons_of_mem_rest distinct member).symm
  | member others ih =>
      have restDistinct := (List.nodup_append.mp (List.nodup_cons.mp distinct).2).2.1
      have later := others.left_sublist.subset member
      rw [ancestors_cons_of_mem_rest distinct later, ih restDistinct member]
  | @filler id data rest moved left run _ others ih =>
      obtain ⟨notAfter, restDistinct⟩ := List.nodup_cons.mp distinct
      rcases List.mem_cons.mp member with rfl | later
      · exact ancestors_cons_congr (.head _) _ _
      · have part : (cons id data .nil left).ids.Sublist (cons id data .nil rest).ids :=
          others.left_sublist.cons_cons _
        rw [ancestors_cons_of_mem_rest (part.nodup distinct) later,
          ancestors_cons_of_mem_rest distinct (others.left_sublist.subset later),
          ih restDistinct later]

/-- A filler has no name, so that only nameless nodes change their order. -/
theorem map_id_named? (gathers : Gathers run row moved left) (localName : String) :
    ((moved.named? localName).map Tree.id).or ((left.named? localName).map Tree.id) =
      (row.named? localName).map Tree.id := by
  induction gathers with
  | last => rw [← map_id_named?_append, cons_append, nil_append]
  | member others ih =>
      rw [map_id_named?_cons, map_id_named?_cons, ← ih]
      split
      · rfl
      · rw [Option.or_assoc]
  | @filler id data rest moved left run fills others ih =>
      have nameless : data.name? = none := by
        cases named : data.name? with
        | none => rfl
        | some name => simp [NodeData.isFiller, NodeData.isElement, named] at fills
      rw [map_id_named?_cons, map_id_named?_cons, ← ih, nameless]
      rfl

end Gathers

private theorem not_mem_summary {container id : NodeId} (older : id < container) (label : String) :
    id ∉ (summary container label).ids := by
  intro member
  change id ∈ [container + 1, container + 2] at member
  rcases List.mem_pair.mp member with rfl | rfl
  · exact absurd older (Nat.not_lt.mpr (Nat.le_add_right container 1))
  · exact absurd older (Nat.not_lt.mpr (Nat.le_add_right container 2))

section Row

variable {run : List NodeId} {row moved left : Forest} {container : NodeId}

private theorem mem_ids_disclosure (gathers : Gathers run row moved left) {id : NodeId}
    (older : id < container) (label : String) :
    id ∈ (cons container disclosureData (summary container label ++ moved) left).ids ↔
      id ∈ row.ids := by
  have notContainer : id ≠ container := Nat.ne_of_lt older
  rw [← gathers.ids_perm.mem_iff, ids_cons, ids_append, List.mem_cons, List.append_assoc,
    List.mem_append, or_iff_right notContainer, or_iff_right (not_mem_summary older label)]

private theorem ancestors_disclosure (gathers : Gathers run row moved left)
    (distinct : row.ids.Nodup) {upper lower : NodeId} (older : upper < container)
    (older' : lower < container) (label : String) (member : lower ∈ row.ids) :
    upper ∈ (cons container disclosureData (summary container label ++ moved) left).ancestors
      lower ↔ upper ∈ row.ancestors lower := by
  have notContainer : container ≠ lower := Nat.ne_of_gt older'
  have notSummary := not_mem_summary older' label
  by_cases moves : lower ∈ moved.ids
  · have below : lower ∈ (summary container label ++ moved).ids := by
      rw [ids_append]
      exact List.mem_append_right _ moves
    have inMoved : (summary container label ++ moved).ancestors lower = moved.ancestors lower :=
      ancestors_cons_of_not_mem notSummary _ _
    have different : upper ≠ container := Nat.ne_of_lt older
    rw [ancestors, if_neg notContainer, if_pos below, inMoved,
      gathers.ancestors_moved distinct moves, List.mem_cons, or_iff_right different]
  · have notBelow : lower ∉ (summary container label ++ moved).ids := by
      rw [ids_append]
      exact List.not_mem_append notSummary moves
    have stays : lower ∈ left.ids :=
      (List.mem_append.mp (gathers.ids_perm.mem_iff.mpr member)).resolve_left moves
    rw [ancestors, if_neg notContainer, if_neg notBelow, gathers.ancestors_left distinct stays]

private theorem map_id_named?_disclosure (gathers : Gathers run row moved left) {localName : String}
    (notDetails : localName ≠ "details") (notSummary : localName ≠ "summary")
    (container : NodeId) (label : String) :
    ((cons container disclosureData (summary container label ++ moved) left).named?
      localName).map Tree.id = (row.named? localName).map Tree.id := by
  have other : (disclosureData.name?.any fun name => name.localName == localName) = false :=
    beq_false_of_ne notDetails.symm
  have other' : (summaryData.name?.any fun name => name.localName == localName) = false :=
    beq_false_of_ne notSummary.symm
  have nameless : ((summary container label).named? localName).map Tree.id = none := by
    rw [summary, map_id_named?_cons, other']
    rfl
  rw [map_id_named?_cons, other, map_id_named?_append, nameless, ← gathers.map_id_named?]
  rfl

end Row

/-- What a forest has in common with one that quotes in it are folded away to. -/
structure Keeps (before after : Forest) : Prop where
  ids : before.ids ⊆ after.ids
  ancestors : ∀ upper ∈ before.ids, ∀ lower ∈ before.ids,
    upper ∈ after.ancestors lower ↔ upper ∈ before.ancestors lower
  named : ∀ localName, localName ≠ "details" → localName ≠ "summary" →
    (after.named? localName).map Tree.id = (before.named? localName).map Tree.id

namespace Keeps

theorem refl (forest : Forest) : Keeps forest forest where
  ids := List.Subset.refl _
  ancestors _ _ _ _ := Iff.rfl
  named _ _ _ := rfl

theorem trans {first second third : Forest} (keeps : Keeps first second)
    (keeps' : Keeps second third) : Keeps first third where
  ids := List.Subset.trans keeps.ids keeps'.ids
  ancestors upper isUpper lower isLower :=
    (keeps'.ancestors upper (keeps.ids isUpper) lower (keeps.ids isLower)).trans
      (keeps.ancestors upper isUpper lower isLower)
  named localName notDetails notSummary :=
    (keeps'.named localName notDetails notSummary).trans
      (keeps.named localName notDetails notSummary)

theorem step {container : NodeId} {context : Context} {run : List NodeId}
    {row moved left : Forest} (gathers : Gathers run row moved left)
    (sound : (context.fill row).Sound container) (label : String) :
    Keeps (context.fill row) (context.fill (.cons container disclosureData
      (summary container label ++ moved) left)) := by
  refine ⟨?ids, ?ancestors, ?named⟩
  case ids =>
    intro id member
    have older := sound.below id member
    rw [Context.mem_ids_fill] at member ⊢
    exact member.imp_right (mem_ids_disclosure gathers older label).mpr
  case ancestors =>
    intro upper isUpper lower isLower
    have older := sound.below upper isUpper
    have older' := sound.below lower isLower
    have same := mem_ids_disclosure gathers older' label
    -- Only in the row of the run has a node new nodes above it, and these are not old.
    by_cases inRow : lower ∈ row.ids
    · have rowDistinct := Context.nodup_of_fill sound.distinct
      have outside := Context.not_mem_ids sound.distinct inRow
      obtain ⟨above, inner⟩ := context.exists_ancestors_fill
      rw [inner _ lower outside (same.mpr inRow), inner row lower outside inRow,
        List.mem_append, List.mem_append,
        ancestors_disclosure gathers rowDistinct older older' label inRow]
    · rw [Context.ancestors_fill_congr (mt same.mp inRow) inRow]
  case named =>
    intro localName notDetails notSummary
    apply Context.map_id_named?_fill
    exact map_id_named?_disclosure gathers notDetails notSummary container label

end Keeps

theorem Folding.keeps {original before after : Forest} {label : String} {container : NodeId}
    {runs : List (List NodeId)}
    (folding : Folding original label container runs before after) : Keeps before after := by
  induction folding with
  | done => exact .refl _
  | step known gathers opened sound rest ih => exact (Keeps.step gathers sound _).trans ih

end Wrapping

end MailQuote
