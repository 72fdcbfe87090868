import MailQuote.Proofs.Removal

namespace MailQuote

namespace Html

/-- Whether a node is an element that holds nothing by its nature, or text that is not white
space. -/
def NodeData.isLasting (data : NodeData) : Bool :=
  data.isVoid || !Text.allBlank data.ownText

/-- Whether a node is lasting or has a lasting node in it. -/
def Forest.lasts (forest : Forest) (upper : NodeId) : Bool :=
  (forest.nodes none).any fun node =>
    node.data.isLasting && (node.id == upper || (forest.ancestors node.id).contains upper)

namespace NodeData

private theorem isLasting_of_isElement {data : NodeData} (element : data.isElement = true) :
    data.isLasting = data.isVoid := by
  cases data with
  | element => simp [isLasting, ownText, Text.allBlank]
  | text => cases element
  | comment => cases element
  | doctype => cases element

private theorem isLasting_of_not_isElement {data : NodeData} (bare : data.isElement = false) :
    data.isLasting = !Text.allBlank data.ownText := by
  rw [isElement, Option.isSome_eq_false_iff, Option.isNone_iff_eq_none] at bare
  rw [isLasting, isVoid, tagName?, bare, Option.map_none, Bool.false_or]

end NodeData

namespace Forest

variable {forest : Forest} {drop : NodeId → Bool} {upper lower : NodeId}

private theorem lasts_iff : forest.lasts upper = true ↔ ∃ node ∈ forest.nodes none,
    node.data.isLasting = true ∧ (node.id = upper ∨ upper ∈ forest.ancestors node.id) := by
  simp [lasts]

private theorem lasts_of_below (distinct : forest.ids.Nodup)
    (above : upper ∈ forest.ancestors lower)
    (lasting : forest.lasts lower = true) : forest.lasts upper = true := by
  obtain ⟨node, member, isLasting, rfl | further⟩ := lasts_iff.mp lasting
  · exact lasts_iff.mpr ⟨node, member, isLasting, .inr above⟩
  · have whole := ancestors_isPrefix distinct further
    exact lasts_iff.mpr ⟨node, member, isLasting,
      .inr (whole.subset (List.mem_append_left _ above))⟩

section Empty

private theorem allBlank_text {parent : Option NodeId}
    (barren : ∀ node ∈ forest.nodes parent, node.data.isLasting = false) :
    Text.allBlank forest.text = true := by
  induction forest generalizing parent with
  | nil => rfl
  | cons id data children rest ihChildren ihRest =>
      simp only [nodes, List.forall_mem_cons, List.forall_mem_append] at barren
      obtain ⟨here, inside, after⟩ := barren
      rw [NodeData.isLasting, Bool.or_eq_false_iff, Bool.not_eq_false'] at here
      have inside := ihChildren inside
      have after := ihRest after
      unfold Text.allBlank at here inside after ⊢
      rw [text, List.all_append, List.all_append, here.2, inside, after]
      rfl

private theorem isLeftEmpty_of_find? {part : Forest} {target : NodeId}
    (within : ∀ tree, part.find? target = some tree → forest.find? target = some tree)
    (empty : part.isLeftEmpty target = true) : forest.isLeftEmpty target = true := by
  unfold isLeftEmpty at empty ⊢
  cases found : part.find? target with
  | none => simp [found] at empty
  | some tree => simpa [found, within tree found] using empty

/-- Of elements that hold nothing lasting an innermost one is empty. -/
theorem exists_isLeftEmpty (distinct : forest.ids.Nodup) {parent : Option NodeId}
    (barren : ∀ node ∈ forest.nodes parent, node.data.isLasting = false)
    (some : forest.hasElement = true) : ∃ id, forest.isLeftEmpty id = true := by
  induction forest generalizing parent with
  | nil => cases some
  | cons id data children rest ihChildren ihRest =>
      have parts := List.nodup_append.mp (List.nodup_cons.mp distinct).2
      simp only [nodes, List.forall_mem_cons, List.forall_mem_append] at barren
      obtain ⟨here, inside, after⟩ := barren
      -- An element that has no element in it is empty itself, as nothing in it is lasting.
      cases inner : children.hasElement with
      | true =>
          obtain ⟨target, empty⟩ := ihChildren parts.1 inside inner
          exact ⟨target, isLeftEmpty_of_find? (fun tree found =>
            (find?_cons_eq_some distinct).mpr (.inr (.inl found))) empty⟩
      | false =>
          cases element : data.isElement with
          | true =>
              rw [NodeData.isLasting_of_isElement element] at here
              refine ⟨id, ?_⟩
              rw [isLeftEmpty, (find?_cons_eq_some distinct).mpr (.inl ⟨rfl, rfl⟩)]
              simp [NodeData.isLeftEmpty, element, here, inner, allBlank_text inside]
          | false =>
              rw [hasElement, element, Bool.false_or] at some
              obtain ⟨target, empty⟩ := ihRest parts.2.1 after some
              exact ⟨target, isLeftEmpty_of_find? (fun tree found =>
                (find?_cons_eq_some distinct).mpr (.inr (.inr found))) empty⟩

private theorem data_of_find? (distinct : forest.ids.Nodup) {node : Node} {parent : Option NodeId}
    (member : node ∈ forest.nodes parent) {tree : Tree}
    (found : forest.find? node.id = some tree) : node.data = tree.data := by
  obtain ⟨⟨upper, known⟩, -⟩ := nodes_of_find? found parent
  rw [nodes_unique distinct member known rfl]

/-- An element with nothing lasting in it is empty or has an empty element in it. -/
theorem exists_isLeftEmpty_within (distinct : forest.ids.Nodup)
    (element : upper ∈ forest.elementIds) (barren : forest.lasts upper = false) :
    ∃ lower, forest.isLeftEmpty lower = true ∧
      (lower = upper ∨ upper ∈ forest.ancestors lower) := by
  obtain ⟨tree, found⟩ := exists_find? ((elementIds_sublist_ids _).subset element)
  obtain ⟨before, after, whole⟩ := ids_split_of_find? found
  obtain ⟨⟨parent, stands⟩, inside⟩ := nodes_of_find? found none
  let part : Forest := .cons upper tree.data tree.children .nil
  have distinct' : part.ids.Nodup := by
    rw [whole, List.append_assoc] at distinct
    simpa [part] using (List.nodup_append.mp (List.nodup_append.mp distinct).2.1).1
  have within {lower : NodeId} (member : lower ∈ part.ids) :
      lower = upper ∨ upper ∈ forest.ancestors lower := by
    simp only [part, ids_cons, ids_nil, List.append_nil, List.mem_cons] at member
    exact member.imp_right fun below => (mem_ancestors distinct).mpr ⟨tree, found, below⟩
  have barren' : ∀ node ∈ part.nodes parent, node.data.isLasting = false := by
    intro node member
    have around := within ((mem_ids_iff_nodes parent).mpr ⟨node, member, rfl⟩)
    have known : node ∈ forest.nodes none := by
      simp only [part, nodes, List.append_nil, List.mem_cons] at member
      rcases member with rfl | below
      · exact stands
      · exact inside below
    rw [← Bool.not_eq_true] at barren ⊢
    exact fun isLasting => barren (lasts_iff.mpr ⟨node, known, isLasting, around⟩)
  have some : part.hasElement = true := by
    obtain ⟨node, known, isElement, same⟩ := (mem_elementIds none).mp element
    rw [data_of_find? distinct known (same ▸ found)] at isElement
    simp [part, hasElement, isElement]
  obtain ⟨lower, empty⟩ := exists_isLeftEmpty distinct' barren' some
  have known := (elementIds_sublist_ids _).subset (mem_elementIds_of_isLeftEmpty empty)
  refine ⟨lower, isLeftEmpty_of_find? (fun tree' found' => ?_) empty, within known⟩
  rcases (find?_cons_eq_some distinct').mp found' with ⟨rfl, rfl⟩ | below | nothing
  · rw [found, ← id_of_find? found]
  · exact find?_of_find? distinct found below
  · cases nothing

private theorem lasts_of_isLeftEmpty {next : NodeId} (sound : forest.Sound next)
    (empty : forest.isLeftEmpty upper = true) : forest.lasts upper = false := by
  have distinct := sound.distinct
  rw [← Bool.not_eq_true, lasts_iff]
  rintro ⟨node, member, isLasting, rfl | above⟩
  · obtain ⟨tree, found⟩ := exists_find? ((mem_ids_iff_nodes none).mpr ⟨node, member, rfl⟩)
    rw [isLeftEmpty, found] at empty
    simp only [NodeData.isLeftEmpty, Bool.and_eq_true, Bool.not_eq_true'] at empty
    rw [data_of_find? distinct member found,
      NodeData.isLasting_of_isElement empty.1.1.1, empty.1.1.2] at isLasting
    cases isLasting
  · have bare := (below_isLeftEmpty sound member above empty).2
    rw [NodeData.isLasting_of_not_isElement bare] at isLasting
    obtain ⟨tree, found, below⟩ := (mem_ancestors distinct).mp above
    obtain ⟨inner, found'⟩ := exists_find? below
    rw [isLeftEmpty, found] at empty
    simp only [NodeData.isLeftEmpty, Bool.and_eq_true] at empty
    have part : node.data.ownText <:+: tree.children.text := by
      rw [data_of_find? distinct member (find?_of_find? distinct found found')]
      exact (List.prefix_append _ _).isInfix.trans (text_isInfix_of_find? found')
    have blank : Text.allBlank node.data.ownText = true :=
      List.all_eq_true.mpr fun c visible => List.all_eq_true.mp empty.2 c (part.subset visible)
    rw [blank] at isLasting
    cases isLasting

end Empty

section Without

variable (distinct : forest.ids.Nodup) (barren : ∀ id, drop id = true → forest.lasts id = false)
include distinct barren

private theorem mem_nodes_without_of_isLasting {node : Node} (member : node ∈ forest.nodes none)
    (isLasting : node.data.isLasting = true) : node ∈ (forest.without drop).nodes none := by
  have spared {id : NodeId} (around : node.id = id ∨ id ∈ forest.ancestors node.id) :
      drop id = false := by
    by_contra dropped
    have none := barren id (Bool.not_eq_false _ ▸ dropped)
    rw [lasts_iff.mpr ⟨node, member, isLasting, around⟩] at none
    cases none
  exact (mem_nodes_without distinct).mpr
    ⟨member, spared (.inl rfl), fun upper above => spared (.inr above)⟩

private theorem lasts_without : (forest.without drop).lasts upper = forest.lasts upper := by
  rw [Bool.eq_iff_iff, lasts_iff, lasts_iff]
  constructor
  · rintro ⟨node, member, isLasting, around⟩
    have kept := (mem_ids_iff_nodes none).mpr ⟨node, member, rfl⟩
    rw [ancestors_without distinct kept] at around
    exact ⟨node, (nodes_without_sublist drop none forest).subset member, isLasting, around⟩
  · rintro ⟨node, member, isLasting, around⟩
    have member' := mem_nodes_without_of_isLasting distinct barren member isLasting
    have kept := (mem_ids_iff_nodes none).mpr ⟨node, member', rfl⟩
    rw [← ancestors_without distinct kept] at around
    exact ⟨node, member', isLasting, around⟩

end Without

end Forest

end Html

/-! Sweeping until nothing is swept any more. However many rounds it takes, the elements that
stay in the body are those that have something lasting in them at the start. -/

open Html

section Count

open Forest

variable {forest : Forest} {next : NodeId}

private theorem count_foldl_sweepNode (sound : forest.Sound next) (later earlier : List NodeId)
    (order : (earlier ++ later).Sublist forest.elementIds) (swept : Nat × Document)
    (stands : swept.2.content =
      forest.without fun id => earlier.contains id && forest.isLeftEmpty id) :
    (later.foldl Document.sweepNode swept).1 = swept.1 + later.countP forest.isLeftEmpty := by
  induction later generalizing earlier swept with
  | nil => rfl
  | cons node later ih =>
      obtain ⟨member, empty⟩ := isLeftEmpty_before_sweep sound order
      rw [← stands] at member empty
      rw [List.append_cons] at order
      have stands' : (Document.sweepNode swept node).2.content = _ :=
        content_foldl_sweepNode sound [node] earlier
          ((List.sublist_append_left _ _).trans order) swept stands
      rw [List.foldl_cons, ih (earlier ++ [node]) order _ stands', Document.sweepNode,
        Document.isLeftEmpty_of_mem _ member, empty, List.countP_cons]
      split
      · rw [Nat.add_assoc, Nat.add_comm 1]
      · rfl

private theorem isLeftEmpty_of_above (sound : forest.Sound next) {upper lower : NodeId}
    (element : lower ∈ forest.elementIds) (above : upper ∈ forest.ancestors lower) :
    forest.isLeftEmpty upper = false := by
  obtain ⟨node, member, isElement, rfl⟩ := (mem_elementIds none).mp element
  rw [← Bool.not_eq_true]
  intro empty
  rw [(below_isLeftEmpty sound member above empty).2] at isElement
  cases isElement

end Count

namespace Html.Document

open Forest

variable {document : Document}

private theorem mem_ids_of_mem_bodyElements {node : NodeId} (below : node ∈ document.bodyElements) :
    node ∈ document.content.ids :=
  (elementIds_sublist_ids _).subset (document.bodyElements_sublist.subset below)

private theorem foldl_sweepNode_eq_self {nodes : List NodeId} {swept : Nat × Document}
    (filled : ∀ node ∈ nodes, swept.2.isLeftEmpty node = false) :
    nodes.foldl sweepNode swept = swept := by
  induction nodes with
  | nil => rfl
  | cons node nodes ih =>
      obtain ⟨here, later⟩ := List.forall_mem_cons.mp filled
      rw [List.foldl_cons, sweepNode, here, if_neg Bool.false_ne_true, ih later]

private theorem count_sweepBody (document : Document) :
    document.sweepBody.1 = document.bodyElements.countP document.content.isLeftEmpty := by
  have order : ([] ++ document.bodyElements).Sublist document.content.elementIds :=
    document.bodyElements_sublist
  rw [sweepBody, count_foldl_sweepNode document.content_sound _ [] order _
    (without_eq_self fun _ _ => rfl).symm, Nat.zero_add]

/-- A round that counts nothing finds no empty element, and changes nothing. -/
theorem sweepBody_of_count_eq_zero (none : document.sweepBody.1 = 0) :
    document.sweepBody = (0, document) ∧
      ∀ node ∈ document.bodyElements, document.content.isLeftEmpty node = false := by
  rw [count_sweepBody, List.countP_eq_zero] at none
  have filled : ∀ node ∈ document.bodyElements, document.content.isLeftEmpty node = false :=
    fun node below => Bool.eq_false_iff.mpr (none node below)
  refine ⟨foldl_sweepNode_eq_self fun node below => ?_, filled⟩
  rw [document.isLeftEmpty_of_mem (mem_ids_of_mem_bodyElements below), filled node below]

private theorem not_above_of_swept {upper lower : NodeId}
    (swept : (document.bodyElements.contains upper &&
      document.content.isLeftEmpty upper) = true) (element : lower ∈ document.content.elementIds) :
    upper ∉ document.content.ancestors lower := by
  intro above
  rw [isLeftEmpty_of_above document.content_sound element above, Bool.and_false] at swept
  cases swept

private theorem bodyElements_sweepBody (document : Document) :
    document.sweepBody.2.bodyElements =
      document.bodyElements.filter fun id => !document.content.isLeftEmpty id := by
  rw [bodyElements_without document.content_sweepBody]
  · refine List.filter_congr fun id below => ?_
    rw [List.contains_iff_mem.mpr below, Bool.true_and]
  · intro id swept
    exact List.contains_iff_mem.mp (Bool.and_eq_true_iff.mp swept).1
  · exact fun upper swept lower element above =>
      absurd above (not_above_of_swept swept element)

/-- Each round counts the elements that it takes out. -/
theorem count_add_elementIds (document : Document) :
    document.sweepBody.1 + document.sweepBody.2.content.elementIds.length =
      document.content.elementIds.length := by
  have gone : document.sweepBody.1 = document.content.elementIds.countP fun id =>
      document.bodyElements.contains id && document.content.isLeftEmpty id := by
    rw [count_sweepBody, ← document.filter_elementIds, List.countP_filter,
      document.filter_elementIds]
    simp only [Bool.and_comm]
  have left : document.sweepBody.2.content.elementIds.length =
      document.content.elementIds.countP fun id =>
        !(document.bodyElements.contains id && document.content.isLeftEmpty id) := by
    rw [document.content_sweepBody, elementIds_without document.content_distinct,
      List.countP_eq_length_filter]
    exact fun upper swept lower element above =>
      absurd above (not_above_of_swept swept element)
  rw [gone, left, List.length_eq_countP_add_countP fun id =>
    document.bodyElements.contains id && document.content.isLeftEmpty id]
  simp

private theorem bodyElements_sweepBody_lt (some : document.sweepBody.1 ≠ 0) :
    document.sweepBody.2.bodyElements.length < document.bodyElements.length := by
  rw [count_sweepBody, ← Nat.pos_iff_ne_zero, List.countP_pos_iff] at some
  rw [bodyElements_sweepBody, List.length_filter_lt_length_iff_exists]
  simpa using some

end Html.Document

namespace Removal

open Forest

variable {document : Document} {result : Nat × Document}

/-- Whether a node is an element in the body with nothing lasting in it. -/
def isBarren (document : Document) (node : NodeId) : Bool :=
  document.bodyElements.contains node && !document.content.lasts node

/-- What it comes to, how many elements are gone and what is left, to sweep a document round
by round, up to a round that finds nothing. -/
inductive Sweeps : Document → Nat × Document → Prop
  | done {document kept : Document} (last : document.sweepBody = (0, kept)) :
      Sweeps document (0, kept)
  | again {document kept : Document} {count : Nat} {result : Nat × Document}
      (round : document.sweepBody = (count + 1, kept)) (others : Sweeps kept result) :
      Sweeps document (count + 1 + result.1, result.2)

private theorem isBarren_of_swept {node : NodeId} (swept : (document.bodyElements.contains node &&
      document.content.isLeftEmpty node) = true) : isBarren document node = true := by
  obtain ⟨below, empty⟩ := Bool.and_eq_true_iff.mp swept
  rw [isBarren, below, lasts_of_isLeftEmpty document.content_sound empty]
  rfl

private theorem lasts_of_isBarren {node : NodeId} (barren : isBarren document node = true) :
    document.content.lasts node = false :=
  (Bool.not_eq_true' _).mp (Bool.and_eq_true_iff.mp barren).2

private theorem mem_bodyElements_of_isBarren {node : NodeId}
    (barren : isBarren document node = true) :
    node ∈ document.bodyElements :=
  List.contains_iff_mem.mp (Bool.and_eq_true_iff.mp barren).1

private theorem isBarren_of_above {upper lower : NodeId} (barren : isBarren document upper = true)
    (element : lower ∈ document.content.elementIds)
    (above : upper ∈ document.content.ancestors lower) : isBarren document lower = true := by
  have distinct := document.content_distinct
  have below : lower ∈ document.bodyElements := by
    have inBody := mem_bodyElements_of_isBarren barren
    rw [Document.mem_bodyElements] at inBody ⊢
    have whole := ancestors_isPrefix distinct above
    exact ⟨element, fun body named =>
      whole.subset (List.mem_append_left _ (inBody.2 body named))⟩
  have bare : document.content.lasts lower = false := by
    have bareAbove := lasts_of_isBarren barren
    rw [← Bool.not_eq_true] at bareAbove ⊢
    exact fun lasting => bareAbove (lasts_of_below distinct above lasting)
  rw [isBarren, List.contains_iff_mem.mpr below, bare]
  rfl

/-- What has nothing lasting in it is the same after a round, but for what is gone. -/
theorem without_isBarren_sweepBody (document : Document) :
    document.sweepBody.2.content.without (isBarren document.sweepBody.2) =
      document.content.without (isBarren document) := by
  have smaller := document.content_sweepBody
  have inside : ∀ id, (document.bodyElements.contains id &&
      document.content.isLeftEmpty id) = true → id ∈ document.bodyElements :=
    fun id swept => mem_bodyElements_of_isBarren (isBarren_of_swept swept)
  have same : ∀ id ∈ document.sweepBody.2.content.ids,
      isBarren document.sweepBody.2 id = isBarren document id := by
    intro id stays
    have below : document.sweepBody.2.bodyElements.contains id =
        document.bodyElements.contains id := by
      rw [Bool.eq_iff_iff, List.contains_iff_mem, List.contains_iff_mem,
        Document.mem_bodyElements_without_iff smaller inside, and_iff_left stays]
    rw [isBarren, isBarren, below, smaller, lasts_without document.content_distinct
      fun id swept => lasts_of_isBarren (isBarren_of_swept swept)]
  rw [without_congr same, smaller, ← without_of_implies fun id => isBarren_of_swept]

private theorem isBarren_eq_false
    (filled : ∀ node ∈ document.bodyElements, document.content.isLeftEmpty node = false)
    (node : NodeId) : isBarren document node = false := by
  rw [← Bool.not_eq_true]
  intro barren
  have below := mem_bodyElements_of_isBarren barren
  obtain ⟨lower, empty, around⟩ := exists_isLeftEmpty_within document.content_distinct
    (document.bodyElements_sublist.subset below) (lasts_of_isBarren barren)
  have below' : lower ∈ document.bodyElements := by
    rcases around with rfl | above
    · exact below
    · exact mem_bodyElements_of_isBarren
        (isBarren_of_above barren (mem_elementIds_of_isLeftEmpty empty) above)
  rw [filled lower below'] at empty
  cases empty

namespace Sweeps

private theorem content (sweeps : Sweeps document result) :
    result.2.content = document.content.without (isBarren document) := by
  induction sweeps with
  | @done document kept last =>
      obtain ⟨same, filled⟩ := Document.sweepBody_of_count_eq_zero (congrArg Prod.fst last)
      cases last.symm.trans same
      exact (without_eq_self fun node _ => isBarren_eq_false filled node).symm
  | @again document kept count result round others ih =>
      have kept : document.sweepBody.2 = kept := congrArg Prod.snd round
      rw [ih, ← kept, without_isBarren_sweepBody]

private theorem count (sweeps : Sweeps document result) :
    result.1 + result.2.content.elementIds.length = document.content.elementIds.length := by
  induction sweeps with
  | @done document kept last =>
      have counted := document.count_add_elementIds
      rwa [last] at counted
  | @again document kept count result round others ih =>
      have counted := document.count_add_elementIds
      rw [round] at counted
      rw [Nat.add_assoc, ih, counted]

private theorem stable (sweeps : Sweeps document result) : result.2.sweepBody = (0, result.2) := by
  induction sweeps with
  | @done document kept last =>
      obtain ⟨same, -⟩ := Document.sweepBody_of_count_eq_zero (congrArg Prod.fst last)
      cases last.symm.trans same
      exact same
  | again _ _ ih => exact ih

end Sweeps

private theorem sweeps_sweepRounds {rounds : Nat} (enough : document.bodyElements.length < rounds) :
    Sweeps document (document.sweepRounds rounds) := by
  induction rounds generalizing document with
  | zero => cases enough
  | succ rounds ih =>
      rw [Document.sweepRounds]
      rcases round : document.sweepBody with ⟨count, kept⟩
      cases count with
      | zero => exact .done round
      | succ count =>
          -- What it counts is no longer in the body, so the rounds that are left are enough.
          have fewer : kept.bodyElements.length < document.bodyElements.length := by
            simpa [round] using document.bodyElements_sweepBody_lt
          exact .again round (ih (by omega))

/-- Sweeping fully comes to an end with the elements in the body that had something lasting in
them at the start, in the order and the places that they had, and with all that is lasting. It
counts the elements that are gone, and another sweep finds none. -/
theorem sweepBodyFully_exact (document : Document) :
    let result := document.sweepBodyFully
    Sweeps document result ∧
    result.2.content = document.content.without (isBarren document) ∧
    result.2.body?.map Tree.id = document.body?.map Tree.id ∧
    result.2.bodyElements = document.bodyElements.filter document.content.lasts ∧
    (result.2.content.nodes none).Sublist (document.content.nodes none) ∧
    (∀ node ∈ document.content.nodes none, node.data.isLasting = true →
      node ∈ result.2.content.nodes none) ∧
    result.1 + result.2.content.elementIds.length = document.content.elementIds.length ∧
    result.2.sweepBody = (0, result.2) := by
  intro result
  have sweeps : Sweeps document result := sweeps_sweepRounds (Nat.lt_succ_self _)
  have content := sweeps.content
  have inside (id : NodeId) (barren : isBarren document id = true) :
      id ∈ document.bodyElements := mem_bodyElements_of_isBarren barren
  refine ⟨sweeps, content, Document.id_body?_without content inside, ?elements, ?sublist,
    fun node member lasting => ?lasting, sweeps.count, sweeps.stable⟩
  case elements =>
    rw [Document.bodyElements_without content inside
      fun upper barren lower element above => isBarren_of_above barren element above]
    refine List.filter_congr fun id below => ?_
    rw [isBarren, List.contains_iff_mem.mpr below, Bool.true_and, Bool.not_not]
  case sublist =>
    rw [content]
    exact nodes_without_sublist _ _ _
  case lasting =>
    rw [content]
    exact mem_nodes_without_of_isLasting document.content_distinct
      (fun id barren => lasts_of_isBarren barren) member lasting

theorem sweepBodyFully_exact_sample :
    let result := sample.sweepBodyFully
    let node : Node := ⟨some 5, 6, .text "old"⟩
    node ∈ sample.content.nodes none ∧ node.data.isLasting = true ∧
      node ∈ result.2.content.nodes none ∧ result.2.bodyElements = [5] ∧ result.1 = 2 := by
  intro result node
  obtain ⟨-, content, -, elements, -, lasting, count, -⟩ := sweepBodyFully_exact sample
  have member : node ∈ sample.content.nodes none := by decide
  have isLasting : node.data.isLasting = true := by decide
  have left : (sample.content.without (isBarren sample)).elementIds.length = 3 := by decide
  refine ⟨member, isLasting, lasting node member isLasting, elements.trans (by decide), ?_⟩
  rw [content, left] at count
  exact Nat.add_right_cancel count

end Removal

end MailQuote
