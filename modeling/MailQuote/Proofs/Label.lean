import MailQuote.Proofs.Body
import MailQuote.Proofs.Builder.Parse
import MailQuote.Proofs.Label.Rendering

namespace MailQuote

open Html Wrapping

namespace Html.Document

variable {document : Document}

private theorem find?_of_alone (alone : document.loose = []) (target : NodeId) :
    document.find? target = document.content.find? target := by
  rw [find?, rows, alone, List.findSome?_cons]
  cases document.content.find? target <;> rfl

private theorem append_of_not_found {parent target : NodeId}
    (absent : document.find? target = none) :
    document.append parent target = document := by
  unfold append
  split
  · next found => cases absent.symm.trans found
  · rfl

private theorem loose_append (alone : document.loose = []) (parent target : NodeId) :
    (document.append parent target).loose = [] := by
  unfold append
  split
  · simp [erase, alone]
  · exact alone

private theorem loose_insertDisclosure (alone : document.loose = []) (mark : NodeId)
    (label : String) :
    ((document.addDisclosure label).2.insertBefore mark document.next).loose = [] := by
  unfold insertBefore
  split
  · have erased : (Wrapping.disclosure document.next label).erase document.next = .nil :=
      Forest.erase_cons_self _ _ _ _
    simp [erase, addDisclosure, alone, erased, Forest.isEmpty]
  · next absent => cases absent.symm.trans (document.find?_addDisclosure label)

end Html.Document

namespace Label

/-- Whether documents have been folded in the same way for every label, a number of
disclosures having been made. -/
structure Folded (first : NodeId) (count : Nat) (document : String → Document) : Prop where
  alone : ∀ label, (document label).loose = []
  next : ∀ label, (document label).next = first + 3 * count
  content : Labelled first fun label => (document label).content

/-- Whether a node is none of the nodes of a number of disclosures. -/
def IsApart (first : NodeId) (count : Nat) (id : NodeId) : Prop :=
  id < first ∨ first + 3 * count ≤ id

private theorem IsApart.of_le {first id : NodeId} {count count' : Nat}
    (apart : IsApart first count' id) (le : count ≤ count') : IsApart first count id :=
  apart.imp_right fun newer => Nat.le_trans (Nat.add_le_add_left (Nat.mul_le_mul_left 3 le) _)
    newer

namespace Folded

variable {first container mark target : NodeId} {count : Nat} {document : String → Document}

private theorem insertDisclosure (folded : Folded first count document)
    (apart : IsApart first count mark) :
    Folded first (count + 1) fun label =>
      ((document label).addDisclosure label).2.insertBefore mark (document label).next where
  alone label := Document.loose_insertDisclosure (folded.alone label) mark label
  next label := by
    rw [Document.next_insertBefore]
    change (document label).next + 3 = _
    rw [folded.next]
    exact Nat.add_assoc _ _ _
  content := by
    have inserted (label : String) :
        (((document label).addDisclosure label).2.insertBefore mark
          (document label).next).content =
            Forest.insertBefore mark (Wrapping.disclosure (first + 3 * count) label)
              (document label).content := by
      have fresh : (document label).next ∉ (document label).content.ids := fun member =>
        (document label).next_not_mem (by simp [Document.rows, member])
      rw [Document.content_insertBefore (Document.find?_addDisclosure _ label)]
      change Forest.insertBefore mark _ ((document label).content.erase _) = _
      rw [Forest.erase_eq_self fresh, ← folded.next label]
      rfl
    simp only [inserted]
    -- A mark that is not in the documents leaves the disclosure out of them.
    rcases apart with older | newer
    · exact folded.content.insertBefore older ⟨count, rfl⟩
    · have absent (label : String) : mark ∉ (document label).content.ids := fun member => by
        have below := (document label).content_sound.below mark member
        rw [folded.next] at below
        exact Nat.not_lt.mpr newer below
      simp only [Forest.insertBefore_eq_self _ (absent _)]
      exact folded.content

private theorem append (folded : Folded first count document) (made : IsMade first container)
    (apart : IsApart first count target) :
    Folded first count fun label => (document label).append container target where
  alone label := Document.loose_append (folded.alone label) _ _
  next label := (Document.next_append _ _ _).trans (folded.next label)
  content := by
    have unchanged (absent : ∀ label, (document label).content.find? target = none) :
        Labelled first fun label => ((document label).append container target).content := by
      have absent' (label : String) : (document label).find? target = none :=
        (Document.find?_of_alone (folded.alone label) target).trans (absent label)
      simp only [Document.append_of_not_found (absent' _)]
      exact folded.content
    rcases apart with older | newer
    · rcases folded.content.find? older with absent | ⟨tree, found, same⟩
      · exact unchanged absent
      · simp only [Document.content_append (same _)]
        refine (folded.content.without fun id isTarget => ?_).appendTo found made
        rwa [beq_iff_eq.mp isTarget]
    · refine unchanged fun label => Forest.find?_eq_none.mpr fun member => ?_
      have below := (document label).content_sound.below target member
      rw [folded.next] at below
      exact Nat.not_lt.mpr newer below

private theorem foldl_append (folded : Folded first count document) (made : IsMade first container)
    {run : List NodeId} (apart : ∀ id ∈ run, IsApart first count id) :
    Folded first count fun label => run.foldl (·.append container ·) (document label) := by
  induction run generalizing document with
  | nil => exact folded
  | cons target run ih =>
      obtain ⟨here, others⟩ := List.forall_mem_cons.mp apart
      exact ih (folded.append made here) others

private theorem wrapGroup (folded : Folded first count document) {mark : NodeId}
    {others : List NodeId} (apart : ∀ id ∈ mark :: others, IsApart first (count + 1) id) :
    Folded first (count + 1) fun label =>
      (document label).wrapGroup label (mark :: others) := by
  have same (label : String) : (document label).wrapGroup label (mark :: others) =
      (mark :: others).foldl (·.append (first + 3 * count) ·)
        (((document label).addDisclosure label).2.insertBefore mark (document label).next) := by
    rw [← folded.next label]
    rfl
  have before := (apart mark (.head _)).of_le (Nat.le_succ count)
  simp only [same]
  exact (folded.insertDisclosure before).foldl_append ⟨count, rfl⟩ apart

private theorem foldl_wrapGroup (folded : Folded first count document) {groups : List (List NodeId)}
    (some : [] ∉ groups)
    (apart : ∀ group ∈ groups, ∀ id ∈ group, IsApart first (count + groups.length) id) :
    Folded first (count + groups.length) fun label =>
      groups.foldl (Document.wrapGroup label) (document label) := by
  induction groups generalizing count document with
  | nil => exact folded
  | cons group groups ih =>
      obtain ⟨mark, others, rfl⟩ := List.exists_cons_of_ne_nil
        (fun none => some (none ▸ .head _) : group ≠ [])
      have sum : count + ((mark :: others) :: groups).length = count + 1 + groups.length := by
        rw [List.length_cons, Nat.add_right_comm, Nat.add_assoc]
      rw [sum] at apart ⊢
      have here := folded.wrapGroup fun id member =>
        (apart _ (.head _) id member).of_le (Nat.le_add_right _ _)
      exact ih here (fun member => some (.tail _ member)) fun group member =>
        apart group (.tail _ member)

end Folded

end Label

namespace Html.Document

private theorem mem_ids_settle (document : Document) (id : NodeId) :
    id ∈ document.settle.content.ids ↔ id < document.settle.next := by
  have ids : document.settle.content.ids = List.range' 0 document.content.size :=
    Forest.ids_renumber _ _
  have next : document.settle.next = 0 + document.content.size := Forest.renumber_next _ _
  rw [ids, next, List.mem_range'_1]
  exact and_iff_right (Nat.zero_le _)

end Html.Document

namespace Label

section Wrap

variable {document : Document} {set : NodeSet}

private theorem folded_wrap (alone : document.loose = []) (tidy : document.content.IsTidy)
    (apart : ∀ quote ∈ set.members,
      IsApart document.next (groups document set).length quote) :
    Folded document.next (groups document set).length fun label =>
      document.wrap set label := by
  have start : Folded document.next 0 fun _ => document :=
    ⟨fun _ => alone, fun _ => rfl,
      .of_forest tidy document.content_sound.wellNested document.content_sound.below⟩
  have some : [] ∉ groups document set := List.nil_notMem_splitBy _ _
  have sum : 0 + (groups document set).length = (groups document set).length :=
    Nat.zero_add _
  rw [← sum]
  refine start.foldl_wrapGroup some fun group known id member => ?_
  rw [sum]
  apply apart
  rw [← flatten_groups document set]
  exact List.mem_flatten_of_mem known member

/-- The body of a document whose quotes are folded away has the label once for each new
disclosure in it. -/
theorem Folded.exists_holed_body {first : NodeId} {count : Nat}
    {folded : String → Document} (isFolded : Folded first count folded) {original : Forest}
    (older : ∀ id, id ∈ original.ids ↔ id < first) :
    ∃ holes, (Holed holes fun label => (folded label).renderBody.toList) ∧
      ∀ label, (containers original (folded label).bodyContent).length = holes := by
  have body : Labelled first fun label => (folded label).bodyContent := by
    rcases isFolded.content.named? "body" (by decide) (by decide) with
      none | ⟨tree, labelled, same⟩
    · have whole (label : String) : (folded label).bodyContent = (folded label).content := by
        rw [Document.bodyContent, Document.body?, none]
      simp only [whole]
      exact isFolded.content
    · have inside (label : String) : (folded label).bodyContent = (tree label).children := by
        rw [Document.bodyContent, Document.body?, same]
      simp only [inside]
      exact labelled
  obtain ⟨holes, holed, counted⟩ := body.exists_holed older
  exact ⟨holes, holed false, fun label => (length_containers _ _).trans (counted label none)⟩

/-- Nothing in the body of a document is a new disclosure in it. -/
theorem containers_bodyContent (document : Document) :
    containers document.content document.bodyContent = [] := by
  rw [containers, List.map_eq_nil_iff, List.filter_eq_nil_iff]
  intro node member
  have inBody : node.id ∈ document.bodyContent.ids :=
    (Forest.mem_ids_iff_nodes none).mpr ⟨node, member, rfl⟩
  simp [document.ids_bodyContent_subset inBody]

private theorem wrap_of_isEmpty (none : set.isEmpty = true) (label : String) :
    document.wrap set label = document := by
  rw [Document.wrap, groups, List.isEmpty_iff.mp none, List.splitBy_nil]
  rfl

end Wrap

section Outcome

variable {source : String} {document : Document} {handlers : List Handler}
  {options : Options}

/-- The content of a document whose quotes are folded away has the label once for each
new disclosure in its body. -/
theorem exists_holed_ofDocument (source : String) (alone : document.loose = [])
    (tidy : document.content.IsTidy)
    (settled : ∀ id, id ∈ document.content.ids ↔ id < document.next)
    (apart : ∀ quote ∈ (collect document handlers options).members, IsApart document.next
      (groups document (collect document handlers options)).length quote) :
    ∃ holes, (Holed holes fun label => (Request.ofDocument source document handlers
        ((options.withMode .wrap).withLabel label)).content.toList) ∧
      ∀ label, (containers document.content
        (document.wrap (collect document handlers options) label).bodyContent).length =
          holes := by
  cases none : (collect document handlers options).isEmpty with
  | true =>
      have content (label : String) : (Request.ofDocument source document handlers
          ((options.withMode .wrap).withLabel label)).content = trimmed source :=
        congrArg Outcome.content (if_pos none)
      simp only [content, wrap_of_isEmpty none, containers_bodyContent]
      exact ⟨0, .plain _, fun _ => rfl⟩
  | false =>
      have content (label : String) : (Request.ofDocument source document handlers
          ((options.withMode .wrap).withLabel label)).content.toList =
            Text.trim (document.wrap (collect document handlers options)
              label).renderBody.toList :=
        (congrArg (String.toList ∘ Outcome.content)
          (if_neg (Bool.eq_false_iff.mp none))).trans String.toList_ofList
      obtain ⟨holes, holed, counted⟩ :=
        (folded_wrap alone tidy apart).exists_holed_body settled
      simp only [content]
      exact ⟨holes, holed.trim, counted⟩

end Outcome

/-- The label of folded quotes is inert. The content consists of fixed pieces with the
escaped label between them, once for each new disclosure in the body that is written: the
piece before it ends with the start tags of a disclosure and its summary, and the piece
after it begins with the end tag of the summary. The escaped label has no angle brackets,
and decoding its character references gives the label. For any two labels there are the
same nodes in the folded document, but for the text of new nodes.

The nodes that the handlers find are none of those of the disclosures, which are made
after the handlers have run. -/
theorem htmlOutcome_label (html : String) (handlers : List Handler) (options : Options)
    (apart : ∀ quote ∈ (collect (Document.parse html) handlers options).members,
      IsApart (Document.parse html).next (groups (Document.parse html)
        (collect (Document.parse html) handlers options)).length quote) :
    let document := Document.parse html
    let quotes := collect document handlers options
    let outcome (label : String) := Request.htmlOutcome
      ⟨some html, none, (options.withMode .wrap).withLabel label, handlers⟩
    let wrapped (label : String) := document.wrap quotes label
    (∃ first others,
      (∀ label, (outcome label).content.toList = fill first others label) ∧
      (first :: others).IsChain (fun before after =>
        opening <:+ before ∧ closing <+: after) ∧
      ∀ label, others.length = if isBlankText html then 0
        else (containers document.content (wrapped label).bodyContent).length) ∧
    (∀ label, '<' ∉ escaped label ∧ '>' ∉ escaped label ∧
      CharRef.decode (escaped label) = label.toList) ∧
    ∀ label label',
      (outcome label).hadQuotes = (outcome label').hadQuotes ∧
      (outcome label).method = (outcome label').method ∧
      (wrapped label').content.nodes none =
        ((wrapped label).content.nodes none).map (relabel document.content label') := by
  intro document quotes outcome wrapped
  have settled : ∀ id, id ∈ document.content.ids ↔ id < document.next :=
    Document.mem_ids_settle _
  have alone : document.loose = [] := rfl
  have tidy : document.content.IsTidy := Document.isTidy_parse html
  refine ⟨?pieces, fun label => ?escaped, fun label label' => ?same⟩
  case pieces =>
    cases blank : isBlankText html with
    | true =>
        have content (label : String) : (outcome label).content.toList = [] := by
          simp only [outcome, Request.htmlOutcome, blank, if_pos]
          rfl
        exact ⟨[], [], content, .singleton _, fun _ => rfl⟩
    | false =>
        obtain ⟨holes, holed, counted⟩ :=
          exists_holed_ofDocument html alone tidy settled apart
        obtain ⟨first, others, length, chain, same⟩ := holed.exists_pieces
        refine ⟨first, others, fun label => ?_, chain, fun label =>
          length.trans (counted label).symm⟩
        simp only [outcome, Request.htmlOutcome, blank, if_neg Bool.false_ne_true]
        exact same label
  case escaped =>
    obtain ⟨left, right⟩ := bracket_not_mem_renderText label
    exact ⟨left, right, decode_renderText label⟩
  case same =>
    have quoted (label : String) := Request.quotes_ofDocument html document handlers
      (options.withLabel label) .wrap
    have nodes := (folded_wrap alone tidy apart).content.nodes_eq_map settled label label' none
    cases blank : isBlankText html with
    | true =>
        simp only [outcome, Request.htmlOutcome, blank, if_pos, true_and]
        exact nodes
    | false =>
        simp only [outcome, Request.htmlOutcome, blank, if_neg Bool.false_ne_true]
        exact ⟨(quoted label).1.trans (quoted label').1.symm,
          (quoted label).2.trans (quoted label').2.symm, nodes⟩

private theorem isApart_of_staysIn {document : Document} {handlers : List Handler}
    (stay : ∀ handler ∈ handlers, handler.rule.StaysIn document) (options : Options)
    (count : Nat) {quote : NodeId}
    (member : quote ∈ (collect document handlers options).members) :
    IsApart document.next count quote :=
  .inl (document.content_sound.below quote ((Collect.collect_sublist stay).subset member))

/-- With one quote there is one place for the label. -/
theorem htmlOutcome_label_builtin :
    let html := "<p>Hi</p><div class=gmail_quote>old</div>"
    let document := Document.parse html
    let quotes := collect document Handler.builtin {}
    let outcome (label : String) := Request.htmlOutcome
      ⟨some html, none, (Options.withMode {} .wrap).withLabel label, Handler.builtin⟩
    (∀ quote ∈ quotes.members,
      IsApart document.next (groups document quotes).length quote) ∧
    ∃ before after, opening <:+ before ∧ closing <+: after ∧
      ∀ label, (outcome label).content.toList = before ++ (escaped label ++ after) := by
  intro html document quotes outcome
  have stay := Handler.builtin_staysIn document
  have apart : ∀ quote ∈ quotes.members,
      IsApart document.next (groups document quotes).length quote :=
    fun quote member => isApart_of_staysIn stay {} _ member
  refine ⟨apart, ?_⟩
  obtain ⟨⟨first, others, content, chain, length⟩, -⟩ :=
    htmlOutcome_label html Handler.builtin {} apart
  have single : others.length = 1 := (length "").trans (by decide +kernel)
  obtain ⟨last, rfl⟩ := List.length_eq_one_iff.mp single
  obtain ⟨ends, begins⟩ := List.isChain_pair.mp chain
  refine ⟨first, last, ends, begins, fun label => ?_⟩
  rw [content, fill, List.flatMap_singleton]

end Label

end MailQuote
