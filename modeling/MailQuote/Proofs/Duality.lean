import MailQuote.Proofs.Collection
import MailQuote.Proofs.Removal

namespace MailQuote

open Html

namespace Html.Forest

private theorem erase_appendTo (target : NodeId) (added forest : Forest) :
    (appendTo target added forest).erase target = forest.erase target := by
  induction forest with
  | nil => rfl
  | cons id data children rest ihChildren ihRest =>
      by_cases here : id = target
      · subst here
        rw [appendTo, erase_cons_self, erase_cons_self, ihRest]
      · have elsewhere : decide (id = target) = false := by simpa using here
        rw [appendTo, erase_cons_of_ne here, erase_cons_of_ne here, elsewhere,
          Bool.false_and, if_neg Bool.false_ne_true, ihChildren, ihRest]

private theorem erase_insertBefore {target : NodeId} {added : Forest} (mark : NodeId)
    (gone : added.erase target = .nil) (forest : Forest) :
    (insertBefore mark added forest).erase target = forest.erase target := by
  induction forest with
  | nil => rfl
  | cons id data children rest ihChildren ihRest =>
      have node : (Forest.cons id data (insertBefore mark added children)
          (insertBefore mark added rest)).erase target =
            (Forest.cons id data children rest).erase target := by
        by_cases here : id = target
        · subst here
          rw [erase_cons_self, erase_cons_self, ihRest]
        · rw [erase_cons_of_ne here, erase_cons_of_ne here, ihChildren, ihRest]
      rw [insertBefore]
      split
      · rw [erase_append, gone, node]
        rfl
      · exact node

private theorem erase_without (target : NodeId) (drop : NodeId → Bool) (forest : Forest) :
    (forest.without drop).erase target = (forest.erase target).without drop := by
  rw [erase, erase, without_without, without_without]
  exact without_congr fun id _ => Bool.or_comm _ _

end Html.Forest

namespace Html.Document

open Forest

/-- Moving a node into a container takes it out of what is outside of that. -/
theorem erase_content_append (document : Document) (container target : NodeId) :
    (document.append container target).content.erase container =
      (document.content.erase target).erase container := by
  unfold append
  split
  · exact erase_appendTo _ _ _
  · next absent =>
      rw [find?_eq_join, find?_eq_none, rows, join_cons, ids_append, List.mem_append,
        not_or] at absent
      rw [erase_eq_self absent.1]

private theorem erase_content_foldl_append (document : Document) (container : NodeId)
    (run : List NodeId) :
    (run.foldl (·.append container ·) document).content.erase container =
      (document.content.without run.contains).erase container := by
  induction run generalizing document with
  | nil => exact congrArg (·.erase container) (without_eq_self fun _ _ => rfl).symm
  | cons first run ih =>
      have both : (document.content.erase first).without run.contains =
          document.content.without (first :: run).contains := by
        rw [Forest.erase, without_without]
        exact without_congr fun id _ => by rw [List.contains_cons, BEq.comm]
      rw [List.foldl_cons, ih, erase_without, erase_content_append, ← erase_without, both]

/-- Folding away a run takes it out of what is outside of its disclosure. -/
theorem erase_content_wrapGroup (document : Document) (label : String) (first : NodeId)
    (others : List NodeId) :
    (document.wrapGroup label (first :: others)).content.erase document.next =
      document.content.without (first :: others).contains := by
  have fresh : document.next ∉ document.content.ids := fun member =>
    document.next_not_mem (by simp [rows, member])
  have inserted : ((document.addDisclosure label).2.insertBefore first
      document.next).content.erase document.next = document.content := by
    rw [content_insertBefore (document.find?_addDisclosure label),
      erase_insertBefore _ (erase_cons_self _ _ _ _)]
    change (document.content.erase document.next).erase document.next = _
    rw [erase_eq_self fresh, erase_eq_self fresh]
  exact (erase_content_foldl_append _ _ _).trans
    ((erase_without _ _ _).trans (congrArg _ inserted))

private theorem without_content_foldl_wrapGroup (label : String) (groups : List (List NodeId))
    (some : [] ∉ groups) (document : Document) :
    (groups.foldl (wrapGroup label) document).content.without
        (fun id => (Wrapping.numbered document.next groups).any fun run => run.1 == id) =
      document.content.without groups.flatten.contains := by
  induction groups generalizing document with
  | nil => rfl
  | cons group groups ih =>
      obtain ⟨first, others, rfl⟩ := List.exists_cons_of_ne_nil
        (fun none => some (none ▸ .head _) : group ≠ [])
      have step := ih (fun member => some (.tail _ member))
        (document.wrapGroup label (first :: others))
      rw [next_wrapGroup] at step
      calc
        _ = (((groups.foldl (wrapGroup label)
              (document.wrapGroup label (first :: others))).content.without fun id =>
                (Wrapping.numbered (document.next + 3) groups).any fun run =>
                  run.1 == id)).erase document.next := by
          rw [Forest.erase, without_without]
          refine without_congr fun id _ => ?_
          rw [Wrapping.numbered, List.any_cons, Bool.or_comm, BEq.comm]
        _ = ((document.wrapGroup label (first :: others)).content.erase
              document.next).without groups.flatten.contains := by
          rw [step, erase_without]
        _ = document.content.without ((first :: others) :: groups).flatten.contains := by
          rw [erase_content_wrapGroup, without_without]
          refine without_congr fun id _ => ?_
          rw [List.flatten_cons, Bool.eq_iff_iff]
          simp [or_assoc]

end Html.Document

namespace Wrapping

open Forest

def containers (original changed : Forest) : List NodeId :=
  ((changed.nodes none).filter fun node =>
    !original.ids.contains node.id && node.data.isDetails).map Node.id

theorem mem_containers {original changed : Forest} {container : NodeId} :
    container ∈ containers original changed ↔ IsContainer original changed container := by
  simp only [containers, List.mem_map, List.mem_filter, Bool.and_eq_true,
    Bool.not_eq_true', List.contains_eq_mem, decide_eq_false_iff_not]
  constructor
  · rintro ⟨node, ⟨member, isNew, details⟩, rfl⟩
    exact ⟨isNew, node.parent, node.data, member, details⟩
  · rintro ⟨isNew, parent, data, member, details⟩
    exact ⟨_, ⟨member, isNew, details⟩, rfl⟩

variable {document : Document} {set : NodeSet}

theorem without_content_wrap (document : Document) (set : NodeSet) (label : String) :
    (document.wrap set label).content.without
        (fun id => (numbered document.next (groups document set)).any fun run => run.1 == id) =
      document.content.without set.members.contains := by
  have nonempty : [] ∉ groups document set := List.nil_notMem_splitBy _ _
  have whole := Document.without_content_foldl_wrapGroup label (groups document set)
    nonempty document
  rwa [flatten_groups] at whole

/-- Without the new disclosures there is what there is without the quotes. -/
theorem without_containers (ordered : set.members.Sublist document.content.ids)
    (label : String) :
    let changed := (document.wrap set label).content
    changed.without (containers document.content changed).contains =
      document.content.without set.members.contains := by
  intro changed
  rw [← without_content_wrap document set label]
  refine without_congr fun id _ => ?_
  rw [Bool.eq_iff_iff, List.contains_iff_mem, mem_containers, isContainer_wrap ordered]
  simp

/-- A node is put into a disclosure just if removing the quotes removes it. -/
theorem below_container_iff (ordered : set.members.Sublist document.content.ids)
    (label : String) {node : NodeId} (member : node ∈ document.content.ids) :
    let changed := (document.wrap set label).content
    (∃ container ∈ containers document.content changed,
      container ∈ changed.ancestors node) ↔
        node ∉ (document.content.without set.members.contains).ids := by
  intro changed
  obtain ⟨origin, known, same⟩ := (mem_ids_iff_nodes none).mp member
  have stays : node ∈ changed.ids := by
    refine (mem_ids_iff_nodes none).mpr ⟨relocate (numbered document.next
      (groups document set)) origin, ?_, (id_relocate _ _).trans same⟩
    exact (nodes_wrap ordered _).mpr (.inl ⟨origin, known, rfl⟩)
  have isOld : node ∉ containers document.content changed := fun isNew =>
    (mem_containers.mp isNew).1 member
  have distinct := (document.wrap set label).content_distinct
  rw [← without_containers ordered label, mem_ids_without distinct]
  simp only [List.contains_eq_mem, decide_eq_false_iff_not]
  constructor
  · rintro ⟨container, isNew, above⟩ ⟨_, _, free⟩
    exact free container above isNew
  · intro gone
    by_contra free
    exact gone ⟨stays, isOld, fun upper above isNew => free ⟨upper, isNew, above⟩⟩

end Wrapping

namespace Request

theorem quotes_ofDocument (source : String) (document : Document) (handlers : List Handler)
    (options : Options) (mode : Mode) :
    let outcome := ofDocument source document handlers (options.withMode mode)
    let none := (collect document handlers options).isEmpty
    outcome.hadQuotes = !none ∧ outcome.method = if none then .none else some .handlers := by
  intro outcome none
  have sameQuotes : collect document handlers (options.withMode mode) =
      collect document handlers options := rfl
  simp only [outcome, none, ofDocument, sameQuotes]
  split
  · next isEmpty => simp [isEmpty, Outcome.unchanged]
  · next some => simp [some, Outcome.quoted]

end Request

namespace Duality

/-- Folding the quotes of a document away, taking the new disclosures out and
sweeping the body gives the body that removing the quotes gives. The disclosures have
in them just the nodes that are removed with the quotes, and all else is as it is
without them. Whether there are quotes, and by what they are recognized, is the
same either way. -/
theorem wrap_dual_remove (html : String) (handlers : List Handler) (options : Options)
    (stay : ∀ handler ∈ handlers, handler.rule.StaysIn (Document.parse html)) :
    let document := Document.parse html
    let quotes := collect document handlers options
    let wrapped := document.apply quotes .wrap options.label
    let containers := Wrapping.containers document.content wrapped.content
    let kept := document.detachAll quotes.members
    let folding := Request.htmlOutcome ⟨some html, none, options.withMode .wrap, handlers⟩
    let removing := Request.htmlOutcome
      ⟨some html, none, options.withMode .remove, handlers⟩
    (wrapped.detachAll containers).sweepBody.2.renderBody =
      (document.apply quotes .remove options.label).renderBody ∧
    (wrapped.detachAll containers).content = kept.content ∧
    (∀ node ∈ document.content.ids,
      (∃ container ∈ containers, container ∈ wrapped.content.ancestors node) ↔
        node ∉ kept.content.ids) ∧
    folding.hadQuotes = removing.hadQuotes ∧ folding.method = removing.method := by
  intro document quotes wrapped containers kept folding removing
  have ordered : quotes.members.Sublist document.content.ids := Collect.collect_sublist stay
  have content : (wrapped.detachAll containers).content = kept.content := by
    rw [Document.content_detachAll, Document.content_detachAll]
    exact Wrapping.without_containers ordered options.label
  have outcomes : folding.hadQuotes = removing.hadQuotes ∧
      folding.method = removing.method := by
    simp only [folding, removing, Request.htmlOutcome]
    split
    · exact ⟨rfl, rfl⟩
    · have folded := Request.quotes_ofDocument html document handlers options .wrap
      have removed := Request.quotes_ofDocument html document handlers options .remove
      exact ⟨folded.1.trans removed.1.symm, folded.2.trans removed.2.symm⟩
  refine ⟨?_, content, fun node member => ?_, outcomes⟩
  · exact Document.renderBody_congr (Document.content_sweepBody_congr content)
  · rw [Document.content_detachAll]
    exact Wrapping.below_container_iff ordered options.label member

theorem wrap_dual_remove_builtin :
    (∀ handler ∈ Handler.builtin, handler.rule.StaysIn
      (Document.parse "<p>Hi</p><div class=gmail_quote>old</div>")) ∧
    (Request.htmlOutcome ⟨some "<p>Hi</p><div class=gmail_quote>old</div>", none,
        Options.withMode {} .wrap, Handler.builtin⟩).hadQuotes =
      (Request.htmlOutcome ⟨some "<p>Hi</p><div class=gmail_quote>old</div>", none,
        Options.withMode {} .remove, Handler.builtin⟩).hadQuotes := by
  have stay := Handler.builtin_staysIn
    (Document.parse "<p>Hi</p><div class=gmail_quote>old</div>")
  have dual := wrap_dual_remove _ Handler.builtin {} stay
  exact ⟨stay, dual.2.2.2.1⟩

end Duality

end MailQuote
