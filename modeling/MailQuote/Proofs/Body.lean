import MailQuote.Proofs.NodeSet
import MailQuote.Proofs.Removal
import MailQuote.Request

namespace MailQuote

open Html

namespace Html.Document

open Forest

theorem ids_bodyContent_subset (document : Document) :
    document.bodyContent.ids ⊆ document.content.ids := by
  rw [bodyContent]
  split
  · next body named =>
      exact (ids_children_sublist (find?_of_named? document.content_distinct named)).subset
  · exact List.Subset.refl _

end Html.Document

namespace Removal

open Forest

variable {document : Document} {set : NodeSet} {body : Tree}

private theorem nodes_bodyContent_remove (named : document.body? = some body)
    (apart : body.id ∉ set.members)
    (above : ∀ upper ∈ document.content.ancestors body.id, upper ∉ set.members) :
    ((document.remove set).bodyContent.nodes (some body.id)).Sublist
      (body.children.nodes (some body.id)) := by
  obtain ⟨drop, content, swept⟩ := content_remove named apart above
  have distinct := (document.content_sound.without set.members.contains).distinct
  have distinct' := (ids_without_sublist drop _).nodup distinct
  obtain ⟨last, found, same⟩ := Option.map_eq_some_iff.mp (named?_sweep named apart above swept)
  have remains := mem_of_find? (find?_of_named? distinct' found)
  have named' := named?_without document.content_distinct named (body_stays named apart above)
  have named'' := named?_without distinct named' (same ▸ remains)
  have bodyContent : (document.remove set).bodyContent =
      (body.children.without set.members.contains).without drop := by
    rw [Document.bodyContent, Document.body?, content, named'']
  rw [bodyContent]
  exact (nodes_without_sublist _ _ _).trans (nodes_without_sublist _ _ _)

/-- With the body, or with a node that it lies below, all goes that lies in the body. -/
theorem not_mem_bodyContent_remove (named : document.body? = some body)
    (quoted : ∃ upper ∈ body.id :: document.content.ancestors body.id, upper ∈ set.members)
    {node : NodeId} (member : node ∈ (document.remove set).bodyContent.ids) :
    node ≠ body.id ∧ node ∉ body.children.ids := by
  have distinct := document.content_distinct
  have stays := Document.ids_bodyContent_subset _ member
  rw [Document.remove, Document.content_sweepBody, Document.content_detachAll] at stays
  obtain ⟨-, free, free'⟩ := (mem_ids_without distinct).mp
    ((ids_without_sublist _ _).subset stays)
  simp only [List.contains_eq_mem, decide_eq_false_iff_not] at free free'
  obtain ⟨upper, around, quote⟩ := quoted
  constructor
  · rintro rfl
    rcases List.mem_cons.mp around with rfl | above
    · exact free quote
    · exact free' upper above quote
  · intro below
    have found := find?_of_named? distinct named
    have inBody : body.id ∈ document.content.ancestors node :=
      (mem_ancestors distinct).mpr ⟨body, found, below⟩
    rcases List.mem_cons.mp around with rfl | above
    · exact free' _ inBody quote
    · have further := (ancestors_isPrefix distinct inBody).subset (List.mem_append_left _ above)
      exact free' upper further quote

end Removal

namespace Wrapping

open Forest

private theorem Keeps.named_body {before after : Forest} {body : Tree} (keeps : Keeps before after)
    (distinct : before.ids.Nodup) (distinct' : after.ids.Nodup)
    (named : before.named? "body" = some body) :
    ∃ body', after.named? "body" = some body' ∧ body'.id = body.id ∧
      ∀ node ∈ before.ids, node ∈ body'.children.ids ↔ node ∈ body.children.ids := by
  have same := keeps.named "body" (by decide) (by decide)
  rw [named] at same
  obtain ⟨body', named', same⟩ := Option.map_eq_some_iff.mp same
  have found := find?_of_named? distinct named
  have found' := same ▸ find?_of_named? distinct' named'
  refine ⟨body', named', same, fun node member => ?_⟩
  have above := keeps.ancestors body.id (mem_of_find? found) node member
  rw [mem_ancestors distinct, mem_ancestors distinct', found, found'] at above
  simpa using above

/-- A node that is folded away below another one is folded away there, too, as the
disclosure is new. -/
theorem IsFolded.below {original forest : Forest} {upper quote : NodeId} {tree : Tree}
    (folded : IsFolded original (forest.nodes none) quote) (distinct : forest.ids.Nodup)
    (isOld : upper ∈ original.ids) (found : forest.find? upper = some tree)
    (below : quote ∈ tree.children.ids) :
    IsFolded original (tree.children.nodes (some upper)) quote := by
  obtain ⟨container, parent, data, isNew, isContainer, isQuote⟩ := folded
  have inside := (nodes_of_find? found none).2
  have partDistinct := (ids_children_sublist found).nodup distinct
  have known {node : Node} (member : node ∈ forest.nodes none)
      (part : node.id ∈ tree.children.ids) : node ∈ tree.children.nodes (some upper) := by
    obtain ⟨other, member', same⟩ := (mem_ids_iff_nodes (some upper)).mp part
    exact nodes_unique distinct (inside member') member same ▸ member'
  have isQuote' := known isQuote below
  have above : container ∈ tree.children.ancestors quote := by
    refine (parent_mem_ancestors partDistinct isQuote' rfl).resolve_left fun same => ?_
    exact isNew (Option.some.inj same ▸ isOld)
  have isContainer' := known isContainer ((ancestors_sublist_ids _ _).subset above)
  exact ⟨container, parent, data, isNew, isContainer', isQuote'⟩

end Wrapping

namespace Body

open Forest

private theorem content_ofDocument (source : String) (document : Document) (handlers : List Handler)
    (options : Options)
    (hadQuotes : (Request.ofDocument source document handlers options).hadQuotes = true) :
    (Request.ofDocument source document handlers options).content =
      trimmed (document.apply (collect document handlers options) options.mode
        options.label).bodyContent.render := by
  simp only [Request.ofDocument] at hadQuotes ⊢
  split
  · next none =>
      rw [if_pos none] at hadQuotes
      cases hadQuotes
  · rfl

variable {document : Document} {body : Tree}

private theorem wrap_body (named : document.body? = some body) (alone : document.loose = [])
    (set : NodeSet) (label : String) :
    let result := document.wrap (set.sort document) label
    result.body?.map Tree.id = some body.id ∧
    (∀ node ∈ document.content.ids,
      node ∈ result.bodyContent.ids ↔ node ∈ body.children.ids) ∧
    ∀ quote ∈ (set.sort document).members, quote ∈ body.children.ids →
      Wrapping.IsFolded document.content (result.bodyContent.nodes (some body.id)) quote := by
  intro result
  have distinct := document.content_distinct
  have keeps := Wrapping.keeps_wrap alone set label
  obtain ⟨body', named', same, below⟩ := keeps.named_body distinct result.content_distinct named
  have content : result.bodyContent = body'.children := by
    rw [Document.bodyContent, Document.body?, named']
  have found := find?_of_named? distinct named
  have found' := find?_of_named? result.content_distinct named'
  rw [content]
  refine ⟨?_, below, fun quote member inBody => ?_⟩
  · rw [Document.body?, named', Option.map_some, same]
  · have inside := (ids_children_sublist found).subset inBody
    have folded := Wrapping.isFolded_wrap alone set label member inside
    exact folded.below result.content_distinct (mem_of_find? found) (same ▸ found')
      ((below quote inside).mpr inBody)

/-- When a document with a body has quotes, the content of the result is that of the body
of the changed document. Where quotes are removed, this has nothing in it but nodes that
were in the body before; if a quote is the body or is around it, it has none of these.
Where quotes are folded away, the body is the one that there was before, it has its nodes
in it, and each quote in the body is in a new disclosure in it. -/
theorem htmlOutcome_content (html : String) (handlers : List Handler) (options : Options)
    (body : Tree) (named : (Document.parse html).body? = some body) :
    let document := Document.parse html
    let quotes := collect document handlers options
    let around := body.id :: document.content.ancestors body.id
    let outcome := Request.htmlOutcome ⟨some html, none, options, handlers⟩
    let result := document.apply quotes options.mode options.label
    (outcome.hadQuotes = true → outcome.content = trimmed result.bodyContent.render) ∧
    (options.mode = .remove →
      ((∀ upper ∈ around, upper ∉ quotes.members) →
        (result.bodyContent.nodes (some body.id)).Sublist
          (body.children.nodes (some body.id))) ∧
      ((∃ upper ∈ around, upper ∈ quotes.members) →
        ∀ node ∈ result.bodyContent.ids, node ≠ body.id ∧ node ∉ body.children.ids)) ∧
    (options.mode = .wrap →
      result.body?.map Tree.id = some body.id ∧
      (∀ node ∈ document.content.ids,
        node ∈ result.bodyContent.ids ↔ node ∈ body.children.ids) ∧
      (∀ quote ∈ quotes.members, quote ∈ document.content.ids →
        Wrapping.IsFolded document.content (result.content.nodes none) quote) ∧
      ∀ quote ∈ quotes.members, quote ∈ body.children.ids →
        Wrapping.IsFolded document.content (result.bodyContent.nodes (some body.id))
          quote) := by
  intro document quotes around outcome result
  refine ⟨?content, ?removing, ?folding⟩
  case content =>
    intro hadQuotes
    simp only [outcome, Request.htmlOutcome] at hadQuotes ⊢
    split
    · next blank =>
        rw [if_pos blank] at hadQuotes
        cases hadQuotes
    · next some =>
        rw [if_neg some] at hadQuotes
        exact content_ofDocument html document handlers options hadQuotes
  case removing =>
    intro isRemove
    have changed : result = document.remove quotes := by
      simp only [result, isRemove, Document.apply]
    rw [changed]
    constructor
    · intro apart
      obtain ⟨notBody, above⟩ := List.forall_mem_cons.mp apart
      exact Removal.nodes_bodyContent_remove named notBody above
    · intro quoted node member
      exact Removal.not_mem_bodyContent_remove named quoted member
  case folding =>
    intro isWrap
    have changed : result = document.wrap quotes options.label := by
      simp only [result, isWrap, Document.apply]
    have alone : document.loose = [] := rfl
    have sorted : quotes = (Collect.withinDepth document
        (Collect.eligible document handlers options) options.depth).sort document := rfl
    rw [changed, sorted]
    obtain ⟨same, below, inBody⟩ := wrap_body named alone _ options.label
    exact ⟨same, below, fun quote => Wrapping.isFolded_wrap alone _ options.label, inBody⟩

theorem htmlOutcome_content_sample :
    let html := "<p>Hi</p><div class=gmail_quote>old</div>"
    let handlers : List Handler := [⟨"gmail", ".gmail_quote", .select⟩]
    let options : Options := { mode := .wrap }
    let document := Document.parse html
    let quotes := collect document handlers options
    let result := document.apply quotes options.mode options.label
    ∃ body, document.body? = some body ∧ options.mode = .wrap ∧ 5 ∈ quotes.members ∧
      Wrapping.IsFolded document.content (result.bodyContent.nodes (some body.id)) 5 := by
  intro html handlers options document quotes result
  let body : Tree := ⟨2, .element ⟨.html, "body"⟩ [],
    .cons 3 (.element ⟨.html, "p"⟩ []) (.cons 4 (.text "Hi") .nil .nil)
      (.cons 5 (.element ⟨.html, "div"⟩ [⟨⟨.plain, "class"⟩, "gmail_quote"⟩])
        (.cons 6 (.text "old") .nil .nil) .nil)⟩
  have named : document.body? = some body := by decide
  have quote : 5 ∈ quotes.members := by decide +kernel
  obtain ⟨-, -, folding⟩ := htmlOutcome_content html handlers options body named
  obtain ⟨-, -, -, inBody⟩ := folding rfl
  exact ⟨body, named, rfl, quote, inBody 5 quote (by decide)⟩

/-- A body that is a quote is looked up in vain after it is removed, so that what was
around it is the content. After it is folded away it is found in the disclosure, which
is not in the content. -/
theorem htmlOutcome_content_of_quoted_body :
    let html := "<body class=gmail_quote>Hi</body>"
    let handlers : List Handler := [⟨"gmail", ".gmail_quote", .select⟩]
    let outcome (mode : Mode) :=
      Request.htmlOutcome ⟨some html, none, Options.withMode {} mode, handlers⟩
    let document := Document.parse html
    let quotes := collect document handlers {}
    let removed := document.apply quotes .remove defaultLabel
    let wrapped := document.apply quotes .wrap defaultLabel
    (∃ body, document.body? = some body ∧ body.id ∈ quotes.members) ∧
      outcome .remove = .quoted "<html></html>" .handlers ∧ removed.bodyContent ≠ .nil ∧
      outcome .wrap = .quoted "Hi" .handlers ∧
      ∀ node ∈ wrapped.bodyContent.nodes none, node.data ≠ Wrapping.disclosureData := by
  intro html handlers outcome document quotes removed wrapped
  let body : Tree := ⟨2, .element ⟨.html, "body"⟩ [⟨⟨.plain, "class"⟩, "gmail_quote"⟩],
    .cons 3 (.text "Hi") .nil .nil⟩
  have named : document.body? = some body := by decide
  have quoted : body.id ∈ quotes.members := by decide +kernel
  refine ⟨⟨body, named, quoted⟩, ?removing, ?rest, ?folding, ?free⟩
  case removing => decide +kernel
  case rest => decide +kernel
  case folding => decide +kernel
  case free => decide +kernel

end Body

end MailQuote
