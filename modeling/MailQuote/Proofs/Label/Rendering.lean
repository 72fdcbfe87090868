import Mathlib.Data.List.Chain
import Mathlib.Tactic.SplitIfs
import MailQuote.Proofs.Builder.Document
import MailQuote.Proofs.Duality
import MailQuote.Proofs.Text

namespace MailQuote

namespace Html

namespace CharRef

/-- What the character reference whose ampersand has been read stands for, if there is
one, and the text after it. -/
def decode? (text : List Char) : Option (List Char × List Char) :=
  match text with
  | '#' :: 'x' :: rest => (numbered? 16 isHexDigit rest).map (·.map chars id)
  | '#' :: 'X' :: rest => (numbered? 16 isHexDigit rest).map (·.map chars id)
  | '#' :: rest => (numbered? 10 Char.isDigit rest).map (·.map chars id)
  | _ => (named? text).map fun found => (found.chars, found.rest)

/-- A text with its character references decoded, some characters of which belong to a
reference that has been decoded already. -/
def decodeAfter : (skipped : Nat) → List Char → List Char
  | _, [] => []
  | skipped + 1, _ :: rest => decodeAfter skipped rest
  | 0, c :: rest =>
      if c = '&' then
        match decode? rest with
        | some (decoded, after) => decoded ++ decodeAfter (rest.length - after.length) rest
        | none => c :: decodeAfter 0 rest
      else c :: decodeAfter 0 rest

def decode (text : List Char) : List Char :=
  decodeAfter 0 text

private theorem decodeAfter_append (skipped rest : List Char) :
    decodeAfter skipped.length (skipped ++ rest) = decode rest := by
  induction skipped with
  | nil => rfl
  | cons c skipped ih => exact ih

private theorem decode_reference {reference decoded rest : List Char}
    (known : decode? (reference ++ rest) = some (decoded, rest)) :
    decode ('&' :: (reference ++ rest)) = decoded ++ decode rest := by
  have length : (reference ++ rest).length - rest.length = reference.length := by simp
  rw [decode, decodeAfter, if_pos rfl, known]
  change decoded ++ decodeAfter _ _ = _
  rw [length, decodeAfter_append]

private theorem decode_plain {c : Char} (plain : c ≠ '&') (rest : List Char) :
    decode (c :: rest) = c :: decode rest := by
  rw [decode, decodeAfter, if_neg plain]
  rfl

end CharRef

/-- An escaped character is a reference that stands for it, or the character itself,
which is then neither an ampersand nor an angle bracket. -/
theorem escapeText_cases (c : Char) :
    (∃ reference, escapeText c = '&' :: reference ∧ '<' ∉ reference ∧ '>' ∉ reference ∧
      ∀ rest, CharRef.decode? (reference ++ rest) = some ([c], rest)) ∨
    (escapeText c = [c] ∧ c ≠ '&' ∧ c ≠ '<' ∧ c ≠ '>') := by
  unfold escapeText
  split_ifs with ampersand space opening closing
  · exact .inl ⟨_, rfl, by decide, by decide, fun _ => ampersand ▸ rfl⟩
  · exact .inl ⟨_, rfl, by decide, by decide, fun _ => space ▸ rfl⟩
  · exact .inl ⟨_, rfl, by decide, by decide, fun _ => opening ▸ rfl⟩
  · exact .inl ⟨_, rfl, by decide, by decide, fun _ => closing ▸ rfl⟩
  · exact .inr ⟨rfl, ampersand, opening, closing⟩

private theorem decode_escapeText (c : Char) (rest : List Char) :
    CharRef.decode (escapeText c ++ rest) = c :: CharRef.decode rest := by
  rcases escapeText_cases c with ⟨reference, equality, -, -, known⟩ | ⟨equality, plain, -⟩
  · rw [equality, List.cons_append, CharRef.decode_reference (known rest)]
    rfl
  · rw [equality]
    exact CharRef.decode_plain plain rest

private theorem bracket_not_mem_escapeText (c : Char) :
    '<' ∉ escapeText c ∧ '>' ∉ escapeText c := by
  rcases escapeText_cases c with ⟨reference, equality, left, right, -⟩ |
    ⟨equality, -, left, right⟩
  · simp [equality, left, right]
  · simp [equality, Ne.symm left, Ne.symm right]

theorem decode_renderText (content : String) :
    CharRef.decode (renderText content).toList = content.toList := by
  rw [renderText, String.toList_ofList]
  induction content.toList with
  | nil => rfl
  | cons c rest ih => rw [List.flatMap_cons, decode_escapeText, ih]

theorem bracket_not_mem_renderText (content : String) :
    '<' ∉ (renderText content).toList ∧ '>' ∉ (renderText content).toList := by
  rw [renderText, String.toList_ofList]
  constructor
  · intro member
    obtain ⟨c, -, inside⟩ := List.mem_flatMap.mp member
    exact (bracket_not_mem_escapeText c).1 inside
  · intro member
    obtain ⟨c, -, inside⟩ := List.mem_flatMap.mp member
    exact (bracket_not_mem_escapeText c).2 inside

end Html

open Html

namespace Label

def escaped (label : String) : List Char :=
  (renderText label).toList

/-- The text before each label. -/
def opening : List Char :=
  "<details class=\"quoted-content\"><summary>".toList

/-- The text after each label. -/
def closing : List Char :=
  "</summary>".toList

/-- Whether a text has a label at a number of places. -/
inductive Holed : Nat → (String → List Char) → Prop
  | plain (piece : List Char) : Holed 0 fun _ => piece
  | hole {count : Nat} {rest : String → List Char} (piece : List Char)
      (others : Holed count rest) :
      Holed (count + 1) fun label =>
        piece ++ (opening ++ (escaped label ++ (closing ++ rest label)))

/-- The text whose first piece is followed by other pieces, with the label before each
of these. -/
def fill (first : List Char) (others : List (List Char)) (label : String) : List Char :=
  first ++ others.flatMap fun piece => escaped label ++ piece

namespace Holed

variable {count count' : Nat} {text text' : String → List Char}

private theorem prepend (before : List Char) (holed : Holed count text) :
    Holed count fun label => before ++ text label := by
  cases holed with
  | plain piece => exact .plain _
  | hole piece others =>
      simp only [← List.append_assoc before]
      exact .hole _ others

private theorem append (holed : Holed count text) (holed' : Holed count' text') :
    Holed (count + count') fun label => text label ++ text' label := by
  induction holed with
  | plain piece =>
      rw [Nat.zero_add]
      exact holed'.prepend piece
  | hole piece others ih =>
      simp only [List.append_assoc, Nat.add_right_comm _ 1]
      exact .hole piece ih

private theorem trimStart (holed : Holed count text) :
    Holed count fun label => Text.trimStart (text label) := by
  cases holed with
  | plain piece => exact .plain _
  | hole piece others =>
      cases blank : Text.allBlank piece with
      | true =>
          simp only [Text.trimStart_append_of_allBlank blank]
          exact .hole [] others
      | false =>
          simp only [Text.trimStart_append_of_visible blank]
          exact .hole _ others

private theorem endsVisibly_append_closing (before : List Char) :
    Text.EndsVisibly (before ++ closing) := by
  intro c last
  rw [List.getLast?_append] at last
  cases last
  rfl

private theorem trimEnd (holed : Holed count text) :
    Holed count fun label => Text.trimEnd (text label) := by
  induction holed with
  | plain piece => exact .plain _
  | @hole count rest piece others ih =>
      have inside (label : String) :
          Text.trimEnd (piece ++ (opening ++ (escaped label ++ (closing ++ rest label)))) =
            piece ++ (opening ++ (escaped label ++
              (closing ++ Text.trimEnd (rest label)))) := by
        have visible := endsVisibly_append_closing (piece ++ (opening ++ escaped label))
        have ends := Text.trimEnd_append_of_endsVisibly visible (rest label)
        simpa only [List.append_assoc] using ends
      simp only [inside]
      exact .hole piece ih

theorem trim (holed : Holed count text) :
    Holed count fun label => Text.trim (text label) :=
  holed.trimStart.trimEnd

/-- Such a text consists of fixed pieces, with a label between any two of them. -/
theorem exists_pieces (holed : Holed count text) :
    ∃ first others, others.length = count ∧
      (first :: others).IsChain (fun before after =>
        opening <:+ before ∧ closing <+: after) ∧
      ∀ label, text label = fill first others label := by
  induction holed with
  | plain piece => exact ⟨piece, [], rfl, .singleton _, fun _ => (List.append_nil _).symm⟩
  | hole piece others ih =>
      obtain ⟨first, pieces, length, chain, same⟩ := ih
      refine ⟨piece ++ opening, (closing ++ first) :: pieces, congrArg (· + 1) length, ?_,
        fun label => ?_⟩
      · rw [List.isChain_cons_cons]
        refine ⟨⟨List.suffix_append _ _, List.prefix_append _ _⟩, ?_⟩
        rw [List.isChain_cons] at chain ⊢
        refine ⟨fun next known => ?_, chain.2⟩
        obtain ⟨ends, begins⟩ := chain.1 next known
        exact ⟨ends.trans (List.suffix_append _ _), begins⟩
      · simp only [same, fill, List.flatMap_cons, List.append_assoc]

end Holed

end Label

/-! Forests with disclosures whose label is left open. Changes that do not look at the
text of a node change them in the same way for every label. -/

open Html Wrapping

namespace Label

/-- Whether a node may not have children: it is no element, or one without an end tag. -/
def IsLeaf (data : NodeData) : Prop :=
  data.isElement = false ∨ data.isUnclosed = true

/-- Whether a node is a disclosure when the nodes of disclosures are numbered from a
given identifier on. -/
def IsMade (first container : NodeId) : Prop :=
  ∃ index : Nat, container = first + 3 * index

/-- Forests that are the same for every label, but for the labels of disclosures. The
nodes of disclosures are numbered from a given identifier on, and all others below it. -/
inductive Labelled (first : NodeId) : (String → Forest) → Prop
  | nil : Labelled first fun _ => .nil
  | kept {id : NodeId} {data : NodeData} {children rest : String → Forest}
      (older : id < first) (childless : IsLeaf data → ∀ label, children label = .nil)
      (inside : Labelled first children) (after : Labelled first rest) :
      Labelled first fun label => .cons id data (children label) (rest label)
  | disclosure {container : NodeId} {inner rest : String → Forest}
      (made : IsMade first container) (inside : Labelled first inner)
      (after : Labelled first rest) :
      Labelled first fun label => .cons container disclosureData
        (summary container label ++ inner label) (rest label)

section Made

variable {first container container' : NodeId}

private theorem IsMade.ne (made : IsMade first container) {id : NodeId} (older : id < first)
    (offset : Nat) : container + offset ≠ id := by
  obtain ⟨index, rfl⟩ := made
  rw [Nat.add_assoc]
  exact Nat.ne_of_gt (Nat.lt_add_right _ older)

private theorem IsMade.add_ne (made : IsMade first container) (made' : IsMade first container')
    {offset : Nat} (inside : offset = 1 ∨ offset = 2) : container + offset ≠ container' := by
  obtain ⟨index, rfl⟩ := made
  obtain ⟨index', rfl⟩ := made'
  have apart (first : Nat) : first + 3 * index + offset ≠ first + 3 * index' := by omega
  exact apart first

end Made

private theorem isElement_disclosureData : disclosureData.isElement = true := rfl

private theorem appendTo_summary {container target : NodeId} (apart : container + 1 ≠ target)
    (apart' : container + 2 ≠ target) (label : String) (added inner : Forest) :
    Forest.appendTo target added (summary container label ++ inner) =
      summary container label ++ Forest.appendTo target added inner := by
  simp [summary, Forest.appendTo, apart, apart']

namespace Labelled

variable {first target : NodeId} {forest added : String → Forest}

theorem of_forest {forest : Forest} (tidy : forest.IsTidy) (nested : forest.WellNested)
    (older : ∀ id ∈ forest.ids, id < first) : Labelled first fun _ => forest := by
  induction forest with
  | nil => exact .nil
  | cons id data children rest ihChildren ihRest =>
      simp only [Forest.ids_cons, List.mem_cons, List.mem_append] at older
      refine .kept (older id (.inl rfl)) (fun leaf _ => ?_)
        (ihChildren tidy.2.1 nested.2.1 fun id member => older id (.inr (.inl member)))
        (ihRest tidy.2.2 nested.2.2 fun id member => older id (.inr (.inr member)))
      rcases leaf with isNone | unclosed
      · exact nested.1.resolve_left (Bool.eq_false_iff.mp isNone)
      · exact tidy.1 unclosed

private theorem append (labelled : Labelled first forest) (labelled' : Labelled first added) :
    Labelled first fun label => forest label ++ added label := by
  induction labelled with
  | nil => exact labelled'
  | kept older childless inside _ _ ih => exact .kept older childless inside ih
  | disclosure made inside _ _ ih => exact .disclosure made inside ih

theorem insertBefore (labelled : Labelled first forest) {mark container : NodeId}
    (older : mark < first) (made : IsMade first container) :
    Labelled first fun label =>
      Forest.insertBefore mark (Wrapping.disclosure container label) (forest label) := by
  induction labelled with
  | nil => exact .nil
  | @kept id data children rest older' childless inside after ihChildren ihRest =>
      have node := Labelled.kept older' (fun leaf label => by rw [childless leaf label]; rfl)
        ihChildren ihRest
      by_cases here : id = mark
      · simp only [Forest.insertBefore, if_pos here]
        exact .disclosure made .nil node
      · simp only [Forest.insertBefore, if_neg here]
        exact node
  | @disclosure container' inner rest made' inside after ihInner ihRest =>
      -- A mark that is older than all disclosures is no node of one.
      have elsewhere : container' ≠ mark := made'.ne older 0
      simp only [Forest.insertBefore, summary, Forest.cons_append, Forest.nil_append,
        if_neg elsewhere, if_neg (made'.ne older 1), if_neg (made'.ne older 2)]
      exact .disclosure made' ihInner ihRest

theorem without (labelled : Labelled first forest) {drop : NodeId → Bool}
    (older : ∀ id, drop id = true → id < first) :
    Labelled first fun label => (forest label).without drop := by
  induction labelled with
  | nil => exact .nil
  | @kept id data children rest older' childless inside after ihChildren ihRest =>
      by_cases dropped : drop id = true
      · simp only [Forest.without, if_pos dropped]
        exact ihRest
      · simp only [Forest.without, if_neg dropped]
        exact .kept older' (fun leaf label => by rw [childless leaf label]; rfl)
          ihChildren ihRest
  | @disclosure container inner rest made inside after ihInner ihRest =>
      have stays (offset : Nat) : ¬ drop (container + offset) = true := fun dropped =>
        made.ne (older _ dropped) offset rfl
      have here : ¬ drop container = true := stays 0
      simp only [Forest.without, summary, Forest.cons_append, Forest.nil_append,
        if_neg here, if_neg (stays 1), if_neg (stays 2)]
      exact .disclosure made ihInner ihRest

/-- A node that is found is found for every label. -/
theorem find? (labelled : Labelled first forest) (older : target < first) :
    (∀ label, (forest label).find? target = none) ∨
      ∃ tree : String → Tree, Labelled first (fun label => Forest.ofTree (tree label)) ∧
        ∀ label, (forest label).find? target = some (tree label) := by
  induction labelled with
  | nil => exact .inl fun _ => rfl
  | @kept id data children rest older' childless inside after ihChildren ihRest =>
      by_cases here : id = target
      · exact .inr ⟨fun label => ⟨id, data, children label⟩, .kept older' childless inside .nil,
          fun label => by simp only [Forest.find?, if_pos here]⟩
      · simp only [Forest.find?, if_neg here]
        rcases ihChildren with none | ⟨tree, found, same⟩
        · simpa only [none] using ihRest
        · exact .inr ⟨tree, found, fun label => by rw [same]⟩
  | @disclosure container inner rest made inside after ihInner ihRest =>
      have elsewhere : container ≠ target := made.ne older 0
      simp only [Forest.find?, summary, Forest.cons_append, Forest.nil_append,
        if_neg elsewhere, if_neg (made.ne older 1), if_neg (made.ne older 2)]
      rcases ihInner with none | ⟨tree, found, same⟩
      · simpa only [none] using ihRest
      · exact .inr ⟨tree, found, fun label => by rw [same]⟩

theorem appendTo (labelled : Labelled first forest) (new : Labelled first added)
    {container : NodeId} (made : IsMade first container) :
    Labelled first fun label => Forest.appendTo container (added label) (forest label) := by
  induction labelled with
  | nil => exact .nil
  | @kept id data children rest older childless inside after ihChildren ihRest =>
      have elsewhere : decide (id = container) = false :=
        decide_eq_false (made.ne older 0).symm
      simp only [Forest.appendTo, elsewhere, Bool.false_and, if_neg Bool.false_ne_true]
      exact .kept older (fun leaf label => by rw [childless leaf label]; rfl) ihChildren ihRest
  | @disclosure container' inner rest made' inside after ihInner ihRest =>
      -- The node may be added to this disclosure, but never to its summary.
      have children (label : String) : Forest.appendTo container (added label)
          (summary container' label ++ inner label) =
            summary container' label ++ Forest.appendTo container (added label) (inner label) :=
        appendTo_summary (made'.add_ne made (.inl rfl)) (made'.add_ne made (.inr rfl)) _ _ _
      simp only [Forest.appendTo, children]
      by_cases here : container' = container
      · subst here
        simp only [decide_true, Bool.true_and, isElement_disclosureData, if_pos,
          Forest.append_assoc]
        exact .disclosure made (ihInner.append new) ihRest
      · simp only [decide_eq_false here, Bool.false_and, if_neg Bool.false_ne_true]
        exact .disclosure made' ihInner ihRest

end Labelled

end Label

def Html.NodeData.relabel (label : String) : NodeData → NodeData
  | .text _ => .text label
  | data => data

namespace Label

variable {first : NodeId} {forest : String → Forest}

private theorem toList_renderIn_disclosure (raw : Bool) (container : NodeId) (label : String)
    (inner rest : Forest) :
    ((Forest.cons container disclosureData (summary container label ++ inner) rest).renderIn
      raw false).toList =
        opening ++ (escaped label ++ (closing ++ ((inner.renderIn false false).toList ++
          ((endTag ⟨.html, "details"⟩).toList ++ (rest.renderIn raw false).toList)))) := by
  have raw₁ : (⟨.html, "details"⟩ : Name).isRaw = false := by decide
  have raw₂ : (⟨.html, "summary"⟩ : Name).isRaw = false := by decide
  have closed₁ : (⟨.html, "details"⟩ : Name).isUnclosed = false := by decide
  have closed₂ : (⟨.html, "summary"⟩ : Name).isUnclosed = false := by decide
  have begins : opening = (startTag ⟨.html, "details"⟩
      [⟨⟨.plain, "class"⟩, disclosureClass⟩]).toList ++
        (startTag ⟨.html, "summary"⟩ []).toList := by decide
  have ends : closing = (endTag ⟨.html, "summary"⟩).toList := by decide
  simp only [disclosureData, summaryData, summary, Forest.cons_append, Forest.nil_append,
    Forest.renderIn, raw₁, raw₂, closed₁, closed₂, Bool.or_self, if_neg Bool.false_ne_true,
    String.toList_append, begins, ends, escaped, List.append_assoc]
  simp

private theorem renderIn_leaf {data : NodeData} (leaf : IsLeaf data) (raw : Bool) :
    ∃ piece : List Char, ∀ (id : NodeId) (rest : Forest),
      ((Forest.cons id data .nil rest).renderIn raw false).toList =
        piece ++ (rest.renderIn raw false).toList := by
  cases data with
  | element name attributes =>
      have unclosed : name.isUnclosed = true := leaf.resolve_left nofun
      refine ⟨(startTag name attributes).toList, fun id rest => ?_⟩
      simp [Forest.renderIn, unclosed]
  | text content =>
      exact ⟨(if raw then content else renderText content).toList, fun id rest => by
        rw [Forest.renderIn, String.toList_append]⟩
  | comment content =>
      exact ⟨("<!--" ++ content ++ "-->").toList, fun id rest => by
        rw [Forest.renderIn, String.toList_append]⟩
  | doctype name =>
      exact ⟨("<!DOCTYPE " ++ name ++ ">").toList, fun id rest => by
        rw [Forest.renderIn, String.toList_append]⟩

private theorem renderIn_element {data : NodeData} (branch : ¬ IsLeaf data) :
    ∃ (raw' : Bool) (start stop : List Char), ∀ (raw : Bool) (id : NodeId)
      (children rest : Forest), ((Forest.cons id data children rest).renderIn raw false).toList =
        start ++ ((children.renderIn raw' false).toList ++
          (stop ++ (rest.renderIn raw false).toList)) := by
  cases data with
  | element name attributes =>
      have closed : name.isUnclosed = false := Bool.eq_false_iff.mpr fun unclosed =>
        branch (.inr unclosed)
      refine ⟨name.isRaw, (startTag name attributes).toList, (endTag name).toList,
        fun raw id children rest => ?_⟩
      simp [Forest.renderIn, closed]
  | text content => exact absurd (.inl rfl) branch
  | comment content => exact absurd (.inl rfl) branch
  | doctype name => exact absurd (.inl rfl) branch

/-- Whether a node is a disclosure that an original forest does not have. -/
def isNew (original : Forest) (node : Node) : Bool :=
  !original.ids.contains node.id && node.data.isDetails

/-- A node with another label as its text if it is a text that an original forest does
not have. -/
def relabel (original : Forest) (label : String) (node : Node) : Node :=
  if node.id ∈ original.ids then node else { node with data := node.data.relabel label }

theorem length_containers (original changed : Forest) :
    (containers original changed).length =
      (changed.nodes none).countP (isNew original) := by
  rw [containers, List.length_map, ← List.countP_eq_length_filter]
  rfl

namespace Labelled

/-- An element of another name than those of disclosures is found for every label. -/
theorem named? (labelled : Labelled first forest) (localName : String)
    (other : localName ≠ "details") (other' : localName ≠ "summary") :
    (∀ label, (forest label).named? localName = none) ∨
      ∃ tree : String → Tree, Labelled first (fun label => (tree label).children) ∧
        ∀ label, (forest label).named? localName = some (tree label) := by
  induction labelled with
  | nil => exact .inl fun _ => rfl
  | @kept id data children rest older childless inside after ihChildren ihRest =>
      by_cases here : (data.name?.any fun name => name.localName == localName) = true
      · exact .inr ⟨fun label => ⟨id, data, children label⟩, inside,
          fun label => by simp only [Forest.named?, if_pos here]⟩
      · simp only [Forest.named?, if_neg here]
        rcases ihChildren with none | ⟨tree, found, same⟩
        · simpa only [none] using ihRest
        · exact .inr ⟨tree, found, fun label => by rw [same]⟩
  | @disclosure container inner rest made inside after ihInner ihRest =>
      have details : ¬ (disclosureData.name?.any fun name =>
          name.localName == localName) = true := by
        simpa [disclosureData, NodeData.name?] using other.symm
      have summary₁ : ¬ (summaryData.name?.any fun name =>
          name.localName == localName) = true := by
        simpa [summaryData, NodeData.name?] using other'.symm
      simp only [Forest.named?, summary, Forest.cons_append, Forest.nil_append,
        if_neg details, if_neg summary₁]
      rcases ihInner with none | ⟨tree, found, same⟩
      · simpa [none, NodeData.name?] using ihRest
      · exact .inr ⟨tree, found, fun label => by simp [same, NodeData.name?]⟩

theorem exists_holed (labelled : Labelled first forest) {original : Forest}
    (older : ∀ id, id ∈ original.ids ↔ id < first) :
    ∃ count, (∀ raw, Holed count fun label => ((forest label).renderIn raw false).toList) ∧
      ∀ label parent, ((forest label).nodes parent).countP (isNew original) = count := by
  induction labelled with
  | nil => exact ⟨0, fun _ => .plain [], fun _ _ => rfl⟩
  | @kept id data children rest isOld childless inside after ihChildren ihRest =>
      have known (parent : Option NodeId) : isNew original ⟨parent, id, data⟩ = false := by
        simp [isNew, (older id).mpr isOld]
      obtain ⟨count, holed, counted⟩ := ihChildren
      obtain ⟨count', holed', counted'⟩ := ihRest
      -- What is below a leaf would not be written, so it must not hold a disclosure.
      by_cases leaf : IsLeaf data
      · refine ⟨count', fun raw => ?_, fun label parent => ?_⟩
        · obtain ⟨piece, written⟩ := renderIn_leaf leaf raw
          simp only [childless leaf, written]
          exact (holed' raw).prepend piece
        · rw [Forest.nodes, childless leaf, Forest.nodes, List.nil_append,
            List.countP_cons_of_neg (Bool.eq_false_iff.mp (known parent)), counted']
      · refine ⟨count + count', fun raw => ?_, fun label parent => ?_⟩
        · obtain ⟨raw', start, stop, written⟩ := renderIn_element leaf
          simp only [written]
          exact ((holed raw').append ((holed' raw).prepend stop)).prepend start
        · rw [Forest.nodes, List.countP_cons_of_neg (Bool.eq_false_iff.mp (known parent)),
            List.countP_append, counted, counted']
  | @disclosure container inner rest made inside after ihInner ihRest =>
      obtain ⟨count, holed, counted⟩ := ihInner
      obtain ⟨count', holed', counted'⟩ := ihRest
      have absent : container ∉ original.ids := fun member =>
        made.ne ((older container).mp member) 0 rfl
      refine ⟨count + count' + 1, fun raw => ?_, fun label parent => ?_⟩
      · simp only [toList_renderIn_disclosure]
        exact .hole [] ((holed false).append ((holed' raw).prepend _))
      · have container' : isNew original ⟨parent, container, disclosureData⟩ = true := by
          simp [isNew, absent, disclosureData, NodeData.isDetails, NodeData.name?]
        have summary₁ : ((summary container label).nodes (some container)).countP
            (isNew original) = 0 := by
          simp [summary, isNew, Forest.nodes, NodeData.isDetails, NodeData.name?, summaryData]
        rw [Forest.nodes, List.countP_cons_of_pos container', Forest.nodes_append,
          List.countP_append, List.countP_append, summary₁, counted, counted', Nat.zero_add]

/-- The nodes are the same for every label, but for the text of new nodes. -/
theorem nodes_eq_map (labelled : Labelled first forest) {original : Forest}
    (older : ∀ id, id ∈ original.ids ↔ id < first) (label label' : String)
    (parent : Option NodeId) :
    (forest label').nodes parent =
      ((forest label).nodes parent).map (relabel original label') := by
  induction labelled generalizing parent with
  | nil => rfl
  | @kept id data children rest isOld childless inside after ihChildren ihRest =>
      have known : relabel original label' ⟨parent, id, data⟩ = ⟨parent, id, data⟩ :=
        if_pos ((older id).mpr isOld)
      simp only [Forest.nodes, List.map_cons, List.map_append, known, ← ihChildren, ← ihRest]
  | @disclosure container inner rest made inside after ihInner ihRest =>
      have absent (offset : Nat) : container + offset ∉ original.ids := fun member =>
        made.ne ((older _).mp member) offset rfl
      have own (parent : Option NodeId) (data : NodeData) (offset : Nat) :
          relabel original label' ⟨parent, container + offset, data⟩ =
            ⟨parent, container + offset, data.relabel label'⟩ := if_neg (absent offset)
      have own₀ := own parent disclosureData 0
      simp only [Nat.add_zero] at own₀
      simp only [Forest.nodes, summary, Forest.cons_append, Forest.nil_append, List.map_cons,
        List.map_append, own, own₀, ← ihInner, ← ihRest]
      rfl

end Labelled

end Label

end MailQuote
