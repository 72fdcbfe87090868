import MailQuote.Proofs.Builder.Insertion

namespace MailQuote.Html.Builder

namespace IsTidy

variable {builder : Builder} {tag : Tag}

theorem mergeRoot (tidy : builder.IsTidy) (tag : Tag) : (builder.mergeRoot tag).IsTidy := by
  unfold Builder.mergeRoot
  split
  · split
    · exact tidy
    · exact tidy.addAttributes _ tag
  · exact tidy

private theorem insertRoot (tidy : builder.IsTidy) (attributes : List (String × String)) :
    (builder.insertRoot attributes).IsTidy := by
  let made := builder.make (.html "html") (Foreign.attributes .html attributes)
  have holds : made.2.document.MayHold made.1 := mayHold_make builder rfl _
  have top : Spot.top.Fits made.2.document := trivial
  exact ((tidy.make _ _).place top made.1).push ((grows_place top made.1).holds holds)

theorem closeTemplate (tidy : builder.IsTidy) : builder.closeTemplate.IsTidy := by
  unfold Builder.closeTemplate
  split
  · exact ((tidy.popDownTo _).popThroughNamed "template").clearFormatting
  · exact tidy

theorem openTemplate (tidy : builder.IsTidy) {tag : Tag}
    (closed : (Name.html tag.name).isUnclosed = false) : (builder.openTemplate tag).IsTidy :=
  (tidy.insert closed).markFormatting

private theorem headTag? (tidy : builder.IsTidy) {result : Builder}
    (known : builder.headTag? tag = some result) : result.IsTidy := by
  unfold Builder.headTag? at known
  split at known <;> cases known
  all_goals first
    | exact tidy.insertVoid tag
    | exact tidy.insertText (closed_of_eq (by assumption) (by decide)) _
    | exact tidy.openTemplate (closed_of_eq (by assumption) (by decide))

theorem headTagOr (tidy : builder.IsTidy) (tag : Tag) :
    ((builder.headTag? tag).getD builder).IsTidy := by
  cases known : builder.headTag? tag with
  | none => exact tidy
  | some result => exact tidy.headTag? known

private theorem lateHeadTag (tidy : builder.IsTidy) (tag : Tag) :
    (builder.lateHeadTag tag).IsTidy := by
  unfold Builder.lateHeadTag
  split
  · next head known =>
      have holds : builder.document.MayHold head := tidy.head head known
      have pushed : (builder.push ⟨head, .html "head"⟩).IsTidy := tidy.push holds
      exact (pushed.headTagOr tag).unopen head
  · exact tidy

theorem initial (tidy : builder.IsTidy) (token : Token) :
    (builder.initial token).builder.IsTidy := by
  unfold Builder.initial
  split
  · exact tidy
  · exact tidy.addTopComment _
  · exact tidy

theorem declare (tidy : builder.IsTidy) (declaration : Doctype) :
    (builder.declare declaration).IsTidy := by
  unfold Builder.declare
  split
  · have grown := tidy.grow
      (builder.document.grows_create (.doctype (declaration.name.getD "")))
    exact grown.place (show Spot.top.Fits _ from trivial) _
  · exact tidy

theorem beforeHtml (tidy : builder.IsTidy) (token : Token) :
    (builder.beforeHtml token).builder.IsTidy := by
  unfold Builder.beforeHtml
  split
  · exact tidy.addTopComment _
  · exact tidy
  · split
    · exact tidy.insertRoot _
    · exact tidy.insertRoot []
  · split
    · exact tidy.insertRoot []
    · exact tidy
  · exact tidy.insertRoot []

private theorem openHead (tidy : builder.IsTidy) {localName : String}
    (closed : (Name.html localName).isUnclosed = false) (attributes : List Attr) :
    { (builder.addOpen (.html localName) attributes).2 with
      head := some (builder.addOpen (.html localName) attributes).1 }.IsTidy := by
  have opened := tidy.addOpen closed attributes
  refine ⟨opened.whole, opened.opened, opened.formatting, opened.templates, ?_⟩
  rintro id ⟨⟩
  exact tidy.mayHold_add closed attributes

private theorem impliedHead (tidy : builder.IsTidy) : builder.impliedHead.builder.IsTidy :=
  tidy.openHead (show (Name.html "head").isUnclosed = false by decide) []

theorem beforeHead (tidy : builder.IsTidy) (token : Token) :
    (builder.beforeHead token).builder.IsTidy := by
  unfold Builder.beforeHead
  split
  · exact tidy
  · exact tidy.addComment _
  · split
    · exact tidy.mergeRoot _
    · split
      · next known => exact tidy.openHead (closed_of_eq known (by decide)) _
      · exact tidy.impliedHead
  · split
    · exact tidy.impliedHead
    · exact tidy
  · exact tidy.impliedHead

theorem inHead (tidy : builder.IsTidy) (token : Token) :
    (builder.inHead token).builder.IsTidy := by
  unfold Builder.inHead
  split
  · exact tidy.addText _
  · exact tidy.addComment _
  · split
    · exact tidy.mergeRoot _
    · split
      · exact tidy
      · split
        · next known => exact tidy.headTag? known
        · exact tidy.pop
  · split
    · exact tidy.pop
    · split
      · exact tidy.closeTemplate
      · split
        · exact tidy.pop
        · exact tidy
  · exact tidy.pop

private theorem impliedBody (tidy : builder.IsTidy) : builder.impliedBody.builder.IsTidy :=
  tidy.insertNamed (show (Name.html "body").isUnclosed = false by decide)

theorem afterHead (tidy : builder.IsTidy) (token : Token) :
    (builder.afterHead token).builder.IsTidy := by
  unfold Builder.afterHead
  split
  · exact tidy.addText _
  · exact tidy.addComment _
  · split
    · exact tidy.mergeRoot _
    · split
      · next known => exact tidy.insert (closed_of_eq known (by decide))
      · split
        · next known => exact tidy.insert (closed_of_eq known (by decide))
        · split
          · exact tidy.lateHeadTag _
          · split
            · exact tidy
            · exact tidy.impliedBody
  · split
    · exact tidy.closeTemplate
    · split
      · exact tidy.impliedBody
      · exact tidy
  · exact tidy.impliedBody

theorem inText (tidy : builder.IsTidy) (token : Token) :
    (builder.inText token).builder.IsTidy := by
  unfold Builder.inText
  split
  · exact tidy.addText _
  · exact tidy.pop
  · exact tidy.pop
  · exact tidy

end IsTidy

/-- Elements without an end tag that may stand anywhere in the body. -/
def bodyVoids : List String :=
  ["area", "br", "embed", "img", "keygen", "wbr", "input", "param", "source", "track", "hr"]

/-- All other elements without an end tag belong into the head, a table or a frame set. -/
theorem closed_of_unlisted {tag : Tag} (unlisted : tag.name ∉ bodyVoids)
    (notHead : isHeadTag tag = false) (notMisplaced : isMisplacedTag tag.name = false) :
    (Name.html tag.name).isUnclosed = false := by
  have cases : ∀ name ∈ unclosedNames, name ∈ bodyVoids ∨
      isHeadTag ⟨name, [], false⟩ = true ∨ isMisplacedTag name = true := by decide
  refine isUnclosed_html_eq_false.mpr fun member => ?_
  rcases cases tag.name member with listed | head | misplaced
  · exact unlisted listed
  · exact absurd head (Bool.eq_false_iff.mp notHead)
  · exact absurd misplaced (Bool.eq_false_iff.mp notMisplaced)

namespace IsTidy

variable {builder : Builder} {tag : Tag}

private theorem mergeBody (tidy : builder.IsTidy) (tag : Tag) : (builder.mergeBody tag).IsTidy := by
  unfold Builder.mergeBody
  split
  · split
    · exact tidy
    · exact tidy.settled.addAttributes _ tag
  · exact tidy

private theorem replaceBody (tidy : builder.IsTidy)
    (closed : (Name.html tag.name).isUnclosed = false) : (builder.replaceBody tag).IsTidy := by
  unfold Builder.replaceBody
  split
  · next body _ =>
      split
      · have detached := tidy.grow (Document.grows_detach builder.document body)
        have part := List.drop_subset (builder.opened.length - 1) builder.opened
        exact (detached.close part).insert closed
      · exact tidy
  · exact tidy

private theorem closeItem (tidy : builder.IsTidy) (localName : String) :
    (builder.closeItem localName).IsTidy :=
  (tidy.closeImpliedExcept localName).popThroughNamed localName

private theorem insertItem (tidy : builder.IsTidy)
    (closed : (Name.html tag.name).isUnclosed = false) : (builder.insertItem tag).IsTidy := by
  simp only [Builder.insertItem]
  split
  · exact (tidy.settled.closeItem _).closeParagraphInScope.insert closed
  · exact tidy.settled.closeParagraphInScope.insert closed

private theorem insertForm (tidy : builder.IsTidy)
    (closed : (Name.html tag.name).isUnclosed = false) : (builder.insertForm tag).IsTidy := by
  have inserted := tidy.closeParagraphInScope.insertTag closed
  simp only [Builder.insertForm]
  split
  · exact tidy
  · split
    · exact inserted
    · exact inserted

private theorem closeInScope (tidy : builder.IsTidy) (localName : String) :
    (builder.closeInScope localName).IsTidy := by
  unfold Builder.closeInScope
  split
  · exact tidy.closeImplied.popThroughNamed localName
  · exact tidy

private theorem closeForm (tidy : builder.IsTidy) : builder.closeForm.IsTidy := by
  unfold Builder.closeForm
  split
  · exact tidy.closeInScope "form"
  · split
    · exact tidy
    · simp only
      split
      · exact tidy.closeImplied.unopen _
      · exact tidy

private theorem gotoSelect (tidy : builder.IsTidy) : builder.gotoSelect.IsTidy := by
  unfold Builder.gotoSelect
  split <;> exact tidy

private theorem insertForeign (tidy : builder.IsTidy) {space : Namespace} (foreign : space ≠ .html)
    (tag : Tag) : (builder.insertForeign space tag).IsTidy := by
  simp only [Builder.insertForeign]
  split
  · exact tidy.add _ _
  · exact tidy.addOpen (closed_of_foreign foreign) _

private theorem insertInlineVoid (tidy : builder.IsTidy) (tag : Tag) :
    (builder.insertInlineVoid tag).IsTidy := by
  simp only [Builder.insertInlineVoid]
  split
  · exact tidy.carryFormatting.insertVoid tag
  · exact tidy.carryFormatting.insertVoid tag

private theorem insertHeading (tidy : builder.IsTidy)
    (closed : (Name.html tag.name).isUnclosed = false) :
    (builder.insertHeading tag).IsTidy := by
  simp only [Builder.insertHeading]
  split
  · exact tidy.closeParagraphInScope.pop.insert closed
  · exact tidy.closeParagraphInScope.insert closed

private theorem insertButton (tidy : builder.IsTidy)
    (closed : (Name.html tag.name).isUnclosed = false) :
    (builder.insertButton tag).IsTidy := by
  simp only [Builder.insertButton]
  split
  · exact (tidy.closeImplied.popThroughNamed "button").carryFormatting.insert closed
  · exact tidy.carryFormatting.insert closed

private theorem insertNobr (tidy : builder.IsTidy)
    (closed : (Name.html tag.name).isUnclosed = false) : (builder.insertNobr tag).IsTidy := by
  simp only [Builder.insertNobr]
  split
  · exact (tidy.carryFormatting.closeFormatting "nobr").carryFormatting.insertFormatting closed
  · exact tidy.carryFormatting.insertFormatting closed

private theorem insertTable (tidy : builder.IsTidy)
    (closed : (Name.html tag.name).isUnclosed = false) : (builder.insertTable tag).IsTidy := by
  simp only [Builder.insertTable]
  split
  · exact tidy.insert closed
  · exact tidy.closeParagraphInScope.insert closed

private theorem insertOption (tidy : builder.IsTidy)
    (closed : (Name.html tag.name).isUnclosed = false) :
    (builder.insertOption tag).IsTidy := by
  simp only [Builder.insertOption]
  split
  · exact tidy.pop.carryFormatting.insert closed
  · exact tidy.carryFormatting.insert closed

private theorem insertRuby (tidy : builder.IsTidy)
    (closed : (Name.html tag.name).isUnclosed = false) : (builder.insertRuby tag).IsTidy := by
  simp only [Builder.insertRuby]
  split
  · split
    · exact tidy.closeImplied.insert closed
    · exact (tidy.closeImpliedExcept "rtc").insert closed
  · exact tidy.insert closed

private theorem insertPreformatted (tidy : builder.IsTidy)
    (closed : (Name.html tag.name).isUnclosed = false) :
    (builder.insertPreformatted tag).IsTidy :=
  tidy.closeParagraphInScope.insert closed

private theorem bodyTag (tidy : builder.IsTidy) (tag : Tag) : (builder.bodyTag tag).IsTidy := by
  unfold Builder.bodyTag
  split
  -- tags that several names share a treatment for
  any_goals with_reducible exact tidy.insertInlineVoid _
  any_goals with_reducible exact tidy.insertVoid tag
  any_goals with_reducible
    exact tidy.insertHeading (closed_of_eq (by assumption) (by decide))
  any_goals with_reducible
    exact tidy.insertItem (closed_of_eq (by assumption) (by decide))
  any_goals with_reducible
    exact tidy.insertRuby (closed_of_eq (by assumption) (by decide))
  any_goals with_reducible
    exact tidy.insertOption (closed_of_eq (by assumption) (by decide))
  any_goals with_reducible
    exact tidy.insertPreformatted (closed_of_eq (by assumption) (by decide))
  any_goals with_reducible
    exact tidy.insertText (closed_of_eq (by assumption) (by decide)) _
  any_goals with_reducible
    exact (tidy.carryFormatting.insert (closed_of_eq (by assumption) (by decide))
      ).markFormatting.settled
  · exact tidy.mergeRoot tag
  · exact tidy.mergeBody tag
  · next known => exact tidy.replaceBody (closed_of_eq known (by decide))
  · next known => exact tidy.insertForm (closed_of_eq known (by decide))
  · next known => exact tidy.closeParagraphInScope.insert (closed_of_eq known (by decide))
  · next known => exact tidy.insertButton (closed_of_eq known (by decide))
  · next known =>
      exact tidy.closeOpenLink.carryFormatting.insertFormatting (closed_of_eq known (by decide))
  · next known => exact tidy.insertNobr (closed_of_eq known (by decide))
  · next known => exact tidy.insertTable (closed_of_eq known (by decide))
  · exact (tidy.closeParagraphInScope.insertVoid tag).settled
  · next known =>
      exact tidy.settled.insertText (closed_of_eq known (by decide)) (.referring "textarea")
  · next known =>
      exact tidy.closeParagraphInScope.carryFormatting.settled.insertText
        (closed_of_eq known (by decide)) _
  · next known => exact tidy.settled.insertText (closed_of_eq known (by decide)) _
  · next known =>
      exact (tidy.carryFormatting.insert (closed_of_eq known (by decide))).settled.gotoSelect
  · exact tidy.insertForeign (by decide) tag
  · exact tidy.insertForeign (by decide) tag
  · split
    · exact tidy.headTagOr tag
    · next notHead =>
        split
        · next block =>
            exact tidy.closeParagraphInScope.insert (closed_of_contains block (by decide))
        · split
          · next formatting =>
              exact tidy.carryFormatting.insertFormatting
                (closed_of_contains formatting (by decide))
          · split
            · exact tidy
            · next notMisplaced =>
                refine tidy.carryFormatting.insert (closed_of_unlisted ?_
                  (Bool.eq_false_iff.mpr notHead) (Bool.eq_false_iff.mpr notMisplaced))
                simp only [bodyVoids, List.mem_cons, List.not_mem_nil, or_false, not_or]
                and_intros <;> assumption

private theorem closeHeading (tidy : builder.IsTidy) : builder.closeHeading.IsTidy := by
  simp only [Builder.closeHeading]
  split
  · exact tidy.closeImplied.popThrough _
  · exact tidy

private theorem endParagraph (tidy : builder.IsTidy) : builder.endParagraph.IsTidy := by
  unfold Builder.endParagraph
  split
  · exact tidy.closeParagraph
  · exact (tidy.insertNamed (by decide)).closeParagraph

private theorem bodyEnd (tidy : builder.IsTidy) (tag : Tag) :
    (builder.bodyEnd tag).builder.IsTidy := by
  unfold Builder.bodyEnd
  split
  any_goals with_reducible exact tidy.closeHeading.done
  any_goals with_reducible exact (ite (tidy.closeItem _) tidy).done
  any_goals with_reducible exact (ite (tidy.closeInScope _).clearFormatting tidy).done
  · exact tidy.closeTemplate
  · exact ite (tidy.goto _) tidy
  · split
    · exact tidy.redo _
    · exact tidy
  · exact tidy.closeForm
  · exact tidy.endParagraph
  · exact tidy.insertInlineVoid _
  · split
    · exact tidy.closeInScope _
    · split
      · exact tidy.closeFormatting _
      · exact tidy.closeNamed _

theorem templateStop (tidy : builder.IsTidy) : builder.templateStop.builder.IsTidy := by
  unfold Builder.templateStop
  split
  · exact (tidy.popThroughNamed "template").clearFormatting
  · exact tidy

theorem inBody (tidy : builder.IsTidy) (token : Token) :
    (builder.inBody token).builder.IsTidy := by
  unfold Builder.inBody
  split
  · exact ite (tidy.carryFormatting.addText _) (tidy.carryFormatting.addText _).settled
  · exact tidy.addComment _
  · exact tidy.bodyTag _
  · exact tidy.bodyEnd _
  · split
    · exact tidy
    · exact tidy.templateStop
  · exact tidy

end IsTidy

end MailQuote.Html.Builder
