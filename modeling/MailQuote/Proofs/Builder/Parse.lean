import MailQuote.Html.Parse
import MailQuote.Proofs.Builder.Body

namespace MailQuote.Html

namespace Builder

namespace IsTidy

variable {builder : Builder} {tag : Tag}

section Tables

private theorem foster (tidy : builder.IsTidy) (token : Token) :
    (builder.foster token).builder.IsTidy := by
  have fostering : { builder with fostering := true }.IsTidy := tidy
  exact fostering.inBody token

private theorem tableTag (tidy : builder.IsTidy) (tag : Tag) :
    (builder.tableTag tag).builder.IsTidy := by
  have cleared := tidy.popDownTo Name.isTableScope
  unfold Builder.tableTag
  split
  any_goals with_reducible exact (tidy.headTagOr tag).done
  any_goals with_reducible
    exact ((cleared.insert (closed_of_eq (by assumption) (by decide))).goto _).done
  any_goals with_reducible exact (cleared.insertNamed (by decide)).redo _
  · next known => exact cleared.markFormatting.insert (closed_of_eq known (by decide))
  · split
    · exact tidy.popThroughNamed "table"
    · exact tidy
  · split
    · exact tidy.insertVoid tag
    · exact tidy.foster _
  · split
    · exact tidy
    · exact tidy.add (.html "form") _
  · exact tidy.foster _

private theorem tableEnd (tidy : builder.IsTidy) (tag : Tag) :
    (builder.tableEnd tag).builder.IsTidy := by
  unfold Builder.tableEnd
  split
  any_goals with_reducible exact tidy.done
  · exact ite (tidy.popThroughNamed "table") tidy
  · exact tidy.closeTemplate
  · exact tidy.foster _

private theorem tableText (tidy : builder.IsTidy) (token : Token) :
    (builder.tableText token).builder.IsTidy := by
  unfold Builder.tableText
  split
  · exact tidy
  · exact tidy.foster token

private theorem inTable (tidy : builder.IsTidy) (token : Token) :
    (builder.inTable token).builder.IsTidy := by
  unfold Builder.inTable
  split
  · exact tidy.tableText _
  · exact tidy.tableText _
  · exact tidy.addComment _
  · exact tidy.tableTag _
  · exact tidy.tableEnd _
  · exact tidy.inBody _
  · exact tidy

private theorem placePending (tidy : builder.IsTidy) : builder.placePending.IsTidy := by
  have emptied : { builder with pending := [] }.IsTidy := tidy
  simp only [Builder.placePending]
  split
  · exact foldl (fun tidy part => tidy.addText part.1) emptied _
  · exact foldl (fun tidy part => tidy.foster _) emptied _

private theorem inTableText (tidy : builder.IsTidy) (token : Token) :
    (builder.inTableText token).builder.IsTidy := by
  unfold Builder.inTableText
  split
  · exact tidy
  · exact tidy
  · exact tidy.placePending

private theorem closeCaption (tidy : builder.IsTidy) : builder.closeCaption.IsTidy :=
  (tidy.closeImplied.popThroughNamed "caption").clearFormatting

private theorem inCaption (tidy : builder.IsTidy) (token : Token) :
    (builder.inCaption token).builder.IsTidy := by
  unfold Builder.inCaption
  split
  · split
    · split
      · exact tidy.closeCaption
      · exact tidy
    · exact tidy.inBody _
  · split
    any_goals with_reducible exact tidy.done
    · exact ite (tidy.closeCaption.goto _) tidy
    · split
      · exact tidy.closeCaption
      · exact tidy
    · exact tidy.inBody _
  · exact tidy.inBody token

private theorem leaveColumns (tidy : builder.IsTidy) : builder.leaveColumns.builder.IsTidy := by
  unfold Builder.leaveColumns
  split
  · exact tidy.pop
  · exact tidy

private theorem inColumnGroup (tidy : builder.IsTidy) (token : Token) :
    (builder.inColumnGroup token).builder.IsTidy := by
  unfold Builder.inColumnGroup
  split
  · exact tidy.addText _
  · exact tidy.addComment _
  · split
    · exact tidy.mergeRoot _
    · exact tidy.insertVoid _
    · next known => exact tidy.openTemplate (closed_of_eq known (by decide))
    · exact tidy.leaveColumns
  · split
    · exact ite (tidy.pop.goto _) tidy
    · exact tidy
    · exact tidy.closeTemplate
    · exact tidy.leaveColumns
  · exact tidy.inBody _
  · exact tidy.leaveColumns

private theorem leaveRows (tidy : builder.IsTidy) : builder.leaveRows.builder.IsTidy := by
  simp only [Builder.leaveRows]
  split
  · exact (tidy.popDownTo _).pop
  · exact tidy

private theorem inTableBody (tidy : builder.IsTidy) (token : Token) :
    (builder.inTableBody token).builder.IsTidy := by
  have cleared := tidy.popDownTo isRowHolder
  unfold Builder.inTableBody
  split
  · split
    any_goals with_reducible exact tidy.leaveRows
    any_goals with_reducible exact (cleared.insertNamed (by decide)).redo _
    · next known => exact cleared.insert (closed_of_eq known (by decide))
    · exact tidy.inTable _
  · split
    any_goals with_reducible exact tidy.done
    any_goals with_reducible exact (ite (cleared.pop.goto _) tidy).done
    · exact tidy.leaveRows
    · exact tidy.inTable _
  · exact tidy.inTable token

private theorem closeRow (tidy : builder.IsTidy) : builder.closeRow.IsTidy :=
  (tidy.popDownTo _).pop

private theorem leaveRow (tidy : builder.IsTidy) : builder.leaveRow.builder.IsTidy := by
  unfold Builder.leaveRow
  split
  · exact tidy.closeRow
  · exact tidy

private theorem inRow (tidy : builder.IsTidy) (token : Token) :
    (builder.inRow token).builder.IsTidy := by
  have cleared := tidy.popDownTo isCellHolder
  unfold Builder.inRow
  split
  · split
    any_goals with_reducible exact tidy.leaveRow
    any_goals with_reducible
      exact ((cleared.insert (closed_of_eq (by assumption) (by decide))).goto
        _).markFormatting.done
    exact tidy.inTable _
  · split
    any_goals with_reducible exact tidy.done
    any_goals with_reducible exact tidy.leaveRow
    · exact ite (tidy.closeRow.goto _) tidy
    any_goals exact tidy.inTable _
    all_goals
      split
      · exact tidy.leaveRow
      · exact tidy
  · exact tidy.inTable token

private theorem closeCell (tidy : builder.IsTidy) : builder.closeCell.IsTidy :=
  (tidy.closeImplied.popThrough isCell).clearFormatting

private theorem inCell (tidy : builder.IsTidy) (token : Token) :
    (builder.inCell token).builder.IsTidy := by
  unfold Builder.inCell
  split
  · split
    · split
      · exact tidy.closeCell
      · exact tidy
    · exact tidy.inBody _
  · split
    any_goals with_reducible exact tidy.done
    any_goals with_reducible exact tidy.inBody _
    any_goals with_reducible
      exact (ite ((tidy.closeImplied.popThroughNamed _).clearFormatting.goto _) tidy).done
    all_goals
      split
      · exact tidy.closeCell
      · exact tidy
  · exact tidy.inBody token

end Tables

section Choices

private theorem popIf (tidy : builder.IsTidy) (localName : String) :
    (builder.popIf localName).IsTidy := by
  unfold Builder.popIf
  exact ite tidy.pop tidy

private theorem closeSelect (tidy : builder.IsTidy) : builder.closeSelect.IsTidy :=
  tidy.popThroughNamed "select"

private theorem endSelect (tidy : builder.IsTidy) : builder.endSelect.builder.IsTidy :=
  ite tidy.closeSelect tidy

private theorem leaveSelect (tidy : builder.IsTidy) : builder.leaveSelect.builder.IsTidy :=
  tidy.closeSelect

private theorem closeGroup (tidy : builder.IsTidy) : builder.closeGroup.IsTidy := by
  simp only [Builder.closeGroup]
  split
  · exact (tidy.popIf _).popIf _
  · exact tidy.popIf _

private theorem inSelect (tidy : builder.IsTidy) (token : Token) :
    (builder.inSelect token).builder.IsTidy := by
  unfold Builder.inSelect
  split
  · exact tidy.addText _
  · exact tidy.addComment _
  · split
    any_goals with_reducible exact (tidy.headTagOr _).done
    · exact tidy.mergeRoot _
    · next known => exact (tidy.popIf _).insert (closed_of_eq known (by decide))
    · next known => exact ((tidy.popIf _).popIf _).insert (closed_of_eq known (by decide))
    · exact tidy.endSelect
    any_goals exact tidy
    all_goals
      split
      · exact tidy.leaveSelect
      · exact tidy
  · split
    · exact tidy.closeGroup
    · exact tidy.popIf _
    · exact tidy.endSelect
    · exact tidy.closeTemplate
    · exact tidy
  · exact tidy.inBody _
  · exact tidy

private theorem inSelectInTable (tidy : builder.IsTidy) (token : Token) :
    (builder.inSelectInTable token).builder.IsTidy := by
  unfold Builder.inSelectInTable
  split
  · split
    · exact tidy.leaveSelect
    · exact tidy.inSelect _
  · split
    · split
      · exact tidy.leaveSelect
      · exact tidy
    · exact tidy.inSelect _
  · exact tidy.inSelect token

end Choices

end IsTidy

private theorem space_elementName (space : Namespace) (localName : String) :
    (Foreign.elementName space localName).space = space := by
  cases space <;> rfl

private theorem subset_of_foreignEnd {localName : String} {first : Bool} {opened outer : List Open}
    (closed : foreignEnd localName first opened = .closed outer) : outer ⊆ opened := by
  induction opened generalizing first with
  | nil => simp [foreignEnd] at closed
  | cons element others ih =>
      cases others with
      | nil => simp [foreignEnd] at closed
      | cons next others =>
          simp only [foreignEnd] at closed
          split at closed
          · cases closed
          · split at closed
            · cases closed
              exact List.subset_cons_self _ _
            · exact List.subset_cons_of_subset _ (ih closed)

private theorem exists_foreign {builder : Builder} {token : Token}
    (foreign : builder.isForeign token = true) :
    ∃ name, builder.current? = some name ∧ name.space ≠ .html := by
  unfold Builder.isForeign at foreign
  split at foreign
  · cases foreign
  · cases foreign
  · next name current _ =>
      refine ⟨name, current, fun same => ?_⟩
      rw [if_pos same] at foreign
      cases foreign

namespace IsTidy

variable {builder : Builder}

section Frames

private theorem inTemplate (tidy : builder.IsTidy) (token : Token) :
    (builder.inTemplate token).builder.IsTidy := by
  unfold Builder.inTemplate
  split
  · exact tidy.inBody _
  · exact tidy.inBody _
  · split
    · exact tidy.headTagOr _
    · split <;> exact tidy
  · exact ite tidy.closeTemplate tidy
  · exact tidy.templateStop
  · exact tidy

private theorem afterBody (tidy : builder.IsTidy) (token : Token) :
    (builder.afterBody token).builder.IsTidy := by
  unfold Builder.afterBody
  split
  · exact tidy.inBody _
  · exact tidy.addRootComment _
  · split
    · exact tidy.mergeRoot _
    · exact tidy
  · split <;> exact tidy
  · exact tidy
  · exact tidy

private theorem afterAfterBody (tidy : builder.IsTidy) (token : Token) :
    (builder.afterAfterBody token).builder.IsTidy := by
  unfold Builder.afterAfterBody
  split
  · exact tidy.inBody _
  · exact tidy.addTopComment _
  · split
    · exact tidy.mergeRoot _
    · exact tidy
  · exact tidy
  · exact tidy

private theorem inFrameset (tidy : builder.IsTidy) (token : Token) :
    (builder.inFrameset token).builder.IsTidy := by
  unfold Builder.inFrameset
  split
  · exact tidy.addText _
  · exact tidy.addComment _
  · split
    · exact tidy.mergeRoot _
    · next known => exact tidy.insert (closed_of_eq known (by decide))
    · exact tidy.insertVoid _
    · exact tidy.headTagOr _
    · exact tidy
  · split
    · exact ite tidy.pop tidy.pop
    · exact tidy
  · exact tidy

private theorem afterFrameset (tidy : builder.IsTidy) (token : Token) :
    (builder.afterFrameset token).builder.IsTidy := by
  unfold Builder.afterFrameset
  split
  · exact tidy.addText _
  · exact tidy.addComment _
  · split
    · exact tidy.mergeRoot _
    · exact tidy.headTagOr _
    · exact tidy
  · exact ite tidy tidy
  · exact tidy

private theorem afterAfterFrameset (tidy : builder.IsTidy) (token : Token) :
    (builder.afterAfterFrameset token).builder.IsTidy := by
  unfold Builder.afterAfterFrameset
  split
  · exact tidy.inBody _
  · exact tidy.addTopComment _
  · split
    · exact tidy.mergeRoot _
    · exact tidy.headTagOr _
    · exact tidy
  · exact tidy

end Frames

private theorem inPhase (tidy : builder.IsTidy) (token : Token) :
    (builder.inPhase token).builder.IsTidy := by
  unfold Builder.inPhase
  split
  · exact tidy.initial token
  · exact tidy.beforeHtml token
  · exact tidy.beforeHead token
  · exact tidy.inHead token
  · exact tidy.afterHead token
  · exact tidy.inBody token
  · exact tidy.inText token
  · exact tidy.inTable token
  · exact tidy.inTableText token
  · exact tidy.inCaption token
  · exact tidy.inColumnGroup token
  · exact tidy.inTableBody token
  · exact tidy.inRow token
  · exact tidy.inCell token
  · exact tidy.inSelect token
  · exact tidy.inSelectInTable token
  · exact tidy.inTemplate token
  · exact tidy.afterBody token
  · exact tidy.inFrameset token
  · exact tidy.afterFrameset token
  · exact tidy.afterAfterBody token
  · exact tidy.afterAfterFrameset token

section Foreign

private theorem insertForeignTag (tidy : builder.IsTidy) {name : Name}
    (current : builder.current? = some name) (foreign : name.space ≠ .html) (tag : Tag) :
    (builder.insertForeignTag tag).IsTidy := by
  simp only [Builder.insertForeignTag, current]
  split
  · exact tidy.add _ _
  · refine tidy.addOpen (closed_of_foreign ?_) _
    rw [space_elementName]
    exact foreign

private theorem inForeign (tidy : builder.IsTidy) {name : Name}
    (current : builder.current? = some name) (foreign : name.space ≠ .html) (token : Token) :
    (builder.inForeign Builder.inPhase token).builder.IsTidy := by
  unfold Builder.inForeign
  split
  · exact tidy.addText _
  · exact (ite tidy tidy.settled).addText _
  · exact tidy.addComment _
  · split
    · exact tidy.pop.popDownTo _
    · exact tidy.insertForeignTag current foreign _
  · split
    · next closed => exact tidy.close (subset_of_foreignEnd closed)
    · exact tidy.inPhase _
    · exact tidy
  · exact tidy

end Foreign

private theorem step (tidy : builder.IsTidy) (token : Token) :
    (builder.step token).builder.IsTidy := by
  unfold Builder.step
  split
  · next foreign =>
      obtain ⟨name, current, foreign⟩ := exists_foreign foreign
      exact tidy.inForeign current foreign token
  · exact tidy.inPhase token

private theorem settle (tidy : builder.IsTidy) (fuel : Nat) (token : Token) :
    (Builder.settle fuel builder token).IsTidy := by
  induction fuel generalizing builder with
  | zero => exact tidy
  | succ fuel ih =>
      have step := tidy.step token
      rw [Builder.settle]
      split
      · next equality =>
          rw [equality] at step
          exact ih step
      · next equality =>
          rw [equality] at step
          exact step

private theorem consume (tidy : builder.IsTidy) (token : Token) :
    (builder.consume token).IsTidy := by
  have unskipped : { builder with skipLineFeed := false }.IsTidy := tidy
  simp only [Builder.consume]
  split
  · exact unskipped
  · exact unskipped
  · exact unskipped.declare _
  · refine settle ?_ _ _
    split <;> exact unskipped

private theorem read (tidy : builder.IsTidy) (fuel : Nat) (text : List Char) :
    (builder.read fuel text).IsTidy := by
  induction fuel generalizing builder text with
  | zero => exact tidy
  | succ fuel ih =>
      cases text with
      | nil => exact tidy
      | cons first others =>
          simp only [Builder.read]
          exact ih (foldl (fun tidy token => tidy.consume token) tidy _) _

end IsTidy

end Builder

namespace Document

/-- In a document that is read from HTML text, no element without an end tag has
children. -/
theorem isTidy_parse (text : String) : (Document.parse text).content.IsTidy :=
  isTidy_settle ((Builder.isTidy_start.read _ _).consume .stop).whole

end Document

end MailQuote.Html
