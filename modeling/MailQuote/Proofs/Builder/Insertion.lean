import MailQuote.Html.Builder.Body
import MailQuote.Proofs.Builder.Document

namespace MailQuote.Html

namespace Builder

/-- Whether the parts of a construction that new nodes are added to may have children. -/
structure Stands (document : Document) (opened : List Open) (formatting : List Entry)
    (templates : List (NodeId × NodeId)) (head : Option NodeId) : Prop where
  whole : document.IsTidy
  opened : ∀ element ∈ opened, document.MayHold element.id
  formatting : ∀ id tag, .element id tag ∈ formatting → (Name.html tag.name).isUnclosed = false
  templates : ∀ pair ∈ templates, document.MayHold pair.2
  head : ∀ id ∈ head, document.MayHold id

def IsTidy (builder : Builder) : Prop :=
  Stands builder.document builder.opened builder.formatting builder.templates builder.head

section Names

theorem isUnclosed_html_eq_false {localName : String} :
    (Name.html localName).isUnclosed = false ↔ localName ∉ unclosedNames := by
  simp [Name.isUnclosed, Name.html]

/-- Elements that are not of HTML have an end tag. -/
theorem closed_of_foreign {name : Name} (foreign : name.space ≠ .html) :
    name.isUnclosed = false := by
  simp [Name.isUnclosed, foreign]

/-- The name of a tag that is known is not the one of an element without an end tag. -/
theorem closed_of_eq {localName known : String} (same : localName = known)
    (other : known ∉ unclosedNames) : (Name.html localName).isUnclosed = false :=
  isUnclosed_html_eq_false.mpr (same ▸ other)

theorem closed_of_contains {localName : String} {names : List String}
    (known : names.contains localName = true) (others : ∀ name ∈ names, name ∉ unclosedNames) :
    (Name.html localName).isUnclosed = false :=
  isUnclosed_html_eq_false.mpr (others localName (List.contains_iff_mem.mp known))

end Names

variable {builder : Builder}

theorem isTidy_start : start.IsTidy :=
  ⟨trivial, nofun, nofun, nofun, nofun⟩

namespace IsTidy

theorem settled (tidy : builder.IsTidy) : builder.settled.IsTidy := tidy

theorem goto (tidy : builder.IsTidy) (phase : Phase) : (builder.goto phase).IsTidy := tidy

theorem done (tidy : builder.IsTidy) : builder.done.builder.IsTidy := tidy

theorem redo (tidy : builder.IsTidy) (phase : Phase) :
    (builder.redo phase).builder.IsTidy := tidy

theorem ite {condition : Prop} [Decidable condition] {first second : Builder}
    (holds : first.IsTidy) (fails : second.IsTidy) :
    (if condition then first else second).IsTidy := by
  split
  · exact holds
  · exact fails

theorem foldl {step : Builder → α → Builder}
    (keeps : ∀ {builder : Builder}, builder.IsTidy → ∀ part, (step builder part).IsTidy)
    (tidy : builder.IsTidy) (parts : List α) : (parts.foldl step builder).IsTidy := by
  induction parts generalizing builder with
  | nil => exact tidy
  | cons first others ih => exact ih (keeps tidy first)

/-- A change of the document does no harm to the construction. -/
theorem grow (tidy : builder.IsTidy) {document : Document}
    (grows : builder.document.Grows document) : { builder with document }.IsTidy where
  whole := grows.tidy tidy.whole
  opened := fun element member => grows.holds (tidy.opened element member)
  formatting := tidy.formatting
  templates := fun pair member => grows.holds (tidy.templates pair member)
  head := fun id member => grows.holds (tidy.head id member)

section Closing

theorem close (tidy : builder.IsTidy) {opened : List Open} (part : opened ⊆ builder.opened) :
    { builder with opened }.IsTidy :=
  ⟨tidy.whole, fun element member => tidy.opened element (part member), tidy.formatting,
    tidy.templates, tidy.head⟩

theorem pop (tidy : builder.IsTidy) : builder.pop.IsTidy :=
  tidy.close (List.drop_subset _ _)

theorem popDownTo (tidy : builder.IsTidy) (holds : Name → Bool) :
    (builder.popDownTo holds).IsTidy :=
  tidy.close (List.dropWhile_sublist _).subset

theorem popThrough (tidy : builder.IsTidy) (holds : Name → Bool) :
    (builder.popThrough holds).IsTidy :=
  (tidy.popDownTo holds).pop

theorem popThroughNamed (tidy : builder.IsTidy) (localName : String) :
    (builder.popThroughNamed localName).IsTidy :=
  tidy.popThrough _

theorem closeImplied (tidy : builder.IsTidy) : builder.closeImplied.IsTidy :=
  tidy.popDownTo _

theorem closeImpliedExcept (tidy : builder.IsTidy) (localName : String) :
    (builder.closeImpliedExcept localName).IsTidy :=
  tidy.popDownTo _

theorem unopen (tidy : builder.IsTidy) (target : NodeId) : (builder.unopen target).IsTidy :=
  tidy.close List.eraseP_subset

theorem closeParagraph (tidy : builder.IsTidy) : builder.closeParagraph.IsTidy :=
  (tidy.closeImpliedExcept _).popThroughNamed _

theorem closeParagraphInScope (tidy : builder.IsTidy) :
    builder.closeParagraphInScope.IsTidy := by
  unfold Builder.closeParagraphInScope
  split
  · exact tidy.closeParagraph
  · exact tidy

theorem closeNamed (tidy : builder.IsTidy) (localName : String) :
    (builder.closeNamed localName).IsTidy := by
  simp only [Builder.closeNamed]
  split
  · exact tidy
  · split
    · exact tidy.close (List.drop_subset _ _)
    · exact tidy

end Closing

section Formatting

private theorem forgetting (tidy : builder.IsTidy) {formatting : List Entry}
    (part : formatting ⊆ builder.formatting) : { builder with formatting }.IsTidy :=
  ⟨tidy.whole, tidy.opened, fun id tag member => tidy.formatting id tag (part member),
    tidy.templates, tidy.head⟩

theorem clearFormatting (tidy : builder.IsTidy) : builder.clearFormatting.IsTidy :=
  tidy.forgetting (List.Subset.trans (List.drop_subset _ _)
    (List.dropWhile_sublist _).subset)

private theorem forget (tidy : builder.IsTidy) (target : NodeId) : (builder.forget target).IsTidy :=
  tidy.forgetting List.eraseP_subset

theorem markFormatting (tidy : builder.IsTidy) : builder.markFormatting.IsTidy := by
  refine ⟨tidy.whole, tidy.opened, fun id tag member => ?_, tidy.templates, tidy.head⟩
  exact tidy.formatting id tag ((List.mem_cons.mp member).resolve_left nofun)

end Formatting

end IsTidy

section Spots

/-- Whether what stands at a spot may have children. -/
def Spot.Fits (document : Document) : Spot → Prop
  | .inside parent => document.MayHold parent
  | .before _ otherwise => document.MayHold otherwise
  | .top => True

private theorem Spot.Fits.grow {first second : Document} {spot : Spot} (fits : spot.Fits first)
    (grows : first.Grows second) : spot.Fits second := by
  cases spot with
  | inside => exact grows.holds fits
  | before => exact grows.holds fits
  | top => trivial

variable (tidy : builder.IsTidy)

include tidy

private theorem mayHold_holder {target : NodeId} (known : builder.document.MayHold target) :
    builder.document.MayHold (builder.holder target) := by
  unfold holder
  cases found : builder.templates.lookup target with
  | none => exact known
  | some contents =>
      obtain ⟨before, after, split, -⟩ := List.lookup_eq_some_iff.mp found
      exact tidy.templates (target, contents) (by simp [split])

private theorem mayHold_root {root : NodeId} (known : builder.root? = some root) :
    builder.document.MayHold root := by
  obtain ⟨element, last, rfl⟩ := Option.map_eq_some_iff.mp known
  exact tidy.opened element (List.mem_of_getLast? last)

private theorem fits_fosterSpot {opened : List Open} (part : opened ⊆ builder.opened) :
    (builder.fosterSpot opened).Fits builder.document := by
  induction opened with
  | nil =>
      simp only [fosterSpot]
      split
      · next known => exact mayHold_root tidy known
      · trivial
  | cons element outer ih =>
      obtain ⟨here, part⟩ := List.cons_subset.mp part
      simp only [fosterSpot]
      split
      · exact mayHold_holder tidy (tidy.opened element here)
      · split
        · split
          · exact tidy.opened _ (part (.head _))
          · exact tidy.opened element here
        · exact ih part

private theorem fits_spotIn {target : Open} (known : builder.document.MayHold target.id) :
    (builder.spotIn target).Fits builder.document := by
  unfold spotIn
  split
  · exact fits_fosterSpot tidy (List.Subset.refl _)
  · exact mayHold_holder tidy known

private theorem fits_spot : builder.spot.Fits builder.document := by
  unfold spot
  split
  · trivial
  · next element _ opened =>
      exact fits_spotIn tidy (tidy.opened element (opened ▸ .head _))

end Spots

theorem grows_place {spot : Spot} (fits : spot.Fits builder.document)
    (node : NodeId) : builder.document.Grows (builder.place node spot).document := by
  cases spot with
  | inside => exact Document.grows_append fits node
  | before table otherwise =>
      change builder.document.Grows (if _ then _ else _)
      split
      · exact Document.grows_insertBefore _ _ _
      · exact Document.grows_append fits node
  | top => exact Document.grows_appendTop _ _

namespace IsTidy

theorem place (tidy : builder.IsTidy) {spot : Spot} (fits : spot.Fits builder.document)
    (node : NodeId) : (builder.place node spot).IsTidy := by
  have grows := grows_place fits node
  cases spot <;> exact tidy.grow grows

private theorem addCommentAt (tidy : builder.IsTidy) {spot : Spot}
    (fits : spot.Fits builder.document) (content : String) :
    (builder.addCommentAt spot content).IsTidy := by
  have grows := builder.document.grows_create (.comment content)
  exact (tidy.grow grows).place (fits.grow grows) _

theorem addComment (tidy : builder.IsTidy) (content : String) :
    (builder.addComment content).IsTidy :=
  tidy.addCommentAt (fits_spot tidy) content

theorem addTopComment (tidy : builder.IsTidy) (content : String) :
    (builder.addTopComment content).IsTidy :=
  tidy.addCommentAt (show Spot.top.Fits _ from trivial) content

theorem addRootComment (tidy : builder.IsTidy) (content : String) :
    (builder.addRootComment content).IsTidy := by
  unfold Builder.addRootComment
  split
  · next root known =>
      have fits : (Spot.inside root).Fits builder.document := mayHold_root tidy known
      exact tidy.addCommentAt fits content
  · exact tidy.addTopComment content

theorem addText (tidy : builder.IsTidy) (content : List Char) :
    (builder.addText content).IsTidy := by
  have fits := fits_spot tidy
  simp only [Builder.addText]
  split
  · next spot =>
      rw [spot] at fits
      exact tidy.grow (Document.grows_appendText fits _)
  · next spot =>
      rw [spot] at fits
      refine tidy.grow ?_
      split
      · exact Document.grows_insertTextBefore _ _ _
      · exact Document.grows_appendText fits _
  · exact tidy

theorem addAttributes (tidy : builder.IsTidy) (target : NodeId) (tag : Tag) :
    (builder.addAttributes target tag).IsTidy :=
  tidy.grow (Document.grows_addAttributes _ _ _)

end IsTidy

section Making

private theorem grows_make (builder : Builder) (name : Name) (attributes : List Attr) :
    builder.document.Grows (builder.make name attributes).2.document := by
  have first := builder.document.grows_create (.element name attributes)
  simp only [make]
  split
  · exact first.trans (Document.grows_create _ _)
  · exact first

theorem mayHold_make (builder : Builder) {name : Name} (closed : name.isUnclosed = false)
    (attributes : List Attr) :
    (builder.make name attributes).2.document.MayHold (builder.make name attributes).1 := by
  have new := @Document.mayHold_create builder.document (.element name attributes) closed
  simp only [make]
  split
  · exact (Document.grows_create _ _).holds new
  · exact new

theorem IsTidy.make (tidy : builder.IsTidy) (name : Name) (attributes : List Attr) :
    (builder.make name attributes).2.IsTidy := by
  have first := tidy.grow (builder.document.grows_create (.element name attributes))
  simp only [Builder.make]
  split
  · next template =>
      have closed : name.isUnclosed = false := by
        rw [eq_of_beq (show (name == Name.html "template") = true from template)]
        decide
      have grows := (builder.document.create (.element name attributes)).2.grows_create
        (.element name [])
      have second := first.grow grows
      refine ⟨second.whole, second.opened, second.formatting, ?_, second.head⟩
      intro pair member
      rcases List.mem_cons.mp member with rfl | known
      · exact Document.mayHold_create _ closed
      · exact second.templates pair known
  · exact first

theorem IsTidy.push (tidy : builder.IsTidy) {element : Open}
    (holds : builder.document.MayHold element.id) : (builder.push element).IsTidy := by
  refine ⟨tidy.whole, ?_, tidy.formatting, tidy.templates, tidy.head⟩
  intro other member
  rcases List.mem_cons.mp member with rfl | known
  · exact holds
  · exact tidy.opened other known

theorem IsTidy.add (tidy : builder.IsTidy) (name : Name) (attributes : List Attr) :
    (builder.add name attributes).2.IsTidy :=
  (tidy.make name attributes).place ((fits_spot tidy).grow (grows_make _ _ _)) _

theorem IsTidy.mayHold_add (tidy : builder.IsTidy) {name : Name}
    (closed : name.isUnclosed = false) (attributes : List Attr) :
    (builder.add name attributes).2.document.MayHold (builder.add name attributes).1 :=
  (grows_place ((fits_spot tidy).grow (grows_make _ _ _)) _).holds
    (mayHold_make builder closed attributes)

theorem IsTidy.addOpen (tidy : builder.IsTidy) {name : Name}
    (closed : name.isUnclosed = false) (attributes : List Attr) :
    (builder.addOpen name attributes).2.IsTidy :=
  (tidy.add name attributes).push (tidy.mayHold_add closed attributes)

namespace IsTidy

theorem insertTag (tidy : builder.IsTidy) {tag : Tag}
    (closed : (Name.html tag.name).isUnclosed = false) : (builder.insertTag tag).2.IsTidy :=
  tidy.addOpen closed _

theorem insert (tidy : builder.IsTidy) {tag : Tag}
    (closed : (Name.html tag.name).isUnclosed = false) : (builder.insert tag).IsTidy :=
  tidy.insertTag closed

theorem insertVoid (tidy : builder.IsTidy) (tag : Tag) : (builder.insertVoid tag).IsTidy :=
  tidy.add _ _

theorem insertNamed (tidy : builder.IsTidy) {localName : String}
    (closed : (Name.html localName).isUnclosed = false) :
    (builder.insertNamed localName).2.IsTidy :=
  tidy.addOpen closed []

theorem insertText (tidy : builder.IsTidy) {tag : Tag}
    (closed : (Name.html tag.name).isUnclosed = false) (reading : Reading) :
    (builder.insertText tag reading).IsTidy :=
  tidy.insert closed

end IsTidy

end Making

section Carrying

private theorem mem_replaceEntry {target : NodeId} {entry other : Entry} {entries : List Entry}
    (member : other ∈ replaceEntry target entry entries) : other = entry ∨ other ∈ entries := by
  induction entries with
  | nil => exact .inr member
  | cons first others ih =>
      simp only [replaceEntry] at member
      split at member
      · exact (List.mem_cons.mp member).imp_right (.tail _)
      · rcases List.mem_cons.mp member with rfl | later
        · exact .inr (.head _)
        · exact (ih later).imp_right (.tail _)

private theorem mem_enterAfter {mark : NodeId} {entry other : Entry} {entries : List Entry}
    (member : other ∈ enterAfter mark entry entries) : other = entry ∨ other ∈ entries := by
  induction entries with
  | nil => exact .inr member
  | cons first others ih =>
      simp only [enterAfter] at member
      split at member
      · exact List.mem_cons.mp member
      · rcases List.mem_cons.mp member with rfl | later
        · exact .inr (.head _)
        · exact (ih later).imp_right (.tail _)

namespace IsTidy

/-- A new entry for an element that may have children. -/
theorem remember (tidy : builder.IsTidy) {formatting : List Entry} {id : NodeId} {tag : Tag}
    (closed : (Name.html tag.name).isUnclosed = false)
    (part : ∀ entry ∈ formatting, entry = .element id tag ∨ entry ∈ builder.formatting) :
    { builder with formatting }.IsTidy := by
  refine ⟨tidy.whole, tidy.opened, fun other known member => ?_, tidy.templates, tidy.head⟩
  rcases part _ member with new | old
  · cases new
    exact closed
  · exact tidy.formatting other known old

private theorem reopen {entries : List Entry} (tidy : builder.IsTidy)
    (closed : ∀ id tag, .element id tag ∈ entries → (Name.html tag.name).isUnclosed = false) :
    (builder.reopen entries).IsTidy := by
  induction entries generalizing builder with
  | nil => exact tidy
  | cons first others ih =>
      have later := fun id tag member => closed id tag (.tail first member)
      cases first with
      | marker => exact ih tidy later
      | element id tag =>
          have here := closed id tag (.head _)
          exact ih ((tidy.insertTag here).remember here fun _ => mem_replaceEntry) later

theorem carryFormatting (tidy : builder.IsTidy) : builder.carryFormatting.IsTidy := by
  refine tidy.reopen fun id tag member => tidy.formatting id tag ?_
  exact (List.takeWhile_sublist _).subset (List.mem_reverse.mp member)

theorem insertFormatting (tidy : builder.IsTidy) {tag : Tag}
    (closed : (Name.html tag.name).isUnclosed = false) :
    (builder.insertFormatting tag).IsTidy := by
  have part : limitEntries tag builder.formatting ⊆ builder.formatting := by
    simp only [limitEntries]
    split
    · exact List.eraseP_subset
    · exact List.Subset.refl _
  exact ((tidy.forgetting part).insertTag closed).remember closed fun _ => List.mem_cons.mp

end IsTidy

end Carrying

end Builder

namespace Builder

namespace Splitting

/-- Whether a course of splitting, begun with a document, has left it tidy so far. -/
structure IsTidy (document : Document) (splitting : Splitting) : Prop where
  builder : splitting.builder.IsTidy
  grows : document.Grows splitting.builder.document
  kept : ∀ element ∈ splitting.kept, splitting.builder.document.MayHold element.id

variable {document : Document} {splitting : Splitting}

private theorem IsTidy.step (tidy : splitting.IsTidy document) (element : Open) :
    (splitting.step element).IsTidy document := by
  simp only [Splitting.step]
  split
  · next id tag found =>
      have closed := tidy.builder.formatting id tag (List.mem_of_find?_eq_some found)
      split
      · exact ⟨tidy.builder.forget _, tidy.grows, tidy.kept⟩
      · let attributes := Foreign.attributes .html tag.attributes
        have made := grows_make splitting.builder (.html tag.name) attributes
        have holds := mayHold_make splitting.builder closed attributes
        have grows := Document.grows_append holds splitting.last
        have appended := (tidy.builder.make (.html tag.name) attributes).grow grows
        refine ⟨appended.remember closed fun _ => mem_replaceEntry,
          tidy.grows.trans (made.trans grows), fun other member => ?_⟩
        rcases List.mem_cons.mp member with rfl | known
        · exact grows.holds holds
        · exact grows.holds (made.holds (tidy.kept other known))
  · exact ⟨tidy.builder, tidy.grows, tidy.kept⟩

private theorem IsTidy.run (tidy : splitting.IsTidy document) (elements : List Open) :
    (elements.foldl Splitting.step splitting).IsTidy document := by
  induction elements generalizing splitting with
  | nil => exact tidy
  | cons first others ih => exact ih (tidy.step first)

end Splitting

/-- Puts the outermost of the elements that were split off where the split element was. -/
private def placeLast (builder : Builder) (outer : List Open) (last : NodeId) : Builder :=
  match outer with
  | common :: _ => builder.place last (builder.spotIn common)
  | [] => builder

/-- Makes the inner part of a split element and moves what is in a block into it. -/
private def fillInner (builder : Builder) (tag : Tag) (block : NodeId) : NodeId × Builder :=
  let (new, builder) := builder.make (.html tag.name) (Foreign.attributes .html tag.attributes)
  let document := builder.document.moveChildren block new
  (new, { builder with document := document.append block new })

/-- The formatting after a split, where the inner part is entered. -/
private def enterInner (bookmark : Option NodeId) (formatting : NodeId) (entry : Entry)
    (entries : List Entry) : List Entry :=
  match bookmark with
  | some mark => (enterAfter mark entry entries).eraseP (Entry.isFor formatting)
  | none => replaceEntry formatting entry entries

private theorem splitAround_eq (builder : Builder) (formatting : NodeId) (tag : Tag)
    (inner : List Open) (block : Open) (between outer : List Open) :
    builder.splitAround formatting tag inner block between outer =
      let splitting := between.foldl Splitting.step ⟨builder, [], block.id, none, 0⟩
      let placed := splitting.builder.placeLast outer splitting.last
      let filled := placed.fillInner tag block.id
      { filled.2 with
        formatting :=
          enterInner splitting.bookmark formatting (.element filled.1 tag) filled.2.formatting
        opened :=
          inner ++ [⟨filled.1, .html tag.name⟩, block] ++ splitting.kept.reverse ++ outer } := by
  cases outer <;> rfl

private theorem mem_enterInner {bookmark : Option NodeId} {formatting : NodeId}
    {entry other : Entry}
    {entries : List Entry} (member : other ∈ enterInner bookmark formatting entry entries) :
    other = entry ∨ other ∈ entries := by
  cases bookmark with
  | none => exact mem_replaceEntry member
  | some mark => exact mem_enterAfter (List.mem_of_mem_eraseP member)

namespace IsTidy

variable {builder : Builder}

private theorem placeLast (tidy : builder.IsTidy) {outer : List Open}
    (known : ∀ element ∈ outer, builder.document.MayHold element.id) (last : NodeId) :
    (builder.placeLast outer last).IsTidy ∧
      builder.document.Grows (builder.placeLast outer last).document := by
  cases outer with
  | nil => exact ⟨tidy, .refl _⟩
  | cons common others =>
      have fits := fits_spotIn tidy (known common (.head _))
      exact ⟨tidy.place fits last, grows_place fits last⟩

private theorem fillInner (tidy : builder.IsTidy) {tag : Tag}
    (closed : (Name.html tag.name).isUnclosed = false) {block : NodeId}
    (known : builder.document.MayHold block) :
    (builder.fillInner tag block).2.IsTidy ∧
      builder.document.Grows (builder.fillInner tag block).2.document ∧
      (builder.fillInner tag block).2.document.MayHold (builder.fillInner tag block).1 := by
  have made := grows_make builder (.html tag.name) (Foreign.attributes .html tag.attributes)
  have holds := mayHold_make builder closed (Foreign.attributes .html tag.attributes)
  have moved := Document.grows_moveChildren holds block
  have appended := Document.grows_append (moved.holds (made.holds known))
    (builder.fillInner tag block).1
  have filled := moved.trans appended
  exact ⟨(tidy.make _ _).grow filled, made.trans filled, filled.holds holds⟩

private theorem splitAround (tidy : builder.IsTidy) {tag : Tag}
    (closed : (Name.html tag.name).isUnclosed = false) (formatting : NodeId)
    {inner outer : List Open} {block : Open} (part : inner ++ block :: outer ⊆ builder.opened)
    (between : List Open) :
    (builder.splitAround formatting tag inner block between outer).IsTidy := by
  have start : Splitting.IsTidy builder.document ⟨builder, [], block.id, none, 0⟩ :=
    ⟨tidy, .refl _, nofun⟩
  have run := start.run between
  rw [splitAround_eq]
  generalize between.foldl Splitting.step _ = splitting at run
  have known : ∀ element ∈ inner ++ block :: outer,
      splitting.builder.document.MayHold element.id :=
    fun element member => run.grows.holds (tidy.opened element (part member))
  obtain ⟨tidyPlaced, growsPlaced⟩ := run.builder.placeLast
    (fun element member => known element (List.mem_append_right _ (.tail _ member)))
    splitting.last
  have holdsBlock := growsPlaced.holds (known block (List.mem_append_right _ (.head _)))
  obtain ⟨tidyFilled, growsFilled, holdsNew⟩ := tidyPlaced.fillInner closed holdsBlock
  have grows := growsPlaced.trans growsFilled
  let filled := (splitting.builder.placeLast outer splitting.last).fillInner tag block.id
  have remembered := tidyFilled.remember closed fun entry =>
    @mem_enterInner splitting.bookmark formatting (.element filled.1 tag) entry _
  refine ⟨remembered.whole, fun element member => ?_, remembered.formatting,
    remembered.templates, remembered.head⟩
  simp only [List.mem_append, List.mem_cons, List.not_mem_nil, or_false,
    List.mem_reverse] at member
  rcases member with ((within | rfl | rfl) | kept) | outside
  · exact grows.holds (known element (List.mem_append_left _ within))
  · exact holdsNew
  · exact growsFilled.holds holdsBlock
  · exact grows.holds (run.kept element kept)
  · exact grows.holds (known element (List.mem_append_right _ (.tail _ outside)))

private theorem exists_tag_of_formattingNamed? (tidy : builder.IsTidy) {localName : String}
    {found : NodeId × Tag} (known : builder.formattingNamed? localName = some found) :
    (Name.html found.2.name).isUnclosed = false := by
  obtain ⟨entry, member, same⟩ := List.exists_of_findSome?_eq_some known
  have listed : entry ∈ builder.formatting := (List.takeWhile_sublist _).subset member
  cases entry with
  | marker => cases same
  | element id tag =>
      simp only [Option.ite_none_right_eq_some, Option.some.injEq] at same
      rw [← same.2]
      exact tidy.formatting id tag listed

private theorem misplacedRound (tidy : builder.IsTidy) (localName : String) :
    (builder.misplacedRound localName).1.IsTidy := by
  simp only [Builder.misplacedRound]
  split
  · exact tidy.closeNamed localName
  · next id tag known =>
      have closed := tidy.exists_tag_of_formattingNamed? known
      split
      · exact tidy.forget id
      · next outer dropped =>
          have outside : outer ⊆ builder.opened := by
            have part := List.drop_subset (builder.opened.takeWhile (·.id != id)).length
              builder.opened
            rw [dropped] at part
            exact (List.cons_subset.mp part).2
          split
          · exact tidy
          · split
            · exact (tidy.close outside).forget id
            · next block inner within =>
                refine tidy.splitAround closed id (fun element member => ?_) _
                have above : ∀ element ∈ block :: inner, element ∈ builder.opened :=
                  fun element member => (List.takeWhile_sublist _).subset
                    (List.mem_reverse.mp (List.drop_subset _ _ (within ▸ member)))
                simp only [List.mem_append, List.mem_reverse, List.mem_cons] at member
                rcases member with below | rfl | later
                · exact above element (.tail _ below)
                · exact above element (.head _)
                · exact outside later

private theorem misplacedRounds (tidy : builder.IsTidy) (rounds : Nat) (localName : String) :
    (Builder.misplacedRounds rounds builder localName).IsTidy := by
  induction rounds generalizing builder with
  | zero => exact tidy
  | succ rounds ih =>
      have round := tidy.misplacedRound localName
      rw [Builder.misplacedRounds]
      split
      · next equality =>
          rw [equality] at round
          exact ih round
      · next equality =>
          rw [equality] at round
          exact round

theorem closeFormatting (tidy : builder.IsTidy) (localName : String) :
    (builder.closeFormatting localName).IsTidy := by
  have rounds := tidy.misplacedRounds 8 localName
  simp only [Builder.closeFormatting]
  split
  · split
    · exact tidy.pop
    · exact rounds
  · exact rounds

theorem closeOpenLink (tidy : builder.IsTidy) : builder.closeOpenLink.IsTidy := by
  unfold Builder.closeOpenLink
  split
  · exact ((tidy.closeFormatting "a").forget _).unopen _
  · exact tidy

end IsTidy

end Builder

end MailQuote.Html
