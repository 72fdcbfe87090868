import MailQuote.Proofs.Gmail
import MailQuote.Proofs.Text

namespace MailQuote

open Html

namespace Outlook

/-- Whether a place is that of an element after which Outlook puts what is quoted. -/
def isMarker (place : Place) : Bool :=
  Selector.picks "#divRplyFwdMsg" place || Selector.picks "#appendonsend" place ||
    Selector.picks Handler.outlookWebSelector place

variable {document : Document} {options : Options} {marker place : Place}

private theorem isEligible_withFollowing (keeps : options.ignoreFirstForward = false)
    (known : marker ∈ document.places) (marked : isMarker marker = true)
    (member : place ∈ marker.withFollowing) :
    Collect.isEligible document Handler.builtin options place.id = true := by
  rw [isMarker, Bool.or_eq_true, Bool.or_eq_true] at marked
  obtain (desktop | append) | web := marked
  · have handler : ⟨"outlook_desktop", "#divRplyFwdMsg", .refine Handler.outlookDesktop⟩ ∈
        Handler.builtin := by simp [Handler.builtin]
    exact Collect.isEligible_of_resolve keeps handler known desktop
      (List.mem_append_right _ member)
  · have handler : ⟨"outlook_append_on_send", "#appendonsend", .refine Place.withFollowing⟩ ∈
        Handler.builtin := by simp [Handler.builtin]
    exact Collect.isEligible_of_resolve keeps handler known append member
  · have handler : ⟨"outlook_web", Handler.outlookWebSelector, .refine Place.withFollowing⟩ ∈
        Handler.builtin := by simp [Handler.builtin]
    exact Collect.isEligible_of_resolve keeps handler known web member

private theorem not_mem_ids_withFollowing (keeps : options.ignoreFirstForward = false)
    (known : marker ∈ document.places) (marked : isMarker marker = true)
    (member : place ∈ marker.withFollowing) (known' : place ∈ document.places) :
    ∀ lower ∈ place.tree.ids,
      lower ∉ (document.remove (collect document Handler.builtin options)).content.ids := by
  intro lower inside
  exact Collect.not_mem_ids_remove (isEligible_withFollowing keeps known marked member)
    (Forest.mem_tree_ids document.content_distinct known' inside) options.label

private theorem not_mem_quotes (known : place ∈ document.places) (bare : place.isElement = false) :
    place.id ∉ (collect document Handler.builtin options).members := by
  intro quote
  have element := Forest.isElement_of_mem_elementIds document.content_distinct known
    (Collect.mem_elementIds_of_isEligible (Handler.builtin_staysIn document)
      (Collect.isEligible_of_mem_collect quote))
  rw [bare] at element
  cases element

private theorem mem_ids_remove_iff (known : place ∈ document.places)
    (bare : place.isElement = false)
    (filled : Text.allBlank place.data.ownText = false) :
    place.id ∈ (document.remove (collect document Handler.builtin options)).content.ids ↔
      ∀ upper ∈ document.content.ancestors place.id,
        upper ∉ (collect document Handler.builtin options).members := by
  have distinct := document.content_distinct
  have found := Forest.find?_of_places distinct known
  constructor
  · intro stays upper above quote
    have kept := Removal.ids_remove_subset _ _ stays
    obtain ⟨-, -, free⟩ := (Forest.mem_ids_without distinct).mp kept
    exact absurd (free upper above) (by simpa using quote)
  · intro free
    have stays : place.id ∈ (document.content.without
        (collect document Handler.builtin options).members.contains).ids := by
      refine (Forest.mem_ids_without distinct).mpr ⟨Forest.mem_of_find? found, ?_, ?_⟩
      · simpa using not_mem_quotes known bare
      · simpa using free
    refine Removal.mem_ids_remove_of_text (Forest.find?_without distinct found stays) ?_
    rw [Tree.text, Text.allBlank, List.all_append, Bool.and_eq_false_iff]
    exact .inl filled

/-- When the quotes are removed, neither a marker nor an element that follows it stays, and
nothing in them. Text that follows it, unless it is white space, stays just if nothing
that they both lie in is a quote. -/
theorem remove_following (document : Document) (options : Options)
    (keeps : options.ignoreFirstForward = false) :
    let quotes := collect document Handler.builtin options
    let result := (document.apply quotes .remove options.label).content
    ∀ marker ∈ document.places, isMarker marker = true →
      (∀ lower ∈ marker.tree.ids, lower ∉ result.ids) ∧
      ∀ place ∈ marker.following,
        (place.isElement = true → ∀ lower ∈ place.tree.ids, lower ∉ result.ids) ∧
        (place.isElement = false → Text.allBlank place.data.ownText = false →
          (place.id ∈ result.ids ↔
            ∀ upper ∈ document.content.ancestors marker.id, upper ∉ quotes.members)) := by
  intro quotes result marker known marked
  refine ⟨not_mem_ids_withFollowing keeps known marked (.head _) known, ?_⟩
  intro place member
  have known' := Forest.following_subset known member
  constructor
  · intro element
    have follows : place ∈ marker.withFollowing :=
      .tail _ (List.mem_filter.mpr ⟨member, element⟩)
    exact not_mem_ids_withFollowing keeps known marked follows known'
  · intro bare filled
    rw [← Forest.ancestors_of_following document.content_distinct known member]
    exact mem_ids_remove_iff known' bare filled

theorem remove_following_paragraph :
    let document := Document.parse "<div id=appendonsend></div>old<p>On Monday<b>!</b></p>"
    let options : Options := { depth := .infinite }
    let quotes := collect document Handler.builtin options
    let result := (document.apply quotes .remove options.label).content
    options.ignoreFirstForward = false ∧ ∃ marker ∈ document.places, isMarker marker = true ∧
      ∃ place ∈ marker.following, place.tree.ids.length = 4 ∧
        ∀ lower ∈ place.tree.ids, lower ∉ result.ids := by
  intro document options quotes result
  have exists_marker : ∃ marker ∈ document.places, isMarker marker = true ∧
      ∃ place ∈ marker.following, place.isElement = true ∧ place.tree.ids.length = 4 := by
    decide +kernel
  obtain ⟨marker, known, marked, place, member, element, size⟩ := exists_marker
  obtain ⟨-, others⟩ := remove_following document options rfl marker known marked
  exact ⟨rfl, marker, known, marked, place, member, size, (others place member).1 element⟩

theorem not_remove_following :
    let document := Document.parse "<p>Hi</p><div id=appendonsend></div>old"
    let quotes := collect document Handler.builtin {}
    ∃ marker ∈ document.places, marker.id ∈ document.bodyElements ∧ isMarker marker = true ∧
      ∃ place ∈ marker.following, place.data = .text "old" ∧
        place.id ∈ (document.apply quotes .remove defaultLabel).content.ids := by
  decide +kernel

end Outlook

namespace Grounds

open Selector

def citation : String := "blockquote[type=\"cite\"]"

def citationLine : String := ".moz-cite-prefix"

/-- The handlers for which all that their selectors select are quotes by themselves, or would
be if they were not left to a container. -/
def ownHandlers : List String :=
  ["outlook_mobile", "outlook_legacy", "thunderbird_forward", "apple_mail", "yahoo",
    "protonmail", "zoho", "gmail", "gmail_attr"]

/-- Whether an element is a quote on its own account. -/
inductive IsMarked (place : Place) : Prop
  | own {handler : Handler} (member : handler ∈ Handler.builtin)
      (named : handler.name ∈ ownHandlers) (picked : picks handler.selector place = true)
  | outlook (marker : Outlook.isMarker place = true)
  | introduced (opens : Gmail.isIntroduced place = true)

/-- Whether an element is a quote on account of another one that stands beside it. -/
inductive IsDrawn (other place : Place) : Prop
  /-- it follows a marker of Outlook -/
  | following (marker : Outlook.isMarker other = true) (later : place ∈ other.following)
  /-- it is the rule above Outlook's header division -/
  | rule (picked : picks "#divRplyFwdMsg" other = true)
      (found : other.previousElement? = some place) (line : place.data.tagName? = some "hr")
  /-- it is a citation, and the other one is Thunderbird's line before it -/
  | citation (picked : picks citationLine other = true)
      (found : other.nextElement? = some place) (cites : place.data.isCitation = true)
  /-- it is Thunderbird's line before a citation, which is the other one -/
  | line (picked : picks citationLine place = true)
      (found : place.nextElement? = some other) (cites : other.data.isCitation = true)
  /-- it is a citation after one that is or holds a citation -/
  | continuation (picked : picks Grounds.citation place = true)
      (found : place.previousElement? = some other) (cites : other.tree.hasCitation = true)
  /-- it is or holds a citation, and the other one is a citation after it -/
  | start (picked : picks Grounds.citation other = true)
      (found : other.previousElement? = some place) (cites : place.tree.hasCitation = true)

def HasGrounds (document : Document) (place : Place) : Prop :=
  IsMarked place ∨ ∃ other ∈ document.places, other.id ≠ place.id ∧ IsDrawn other place

/-- The classes by which handlers know quotes, but for that of lines before citations. -/
def quoteClasses : List String :=
  ["gmail_quote", "gmail_attr", "OutlookMessageHeader", "moz-forward-container",
    "yahoo_quoted", "protonmail_quote", "zmail_extra"]

def quoteIds : List String :=
  ["divRplyFwdMsg", "appendonsend", "mail-editor-reference-message-container"]

/-- Whether an element has no class and no identifier by which handlers know quotes, no type,
and no style if it is a division. It may be a line before a citation. -/
def isPlain (place : Place) : Bool :=
  !(quoteClasses.any fun name => (Condition.hasClass name).holds place) &&
    !(quoteIds.any fun name => (Condition.id name).holds place) &&
    place.data.attribute? "type" == none &&
    (place.data.attribute? "style" == none || place.data.tagName? != some "div")

/-- Whether there is no citation in an element, nor right after it if it has the class of lines
before citations. -/
def isLone (place : Place) : Bool :=
  !place.tree.hasCitation &&
    !(picks citationLine place && place.nextElement?.any fun next => next.data.isCitation)

/-- Whether an element is no block quotation and has neither a class, an identifier nor a
style. -/
def isBare (place : Place) : Bool :=
  place.data.tagName? != some "blockquote" &&
    ["class", "id", "style"].all fun name => place.data.attribute? name == none

section Resolve

variable {document : Document} {matched quote other place : Place}

private theorem hasGrounds_before (known : place ∈ document.places)
    (later : other ∈ place.following)
    (drawn : IsDrawn other place) : HasGrounds document place :=
  .inr ⟨other, Forest.following_subset known later,
    Forest.id_ne_of_following document.content_distinct known later, drawn⟩

private theorem hasGrounds_after (known : other ∈ document.places) (later : place ∈ other.following)
    (drawn : IsDrawn other place) : HasGrounds document place :=
  .inr ⟨other, known,
    (Forest.id_ne_of_following document.content_distinct known later).symm, drawn⟩

private theorem hasGrounds_withFollowing (known : matched ∈ document.places)
    (marker : Outlook.isMarker matched = true) (resolved : quote ∈ matched.withFollowing) :
    HasGrounds document quote := by
  rcases List.mem_cons.mp resolved with rfl | member
  · exact .inl (.outlook marker)
  · have later := (List.mem_filter.mp member).1
    exact hasGrounds_after known later (.following marker later)

private theorem hasGrounds_outlookDesktop (known : matched ∈ document.places)
    (picked : picks "#divRplyFwdMsg" matched = true)
    (resolved : quote ∈ Handler.outlookDesktop matched) : HasGrounds document quote := by
  rcases Handler.mem_outlookDesktop.mp resolved with ⟨found, isRule⟩ | following
  · have earlier : quote ∈ matched.preceding := List.mem_of_find?_eq_some found
    exact hasGrounds_before (Forest.preceding_subset known earlier)
      (Place.mem_following_of_preceding earlier) (.rule picked found isRule)
  · exact hasGrounds_withFollowing known (by simp [Outlook.isMarker, picked]) following

private theorem hasGrounds_thunderbird (known : matched ∈ document.places)
    (picked : picks citationLine matched = true)
    (resolved : quote ∈ Handler.thunderbird matched) : HasGrounds document quote := by
  obtain ⟨next, found, cites, pair⟩ := Handler.mem_thunderbird.mp resolved
  have later : next ∈ matched.following := List.mem_of_find?_eq_some found
  rcases pair with rfl | rfl
  · exact hasGrounds_before known later (.line picked found cites)
  · exact hasGrounds_after known later (.citation picked found cites)

private theorem hasGrounds_citationAfterCitation (known : matched ∈ document.places)
    (picked : picks citation matched = true)
    (resolved : quote ∈ Handler.citationAfterCitation matched) : HasGrounds document quote := by
  obtain ⟨previous, found, cites, pair⟩ := Handler.mem_citationAfterCitation.mp resolved
  have earlier : previous ∈ matched.preceding := List.mem_of_find?_eq_some found
  have known' := Forest.preceding_subset known earlier
  have later := Place.mem_following_of_preceding earlier
  rcases pair with rfl | rfl
  · exact hasGrounds_before known' later (.start picked found cites)
  · exact hasGrounds_after known' later (.continuation picked found cites)

private theorem hasGrounds_introduced (picked : picks "blockquote" matched = true)
    (resolved : quote ∈ Handler.introduced matched) : HasGrounds document quote := by
  obtain ⟨rfl, opens⟩ := Handler.mem_introduced.mp resolved
  exact .inl (.introduced (Bool.and_eq_true_iff.mpr ⟨picked, opens⟩))

private theorem hasGrounds_own {handler : Handler} (member : handler ∈ Handler.builtin)
    (own : handler.name ∈ ownHandlers) (picked : picks handler.selector matched = true)
    (same : quote = matched) : HasGrounds document quote :=
  .inl (.own member own (same ▸ picked))

private theorem hasGrounds_select {handler : Handler} (resolved : quote ∈ handler.resolve matched)
    (rule : handler.rule = .select) (member : handler ∈ Handler.builtin)
    (own : handler.name ∈ ownHandlers) (picked : picks handler.selector matched = true) :
    HasGrounds document quote := by
  rw [Handler.resolve, rule] at resolved
  exact hasGrounds_own member own picked (List.mem_singleton.mp resolved)

private theorem hasGrounds_of_resolve : ∀ handler ∈ Handler.builtin, matched ∈ document.places →
    picks handler.selector matched = true → quote ∈ handler.resolve matched →
      HasGrounds document quote := by
  simp only [Handler.builtin, List.forall_mem_cons, List.not_mem_nil, false_implies,
    implies_true, and_true]
  refine ⟨?gmail, ?attribution, hasGrounds_outlookDesktop, ?append, ?web, ?mobile, ?legacy,
    hasGrounds_thunderbird, ?forward, ?apple, ?yahoo, ?protonmail, ?zoho,
    hasGrounds_citationAfterCitation, fun _ => hasGrounds_introduced⟩
  case gmail =>
    intro _ picked resolved
    exact hasGrounds_own (.head _) (by decide) picked (Handler.eq_of_mem_gmail resolved)
  case attribution =>
    intro _ picked resolved
    exact hasGrounds_own (.tail _ (.head _)) (by decide) picked
      (Handler.eq_of_mem_gmailAttribution resolved)
  case append | web =>
    intro known picked resolved
    exact hasGrounds_withFollowing known (by simp [Outlook.isMarker, picked]) resolved
  case mobile | legacy | forward | apple | yahoo | protonmail | zoho =>
    intro _ picked resolved
    exact hasGrounds_select resolved rfl (by simp [Handler.builtin]) (by decide) picked

private theorem isElement_of_picks {text : String} (picked : picks text place = true) :
    place.isElement = true := by
  unfold picks at picked
  split at picked
  · exact (Bool.and_eq_true_iff.mp picked).1
  · cases picked

private theorem exists_hasGrounds {handler : Handler} (member : handler ∈ Handler.builtin)
    {node : NodeId} (finds : handler.finds document node = true) :
    ∃ place ∈ document.places, place.id = node ∧ place.isElement = true ∧
      HasGrounds document place := by
  obtain ⟨matched, known, picked, quote, resolved, same⟩ := Handler.finds_iff.mp finds
  have beside := Handler.isBeside_of_resolve handler member resolved
  obtain ⟨known', element⟩ := beside.mem_places known (isElement_of_picks picked)
  exact ⟨quote, known', same, element, hasGrounds_of_resolve handler member known picked resolved⟩

end Resolve

section Condition

variable {place : Place} {name : String}

def asksAttribute (name : String) : Condition → Bool
  | .attribute false known _ => known == name
  | _ => false

def asksTypeName (name : String) : Condition → Bool
  | .typeName known => known == name
  | _ => false

private theorem not_holds_of_asksAttribute (lower : lowerAscii name = name)
    (absent : place.data.attribute? name = none) (condition : Condition)
    (asks : asksAttribute name condition = true) : condition.holds place = false := by
  cases condition with
  | «attribute» anySpace known test =>
      cases anySpace with
      | true => cases asks
      | false =>
          obtain rfl : known = name := beq_iff_eq.mp asks
          exact Condition.attribute_eq_false lower absent
  | _ => cases asks

private theorem not_holds_of_asksTypeName (lower : lowerAscii name = name) (named : name ≠ "")
    (other : place.data.tagName? ≠ some name) (condition : Condition)
    (asks : asksTypeName name condition = true) : condition.holds place = false := by
  cases condition with
  | typeName known =>
      obtain rfl : known = name := beq_iff_eq.mp asks
      simp only [Condition.holds, soughtName_of_lower lower, nameOf, beq_eq_false_iff_ne]
      rw [NodeData.tagName?] at other
      cases found : place.data.name? with
      | none => exact named.symm
      | some element =>
          rintro rfl
          exact other (by rw [found, Option.map_some]; exact congrArg some lower)
  | _ => cases asks

private theorem picks_eq_false {text : String} {kind : Condition → Bool}
    (demanded : (parse? text).all (demands kind) = true)
    (fails : ∀ condition, kind condition = true → condition.holds place = false) :
    picks text place = false := by
  rw [← Bool.not_eq_true]
  intro picked
  obtain ⟨condition, isKind, holds⟩ := exists_condition_of_picks demanded picked
  rw [fails condition isKind] at holds
  cases holds

end Condition

section Plain

variable {place other : Place}

def asksQuoteName : Condition → Bool
  | .id name => quoteIds.contains name
  | .hasClass name => quoteClasses.contains name
  | _ => false

/-- Conditions that ask for a class or an identifier by which quotes are known, or a type. -/
private def isTelling (condition : Condition) : Bool :=
  asksQuoteName condition || asksAttribute "type" condition

private theorem demands_isTelling_own : ∀ handler ∈ Handler.builtin, handler.name ∈ ownHandlers →
    (parse? handler.selector).all (demands isTelling) = true := by
  decide

private theorem demands_isTelling : ∀ text ∈ ["#divRplyFwdMsg", "#appendonsend", citation],
    (parse? text).all (demands isTelling) = true := by
  decide

private theorem demands_outlookWeb : ∀ kind ∈ [asksAttribute "style", asksTypeName "div"],
    (parse? Handler.outlookWebSelector).all (demands kind) = true := by
  decide +kernel

private theorem not_holds_of_isTelling (plain : isPlain place = true) (condition : Condition)
    (telling : isTelling condition = true) : condition.holds place = false := by
  simp only [isPlain, Bool.and_eq_true, Bool.not_eq_true', List.any_eq_false, beq_iff_eq,
    Bool.not_eq_true] at plain
  obtain ⟨⟨⟨noClass, noId⟩, noType⟩, -⟩ := plain
  rcases Bool.or_eq_true_iff.mp telling with asks | asks
  · cases condition with
    | id name => exact noId name (List.contains_iff_mem.mp asks)
    | hasClass name => exact noClass name (List.contains_iff_mem.mp asks)
    | _ => cases asks
  · exact not_holds_of_asksAttribute (by decide) noType condition asks

private theorem picks_outlookWeb_eq_false (plain : isPlain place = true) :
    picks Handler.outlookWebSelector place = false := by
  simp only [isPlain, Bool.and_eq_true, Bool.or_eq_true, beq_iff_eq, bne_iff_ne] at plain
  rcases plain.2 with noStyle | noDivision
  · exact picks_eq_false (demands_outlookWeb _ (.head _))
      (not_holds_of_asksAttribute (by decide) noStyle)
  · exact picks_eq_false (demands_outlookWeb _ (.tail _ (.head _)))
      (not_holds_of_asksTypeName (by decide) (by decide) noDivision)

private theorem isMarker_eq_false (plain : isPlain place = true) :
    Outlook.isMarker place = false := by
  have fails := not_holds_of_isTelling plain
  rw [Outlook.isMarker, picks_eq_false (demands_isTelling _ (.head _)) fails,
    picks_eq_false (demands_isTelling _ (.tail _ (.head _))) fails,
    picks_outlookWeb_eq_false plain]
  rfl

/-- A plain element is no quote on its own account, unless it is a block quotation whose text
opens with a marker. -/
theorem isIntroduced_of_isMarked (plain : isPlain place = true) (marked : IsMarked place) :
    Gmail.isIntroduced place = true := by
  cases marked with
  | own member named picked =>
      rw [picks_eq_false (demands_isTelling_own _ member named)
        (not_holds_of_isTelling plain)] at picked
      cases picked
  | outlook marker =>
      rw [isMarker_eq_false plain] at marker
      cases marker
  | introduced opens => exact opens

/-- A plain element that no citation is with is a quote only beside a marker of Outlook. -/
theorem isMarker_of_isDrawn (plain : isPlain place = true) (lone : isLone place = true)
    (drawn : IsDrawn other place) : Outlook.isMarker other = true := by
  rw [isLone, Bool.and_eq_true, Bool.not_eq_true', Bool.not_eq_true'] at lone
  obtain ⟨none, noneAfter⟩ := lone
  cases drawn with
  | following marker later => exact marker
  | rule picked found isRule => simp [Outlook.isMarker, picked]
  | citation picked found cites =>
      have cites' : place.tree.hasCitation = true := by
        rw [Tree.hasCitation, show place.tree.data.isCitation = true from cites, Bool.true_or]
      rw [none] at cites'
      cases cites'
  | line picked found cites =>
      rw [picked, found, Option.any_some, cites] at noneAfter
      cases noneAfter
  | continuation picked found cites =>
      rw [picks_eq_false (demands_isTelling citation (by simp))
        (not_holds_of_isTelling plain)] at picked
      cases picked
  | start picked found cites =>
      rw [none] at cites
      cases cites

end Plain

section Bare

variable {document : Document} {options : Options} {place : Place}

def asksAnyName : Condition → Bool
  | .id _ => true
  | .hasClass _ => true
  | _ => false

/-- Conditions that ask for a block quotation, an identifier, a class or a style. -/
private def isNoted (condition : Condition) : Bool :=
  asksAnyName condition || asksTypeName "blockquote" condition ||
    asksAttribute "style" condition

private theorem not_holds_of_isNoted (bare : isBare place = true) (condition : Condition)
    (noted : isNoted condition = true) : condition.holds place = false := by
  simp only [isBare, Bool.and_eq_true, bne_iff_ne, List.all_eq_true, beq_iff_eq] at bare
  obtain ⟨other, bare⟩ := bare
  rw [isNoted, Bool.or_eq_true, Bool.or_eq_true] at noted
  obtain (asks | asks) | asks := noted
  · cases condition with
    | id name => simp [Condition.holds, bare "id" (by decide)]
    | hasClass name => simp [Condition.holds, bare "class" (by decide)]
    | _ => cases asks
  · exact not_holds_of_asksTypeName (by decide) (by decide) other condition asks
  · exact not_holds_of_asksAttribute (by decide) (bare "style" (by decide)) condition asks

private theorem demands_isNoted : ∀ handler ∈ Handler.builtin,
    (parse? handler.selector).all (demands isNoted) = true := by
  decide +kernel

private theorem collect_eq_nil (bare : ∀ place ∈ document.places, isBare place = true) :
    (collect document Handler.builtin options).members = [] := by
  refine List.eq_nil_iff_forall_not_mem.mpr fun node quote => ?_
  have chosen := Collect.isEligible_of_mem_collect quote
  obtain ⟨handler, member, finds⟩ := List.any_eq_true.mp (Bool.and_eq_true_iff.mp chosen).1
  obtain ⟨matched, known, picked, -⟩ := Handler.finds_iff.mp finds
  rw [picks_eq_false (demands_isNoted handler member)
    (not_holds_of_isNoted (bare matched known))] at picked
  cases picked

private theorem htmlOutcome_of_collect_eq_nil {html : String} (text : Option String)
    (none : (collect (Document.parse html) Handler.builtin options).members = []) :
    ({ html := some html, text, options } : Request).htmlOutcome =
      .unchanged (trimmed html) := by
  simp only [Request.htmlOutcome]
  split
  · next blank =>
      rw [trimmed, Text.trim_of_allBlank blank]
      rfl
  · rw [Request.ofDocument, NodeSet.isEmpty, none]
    rfl

end Bare

/-- Each quote that is collected has a mark of a mail program or stands beside an element that
has one. A plain element is a quote on account of another one only, unless it is a block
quotation whose text opens with a marker, and that other one is a marker of Outlook if there
is no citation in or right after it. Where no element is a block quotation or has a class, an
identifier or a style, nothing is collected, and the text stays as it is. -/
theorem collect_grounds (html : String) (options : Options) :
    let document := Document.parse html
    let quotes := collect document Handler.builtin options
    (∀ node ∈ quotes.members, ∃ place ∈ document.places, place.id = node ∧
      place.isElement = true ∧ HasGrounds document place) ∧
    (∀ place ∈ document.places, isPlain place = true → Gmail.isIntroduced place = false →
      place.id ∈ quotes.members → ∃ other ∈ document.places, other.id ≠ place.id ∧
        IsDrawn other place ∧ (isLone place = true → Outlook.isMarker other = true)) ∧
    ((∀ place ∈ document.places, isBare place = true) →
      quotes.members = [] ∧ ∀ text, ({ html := some html, text, options } : Request).htmlOutcome =
        .unchanged (trimmed html)) := by
  intro document quotes
  have grounds (node : NodeId) (quote : node ∈ quotes.members) : ∃ place ∈ document.places,
      place.id = node ∧ place.isElement = true ∧ HasGrounds document place := by
    have chosen := Collect.isEligible_of_mem_collect quote
    obtain ⟨handler, member, finds⟩ := List.any_eq_true.mp (Bool.and_eq_true_iff.mp chosen).1
    exact exists_hasGrounds member finds
  refine ⟨grounds, fun place known plain notIntroduced quote => ?plain, fun bare => ?bare⟩
  case plain =>
    obtain ⟨place', known', same, -, grounds⟩ := grounds place.id quote
    obtain rfl := Forest.placesIn_unique document.content_distinct known' known same
    rcases grounds with marked | ⟨other, beside, apart, drawn⟩
    · rw [isIntroduced_of_isMarked plain marked] at notIntroduced
      cases notIntroduced
    · exact ⟨other, beside, apart, drawn, fun lone => isMarker_of_isDrawn plain lone drawn⟩
  case bare =>
    have none : quotes.members = [] := collect_eq_nil bare
    exact ⟨none, fun text => htmlOutcome_of_collect_eq_nil text none⟩

/-- A plain block quotation goes with a marker of Outlook before it, and a paragraph stays. -/
theorem collect_grounds_quotation :
    let html := "<div id=appendonsend></div><blockquote>old</blockquote>"
    let plainHtml := "<p>Hi</p>"
    let document := Document.parse html
    let options : Options := { depth := .infinite }
    let quotes := collect document Handler.builtin options
    (∃ place ∈ document.places, isPlain place = true ∧ Gmail.isIntroduced place = false ∧
      place.id ∈ quotes.members ∧ isLone place = true ∧
        ∃ other ∈ document.places, other.id ≠ place.id ∧ Outlook.isMarker other = true) ∧
    (∀ place ∈ (Document.parse plainHtml).places, isBare place = true) ∧
      ({ html := some plainHtml, text := none, options } : Request).htmlOutcome =
        .unchanged (trimmed plainHtml) := by
  intro html plainHtml document options quotes
  have exists_marker : ∃ marker ∈ document.places, Outlook.isMarker marker = true ∧
      ∃ place ∈ marker.following, place.isElement = true ∧ isPlain place = true ∧
        Gmail.isIntroduced place = false ∧ isLone place = true := by
    decide +kernel
  have bare : ∀ place ∈ (Document.parse plainHtml).places, isBare place = true := by
    decide
  obtain ⟨first, atFirst, isMarker, place, later, element, plain, notIntroduced, lone⟩ :=
    exists_marker
  have known : place ∈ document.places := Forest.following_subset atFirst later
  have chosen : Collect.isEligible document Handler.builtin options place.id = true :=
    Outlook.isEligible_withFollowing rfl atFirst isMarker
      (.tail _ (List.mem_filter.mpr ⟨later, element⟩))
  have quote : place.id ∈ quotes.members :=
    (Collect.mem_collect (Handler.builtin_staysIn document)).mpr ⟨chosen, rfl⟩
  obtain ⟨-, beside, -⟩ := collect_grounds html options
  obtain ⟨-, -, unchanged⟩ := collect_grounds plainHtml options
  obtain ⟨other, known', apart, -, marker⟩ := beside place known plain notIntroduced quote
  exact ⟨⟨place, known, plain, notIntroduced, quote, lone, other, known', apart, marker lone⟩,
    bare, (unchanged bare).2 none⟩

end Grounds

end MailQuote
