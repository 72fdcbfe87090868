import MailQuote.Proofs.Coverage

namespace MailQuote

open Html

namespace Gmail

open Selector

def isInContainer (place : Place) : Bool :=
  place.parent?.any fun parent => parent.data.hasClass Handler.gmailClass

def isBelowContainer (place : Place) : Bool :=
  place.ancestors.any fun upper => upper.data.hasClass Handler.gmailClass

/-- Whether a place is that of a block quotation as it stands directly inside a container. -/
def isInner (place : Place) : Bool :=
  place.data.tagName? = some "blockquote" && isInContainer place

/-- The outermost node above a place in whose class Gmail's containers have a word. -/
def outermostContainer? (place : Place) : Option Place :=
  place.outermost? fun upper => upper.data.hasClass Handler.gmailClass

/-- The selectors that have one condition only, and that condition. -/
private def singleConditions : List (String × Condition) := [
  (".gmail_quote", .hasClass "gmail_quote"),
  (".gmail_attr", .hasClass "gmail_attr"),
  ("blockquote", .typeName "blockquote")]

private theorem parse?_single : ∀ entry ∈ singleConditions,
    parse? entry.1 = some ⟨[.compound [.plain entry.2]]⟩ := by
  decide

private theorem parse?_quote : parse? ".gmail_quote" =
    some ⟨[.compound [.plain (.hasClass "gmail_quote")]]⟩ :=
  parse?_single _ (.head _)

private theorem parse?_attribution : parse? ".gmail_attr" =
    some ⟨[.compound [.plain (.hasClass "gmail_attr")]]⟩ :=
  parse?_single _ (.tail _ (.head _))

private theorem parse?_blockquote : parse? "blockquote" =
    some ⟨[.compound [.plain (.typeName "blockquote")]]⟩ :=
  parse?_single _ (.tail _ (.tail _ (.head _)))

private theorem mem_gmail (matched quote : Place) :
    quote ∈ Handler.gmail matched ↔ quote = matched ∧ (!isInner matched) = true := by
  simp only [Handler.gmail, List.mem_ite_nil_left, List.mem_singleton]
  rw [and_comm, isInner, Bool.not_eq_true', ← Bool.not_eq_true, Bool.and_eq_true,
    decide_eq_true_iff]
  rfl

private theorem mem_gmailAttribution (matched quote : Place) :
    quote ∈ Handler.gmailAttribution matched ↔
      quote = matched ∧ (!isBelowContainer matched) = true := by
  simp only [Handler.gmailAttribution, List.mem_ite_nil_left, List.mem_singleton]
  rw [and_comm, Bool.not_eq_true', ← Bool.not_eq_true, isBelowContainer]

variable {document : Document} {options : Options} {place : Place}

private theorem isInContainer_eq_false
    (free : ∀ upper ∈ place.ancestors, upper.data.hasClass Handler.gmailClass = false) :
    isInContainer place = false := by
  rw [isInContainer, Option.any_eq_false_iff_get]
  intro isSome
  exact free _ (List.mem_of_mem_head? (Option.some_get isSome).symm)

private theorem isEligible_quote (keeps : options.ignoreFirstForward = false)
    (known : place ∈ document.places) (picked : Selector.picks ".gmail_quote" place = true)
    (free : ∀ upper ∈ place.ancestors, upper.data.hasClass Handler.gmailClass = false) :
    Collect.isEligible document Handler.builtin options place.id = true := by
  have member : ⟨"gmail", ".gmail_quote", .refine Handler.gmail⟩ ∈ Handler.builtin := .head _
  have kept : (!isInner place) = true := by
    rw [isInner, isInContainer_eq_false free, Bool.and_false, Bool.not_false]
  exact Collect.isEligible_of_resolve keeps member known picked
    ((mem_gmail place place).mpr ⟨rfl, kept⟩)

private theorem isEligible_attribution (keeps : options.ignoreFirstForward = false)
    (known : place ∈ document.places) (picked : Selector.picks ".gmail_attr" place = true)
    (free : ∀ upper ∈ place.ancestors, upper.data.hasClass Handler.gmailClass = false) :
    Collect.isEligible document Handler.builtin options place.id = true := by
  have member : ⟨"gmail_attr", ".gmail_attr", .refine Handler.gmailAttribution⟩ ∈
      Handler.builtin := .tail _ (.head _)
  have kept : (!isBelowContainer place) = true := by
    simpa [isBelowContainer] using free
  exact Collect.isEligible_of_resolve keeps member known picked
    ((mem_gmailAttribution place place).mpr ⟨rfl, kept⟩)

/-- The handler that leaves an element to a container around it does so because of its
outermost one, which no other one is around. -/
theorem exists_isEligible_around (keeps : options.ignoreFirstForward = false)
    (known : place ∈ document.places)
    (picked : Selector.picks ".gmail_quote" place = true ∨
      Selector.picks ".gmail_attr" place = true)
    (listed : ∀ outer ∈ outermostContainer? place,
      Selector.picks ".gmail_quote" outer = true) :
    ∃ node, Collect.isEligible document Handler.builtin options node = true ∧
      (node = place.id ∨ node ∈ document.content.ancestors place.id) := by
  cases outermost : outermostContainer? place with
  | none =>
      have free := Place.outermost?_eq_none.mp outermost
      refine ⟨place.id, ?_, .inl rfl⟩
      rcases picked with isQuote | isAttribution
      · exact isEligible_quote keeps known isQuote free
      · exact isEligible_attribution keeps known isAttribution free
  | some outer =>
      obtain ⟨above, -, free⟩ := Place.outermost?_eq_some outermost
      have inside := Forest.ancestors_subset_places known above
      exact ⟨outer.id, isEligible_quote keeps inside (listed outer outermost) free,
        .inr (Forest.mem_ancestors_of_places document.content_distinct known above)⟩

/-- Where classes have the white space of ASCII only, what has a word of a container has the
class of one. -/
theorem picks_outermostContainer
    (common : ∀ upper ∈ document.places, hasCommonSpace upper = true)
    (known : place ∈ document.places) :
    ∀ outer ∈ outermostContainer? place, picks ".gmail_quote" outer = true := by
  intro outer outermost
  obtain ⟨above, isContainer, -⟩ := Place.outermost?_eq_some outermost
  have inside := Forest.ancestors_subset_places known above
  rw [picks_eq_hasClass parse?_quote (common outer inside)]
  exact isContainer

/-- Each element with the class of a quote or of an attribution line is a quote or lies in
one, however deep quotes may be nested, if the outermost node above it in whose class
containers have a word has the class of a container. So it goes when quotes are removed. -/
theorem collect_covers (document : Document) (options : Options)
    (keeps : options.ignoreFirstForward = false) :
    let quotes := collect document Handler.builtin options
    ∀ place ∈ document.places,
      Selector.picks ".gmail_quote" place = true ∨
        Selector.picks ".gmail_attr" place = true →
      (∀ outer ∈ outermostContainer? place, Selector.picks ".gmail_quote" outer = true) →
        (∃ quote ∈ quotes.members,
          quote = place.id ∨ quote ∈ document.content.ancestors place.id) ∧
        place.id ∉ (document.apply quotes .remove options.label).content.ids := by
  intro quotes place known picked listed
  have stay := Handler.builtin_staysIn document
  obtain ⟨node, chosen, around⟩ := exists_isEligible_around keeps known picked listed
  exact ⟨Collect.exists_quote_over stay chosen around,
    Collect.not_mem_ids_remove chosen around options.label⟩

/-- Where quotes may not be nested, an attribution line and a block quotation go with the
container that they are left to. -/
theorem collect_covers_chain :
    let document := Document.parse
      "<div class=gmail_quote><p class=gmail_attr>On<blockquote class=gmail_quote>a</div>"
    let options : Options := { depth := .levels 0 }
    let quotes := collect document Handler.builtin options
    options.ignoreFirstForward = false ∧
    ∃ place ∈ document.places, Selector.picks ".gmail_attr" place = true ∧
      (∀ outer ∈ outermostContainer? place, Selector.picks ".gmail_quote" outer = true) ∧
      place.id ∉ (document.apply quotes .remove options.label).content.ids := by
  intro document options quotes
  have exists_line : (∀ place ∈ document.places, hasCommonSpace place = true) ∧
      ∃ place ∈ document.places, Selector.picks ".gmail_attr" place = true := by decide
  obtain ⟨common, place, known, picked⟩ := exists_line
  have listed := picks_outermostContainer common known
  exact ⟨rfl, place, known, picked, listed,
    (collect_covers document options rfl place known (.inr picked) listed).2⟩

/-- A no-break space separates words, but not classes. A quote inside of what only seems
to be a container is left to it, and so it is no quote at all. -/
theorem not_collect_covers :
    let document := Document.parse
      "<div class='a\u00a0gmail_quote'><blockquote class=gmail_quote>old</blockquote></div>"
    let quotes := collect document Handler.builtin {}
    ∃ place ∈ document.places, Selector.picks ".gmail_quote" place = true ∧
      quotes.members = [] ∧
      place.id ∈ (document.apply quotes .remove defaultLabel).content.ids := by
  decide +kernel

end Gmail

namespace Gmail

open Selector

/-- Whether the only classes are those of quotes and of attribution lines, and nothing else
is there that a handler goes by but the names of elements. -/
def IsPlain (document : Document) : Prop :=
  ∀ place ∈ document.places,
    (∀ name ∈ ["id", "style", "type"], place.data.attribute? name = none) ∧
      place.data.attribute? "class" ∈ [none, some "gmail_quote", some "gmail_attr"]

instance (document : Document) : Decidable (IsPlain document) :=
  inferInstanceAs (Decidable (∀ _ ∈ _, _ ∧ _))

/-- Whether a place is that of a quote's block quotation directly inside a container. -/
def isNested (place : Place) : Bool :=
  picks "blockquote" place && place.data.hasClass Handler.gmailClass && isInContainer place

def isContainer (place : Place) : Bool :=
  place.data.hasClass Handler.gmailClass && !isInner place

def isLoneAttribution (place : Place) : Bool :=
  place.data.hasClass "gmail_attr" && !isBelowContainer place

def isIntroduced (place : Place) : Bool :=
  picks "blockquote" place && Marker.opens place.text

def isSpared (options : Options) (place : Place) : Bool :=
  options.ignoreFirstForward && Marker.isForward place.text

def isCandidate (options : Options) (place : Place) : Bool :=
  (isContainer place || isLoneAttribution place || isIntroduced place) &&
    !isSpared options place

/-- Whether a place is one of the nested levels of quotes. -/
def isLevel (options : Options) (place : Place) : Bool :=
  isCandidate options place && !isNested place

/-- Conditions that ask for what is not in a message with the markup of Gmail only. -/
private def isForeign : Condition → Bool
  | .id _ => true
  | .hasClass name => name ∉ ["gmail_quote", "gmail_attr"]
  | .attribute false name _ => ["id", "style", "type"].contains name
  | _ => false

section Plain

variable {document : Document} {options : Options} {place : Place}

private theorem attribute?_class (plain : IsPlain document) (known : place ∈ document.places)
    {classes : String} (found : place.data.attribute? "class" = some classes) :
    classes = "gmail_quote" ∨ classes = "gmail_attr" := by
  have member := (plain place known).2
  rw [found] at member
  simpa using member

private theorem hasCommonSpace_of_isPlain (plain : IsPlain document)
    (known : place ∈ document.places) :
    hasCommonSpace place = true := by
  unfold hasCommonSpace
  cases found : place.data.attribute? "class" with
  | none => rfl
  | some classes =>
      rcases attribute?_class plain known found with rfl | rfl
      · decide
      · decide

private theorem hasClass_iff (plain : IsPlain document) (known : place ∈ document.places)
    (name : String) : place.data.hasClass name = true ↔
      place.data.attribute? "class" = some name := by
  unfold NodeData.hasClass
  cases found : place.data.attribute? "class" with
  | none => simp
  | some classes =>
      have single : Text.words classes.toList = [classes.toList] := by
        rcases attribute?_class plain known found with rfl | rfl
        · decide
        · decide
      simp only [single, List.contains_cons, List.contains_nil, Bool.or_false, beq_iff_eq,
        Option.some.injEq, String.toList_inj]
      exact eq_comm

private theorem lowerAscii_of_mem : ∀ name ∈ ["id", "style", "type"], lowerAscii name = name := by
  decide

private theorem holds_of_isForeign (plain : IsPlain document) (known : place ∈ document.places)
    {condition : Condition} (foreign : isForeign condition = true) :
    condition.holds place = false := by
  obtain ⟨bare, -⟩ := plain place known
  cases condition with
  | id name => simp [Condition.holds, bare "id" (by decide)]
  | hasClass name =>
      rw [← hasClass_eq_holds name (hasCommonSpace_of_isPlain plain known), ← Bool.not_eq_true,
        hasClass_iff plain known]
      intro found
      rcases attribute?_class plain known found with rfl | rfl
      · cases foreign
      · cases foreign
  | «attribute» anySpace name test =>
      cases anySpace with
      | true => cases foreign
      | false =>
          have member : name ∈ ["id", "style", "type"] := by simpa [isForeign] using foreign
          exact Condition.attribute_eq_false (lowerAscii_of_mem name member) (bare name member)
  | _ => cases foreign

/-- The handlers that go by an identifier, another class, a style or a type. -/
private def foreignHandlers : List Handler := (Handler.builtin.drop 2).take 12

private theorem builtin_eq : Handler.builtin =
    ⟨"gmail", ".gmail_quote", .refine Handler.gmail⟩ ::
      ⟨"gmail_attr", ".gmail_attr", .refine Handler.gmailAttribution⟩ ::
        (foreignHandlers ++ [⟨"preamble_blockquote", "blockquote", .refine Handler.introduced⟩]) :=
  rfl

private theorem demands_isForeign : ∀ handler ∈ foreignHandlers,
    (parse? handler.selector).all (demands isForeign) = true := by
  decide +kernel

private theorem finds_foreign (plain : IsPlain document) {handler : Handler}
    (member : handler ∈ foreignHandlers) (node : NodeId) :
    handler.finds document node = false := by
  rw [← Bool.not_eq_true, Handler.finds_iff]
  intro ⟨matched, known, picked, _⟩
  obtain ⟨condition, foreign, holds⟩ :=
    exists_condition_of_picks (demands_isForeign handler member) picked
  rw [holds_of_isForeign plain known foreign] at holds
  cases holds

private theorem finds_refine {name selector : String} {elements : Place → List Place}
    {kept : Place → Bool} (resolved : ∀ matched quote, quote ∈ elements matched ↔
      quote = matched ∧ kept matched = true) (known : place ∈ document.places) :
    Handler.finds ⟨name, selector, .refine elements⟩ document place.id =
      (picks selector place && kept place) := by
  rw [Bool.eq_iff_iff, Handler.finds_iff, Bool.and_eq_true]
  constructor
  · intro ⟨matched, known', picked, quote, chosen, same⟩
    obtain ⟨rfl, isKept⟩ := (resolved matched quote).mp chosen
    obtain rfl := Forest.placesIn_unique document.content_distinct known' known same
    exact ⟨picked, isKept⟩
  · intro ⟨picked, isKept⟩
    exact ⟨place, known, picked, place, (resolved place place).mpr ⟨rfl, isKept⟩, rfl⟩

private theorem isEligible_eq_isCandidate (plain : IsPlain document)
    (known : place ∈ document.places) :
    Collect.isEligible document Handler.builtin options place.id = isCandidate options place := by
  have none : foreignHandlers.any (·.finds document place.id) = false :=
    List.any_eq_false.mpr fun handler member =>
      Bool.eq_false_iff.mp (finds_foreign plain member place.id)
  have common := hasCommonSpace_of_isPlain plain known
  have forward : Collect.isForward document place.id = Marker.isForward place.text :=
    Collect.isForward_eq (Forest.find?_of_places document.content_distinct known)
  have container : Handler.finds ⟨"gmail", ".gmail_quote", .refine Handler.gmail⟩ document
      place.id = isContainer place := by
    rw [finds_refine mem_gmail known, picks_eq_hasClass parse?_quote common]
    rfl
  have attribution : Handler.finds ⟨"gmail_attr", ".gmail_attr",
      .refine Handler.gmailAttribution⟩ document place.id = isLoneAttribution place := by
    rw [finds_refine mem_gmailAttribution known, picks_eq_hasClass parse?_attribution common]
    rfl
  have introduced : Handler.finds ⟨"preamble_blockquote", "blockquote",
      .refine Handler.introduced⟩ document place.id = isIntroduced place :=
    finds_refine (fun _ _ => Handler.mem_introduced) known
  simp only [Collect.isEligible, builtin_eq, List.any_cons, List.any_append, none, List.any_nil,
    container, attribution, introduced, forward, isCandidate, isSpared,
    Bool.false_or, Bool.or_false, Bool.or_assoc]

private theorem depthAmong_eq_countP (plain : IsPlain document) (known : place ∈ document.places) :
    Collect.depthAmong document (Collect.isEligible document Handler.builtin options) place.id =
      place.ancestors.countP (isCandidate options) := by
  rw [Collect.depthAmong, ← List.countP_reverse,
    ← Forest.map_id_ancestors document.content_distinct known, List.countP_map]
  refine List.countP_congr fun upper above => ?_
  have known' := Forest.ancestors_subset_places known above
  rw [Function.comp_apply, isEligible_eq_isCandidate plain known']

private theorem mem_collect_iff_isCandidate (plain : IsPlain document)
    (known : place ∈ document.places) :
    place.id ∈ (collect document Handler.builtin options).members ↔
      isCandidate options place = true ∧
        options.depth.allows (place.ancestors.countP (isCandidate options)) = true := by
  rw [Collect.mem_collect (Handler.builtin_staysIn document),
    isEligible_eq_isCandidate plain known, depthAmong_eq_countP plain known]

private theorem tagName?_of_picks (picked : picks "blockquote" place = true) :
    place.data.tagName? = some "blockquote" := by
  rw [picks, parse?_blockquote] at picked
  obtain ⟨element, named⟩ := Bool.and_eq_true_iff.mp picked
  have sought (name : Name) : soughtName "blockquote" name = "blockquote" := by
    unfold soughtName
    split
    · decide
    · rfl
  obtain ⟨name, kind⟩ := Option.isSome_iff_exists.mp element
  simp only [List.any_cons, List.any_nil, Bool.or_false, Complex.holds, List.all_cons,
    List.all_nil, Bool.and_true, Simple.holds, Condition.holds, sought, beq_iff_eq, nameOf,
    kind, Option.getD_some] at named
  rw [NodeData.tagName?, kind, Option.map_some, named]
  decide

private theorem isCandidate_of_isNested (plain : IsPlain document) (known : place ∈ document.places)
    (nested : isNested place = true) :
    isCandidate options place = (Marker.opens place.text && !isSpared options place) := by
  rw [isNested, Bool.and_eq_true, Bool.and_eq_true] at nested
  obtain ⟨⟨quotation, isQuote⟩, inside⟩ := nested
  have inner : isInner place = true := by
    rw [isInner, tagName?_of_picks quotation, inside]
    rfl
  have notAttribution : place.data.hasClass "gmail_attr" = false := by
    rw [← Bool.not_eq_true, hasClass_iff plain known,
      (hasClass_iff plain known Handler.gmailClass).mp isQuote]
    decide
  rw [isCandidate, isContainer, isLoneAttribution, isIntroduced, inner, notAttribution, quotation,
    Bool.not_true, Bool.and_false, Bool.false_and, Bool.or_false, Bool.false_or, Bool.true_and]

private theorem countP_isCandidate
    (silent : ∀ upper ∈ place.ancestors, isCandidate options upper = true →
      isNested upper = false) :
    place.ancestors.countP (isCandidate options) = place.ancestors.countP (isLevel options) := by
  refine List.countP_congr fun upper above => ?_
  cases candidate : isCandidate options upper with
  | false => simp [isLevel, candidate]
  | true => simp [isLevel, candidate, silent upper above candidate]

end Plain

/-- A block quotation directly inside a container is a quote only if its text opens with a
marker. Where no such one is above it, a quote counts just the levels around it. -/
theorem mem_collect_iff_isLevel (document : Document) (options : Options)
    (plain : IsPlain document) :
    let quotes := collect document Handler.builtin options
    ∀ place ∈ document.places,
      (isNested place = true → (place.id ∈ quotes.members ↔
        (Marker.opens place.text = true ∧ isSpared options place = false) ∧
          options.depth.allows (place.ancestors.countP (isCandidate options)) = true)) ∧
      (isNested place = false →
        (∀ upper ∈ place.ancestors, isNested upper = true → Marker.opens upper.text = false) →
        (place.id ∈ quotes.members ↔ isLevel options place = true ∧
          options.depth.allows (place.ancestors.countP (isLevel options)) = true)) := by
  intro quotes place known
  constructor
  · intro nested
    rw [mem_collect_iff_isCandidate plain known, isCandidate_of_isNested plain known nested,
      Bool.and_eq_true, Bool.not_eq_true']
  · intro other silent
    have single : ∀ upper ∈ place.ancestors, isCandidate options upper = true →
        isNested upper = false := by
      intro upper above candidate
      by_contra nested
      rw [Bool.not_eq_false] at nested
      have known' := Forest.ancestors_subset_places known above
      rw [isCandidate_of_isNested plain known' nested, silent upper above nested] at candidate
      cases candidate
    rw [mem_collect_iff_isCandidate plain known, countP_isCandidate single, isLevel, other,
      Bool.not_false, Bool.and_true]

/-- In a chain of two replies the inner container is at the second level. -/
theorem mem_collect_iff_isLevel_chain :
    let document := Document.parse
      "<div class=gmail_quote><blockquote class=gmail_quote>a<div class=gmail_quote>b</div></div>"
    let options : Options := { depth := .levels 1 }
    let quotes := collect document Handler.builtin options
    IsPlain document ∧ ∃ place ∈ document.places, isNested place = false ∧
      place.text = ['b'] ∧ place.id ∈ quotes.members := by
  intro document options quotes
  have exists_inner : IsPlain document ∧ ∃ place ∈ document.places, isNested place = false ∧
      place.text = ['b'] ∧ (∀ upper ∈ place.ancestors, isNested upper = true →
        Marker.opens upper.text = false) ∧ isLevel options place = true ∧
      options.depth.allows (place.ancestors.countP (isLevel options)) = true := by
    decide
  obtain ⟨plain, place, known, other, text, silent, level, allowed⟩ := exists_inner
  have exact := (mem_collect_iff_isLevel document options plain place known).2 other silent
  exact ⟨plain, place, known, other, text, exact.mpr ⟨level, allowed⟩⟩

/-- A block quotation inside a container that repeats an attribution line is counted again,
so that the second container is too deep for two levels. -/
theorem not_mem_collect_iff_isLevel :
    let document := Document.parse ("<div class=gmail_quote><blockquote class=gmail_quote>" ++
      "On Monday, Alice wrote:<div class=gmail_quote>b</div></blockquote></div>")
    let options : Options := { depth := .levels 1 }
    let quotes := collect document Handler.builtin options
    IsPlain document ∧
      (∃ place ∈ document.places, isNested place = true ∧ place.id ∈ quotes.members) ∧
      ∃ place ∈ document.places, isLevel options place = true ∧
        place.ancestors.countP (isLevel options) = 1 ∧ place.id ∉ quotes.members := by
  intro document options quotes
  have exists_both : IsPlain document ∧
      (∃ place ∈ document.places, isNested place = true ∧ isCandidate options place = true ∧
        options.depth.allows (place.ancestors.countP (isCandidate options)) = true) ∧
      ∃ place ∈ document.places, isLevel options place = true ∧
        place.ancestors.countP (isLevel options) = 1 ∧
        options.depth.allows (place.ancestors.countP (isCandidate options)) = false := by
    decide +kernel
  obtain ⟨plain, ⟨outer, known, nested, counted⟩, inner, known', level, one, deep⟩ := exists_both
  refine ⟨plain, ⟨outer, known, nested, ?_⟩, inner, known', level, one, ?_⟩
  · exact (mem_collect_iff_isCandidate plain known).mpr counted
  · intro quote
    have allowed := ((mem_collect_iff_isCandidate plain known').mp quote).2
    rw [deep] at allowed
    cases allowed

end Gmail

end MailQuote
