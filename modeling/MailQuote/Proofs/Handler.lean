import MailQuote.Collect
import MailQuote.Proofs.Forest.Places

namespace MailQuote

open Html

/-- Whether the elements that a rule gives for an element of a document are
elements of that document themselves. -/
def Rule.StaysIn (rule : Rule) (document : Document) : Prop :=
  match rule with
  | .select => True
  | .refine elements =>
      ∀ place ∈ document.places, place.isElement = true →
        ∀ quote ∈ elements place, quote.id ∈ document.content.elementIds

/-- Whether a place is a given one, an element next to it, or an element that follows
it. -/
inductive Html.Place.IsBeside (place : Place) : Place → Prop
  | self : IsBeside place place
  | next {other : Place} (found : place.nextElement? = some other) : IsBeside place other
  | previous {other : Place} (found : place.previousElement? = some other) :
      IsBeside place other
  | following {other : Place} (member : other ∈ place.withFollowing) :
      IsBeside place other

/-- Whether a handler whose selector can be read finds a node. -/
def Handler.finds (handler : Handler) (document : Document) (node : NodeId) : Bool :=
  match Selector.parse? handler.selector with
  | some selector =>
      (selector.select document).any fun matched =>
        (handler.resolve matched).any fun quote => quote.id == node
  | none => false

namespace Html.Forest

private theorem elementIds_of_placesIn {forest before : Forest} {above : List Level}
    {place : Place} (member : place ∈ placesIn above before forest)
    (element : place.isElement = true) : place.id ∈ forest.elementIds := by
  obtain ⟨parent, known⟩ := exists_node_of_placesIn member none
  exact (mem_elementIds none).mpr ⟨_, known, element, rfl⟩

end Html.Forest

namespace Html.Place

variable {document : Document} {place other : Place}

/-- What is beside an element of a document is an element of that document. -/
theorem IsBeside.mem_places (known : place ∈ document.places)
    (self : place.isElement = true) (beside : place.IsBeside other) :
    other ∈ document.places ∧ other.isElement = true := by
  cases beside with
  | self => exact ⟨known, self⟩
  | next found =>
      have member : other ∈ place.following := List.mem_of_find?_eq_some found
      exact ⟨Forest.following_subset known member, List.find?_some found⟩
  | previous found =>
      have member : other ∈ place.preceding := List.mem_of_find?_eq_some found
      exact ⟨Forest.preceding_subset known member, List.find?_some found⟩
  | following member =>
      rcases List.mem_cons.mp member with rfl | later
      · exact ⟨known, self⟩
      · obtain ⟨member, element⟩ := List.mem_filter.mp later
        exact ⟨Forest.following_subset known member, element⟩

private theorem IsBeside.mem_elementIds (known : place ∈ document.places)
    (self : place.isElement = true) (beside : place.IsBeside other) :
    other.id ∈ document.content.elementIds := by
  obtain ⟨known, element⟩ := beside.mem_places known self
  exact Forest.elementIds_of_placesIn known element

end Html.Place

namespace Handler

theorem mem_elementIds_of_finds {handler : Handler} {document : Document} {node : NodeId}
    (stays : handler.rule.StaysIn document)
    (found : handler.finds document node = true) : node ∈ document.content.elementIds := by
  unfold finds at found
  cases parsed : Selector.parse? handler.selector with
  | none => simp [parsed] at found
  | some selector =>
      simp only [parsed, List.any_eq_true, beq_iff_eq] at found
      obtain ⟨matched, selected, quote, resolved, rfl⟩ := found
      obtain ⟨known, chosen⟩ := List.mem_filter.mp selected
      have element : matched.isElement = true := (Bool.and_eq_true_iff.mp chosen).1
      unfold resolve at resolved
      cases kind : handler.rule with
      | select =>
          rw [kind] at resolved
          rw [List.mem_singleton.mp resolved]
          exact Forest.elementIds_of_placesIn known element
      | refine elements =>
          rw [kind] at resolved stays
          exact stays matched known element quote resolved

section Registry

variable {place quote : Place}

theorem eq_of_mem_gmail (member : quote ∈ gmail place) : quote = place := by
  simp only [gmail, List.mem_ite_nil_left, List.mem_singleton] at member
  exact member.2

theorem eq_of_mem_gmailAttribution (member : quote ∈ gmailAttribution place) :
    quote = place := by
  simp only [gmailAttribution, List.mem_ite_nil_left, List.mem_singleton] at member
  exact member.2

theorem mem_introduced :
    quote ∈ introduced place ↔ quote = place ∧ Marker.opens place.text = true := by
  simp [introduced, and_comm]

theorem mem_outlookDesktop : quote ∈ outlookDesktop place ↔
    (place.previousElement? = some quote ∧ quote.data.tagName? = some "hr") ∨
      quote ∈ place.withFollowing := by
  rw [outlookDesktop, List.mem_append]
  refine or_congr_left ?_
  cases place.previousElement? with
  | none => simp
  | some previous =>
      simp only [List.mem_ite_nil_right, List.mem_singleton, Option.some.injEq]
      constructor
      · rintro ⟨line, rfl⟩
        exact ⟨rfl, line⟩
      · rintro ⟨rfl, line⟩
        exact ⟨line, rfl⟩

theorem mem_thunderbird : quote ∈ thunderbird place ↔
    ∃ next, place.nextElement? = some next ∧ next.data.isCitation = true ∧
      (quote = place ∨ quote = next) := by
  unfold thunderbird
  cases place.nextElement? <;> simp

theorem mem_citationAfterCitation : quote ∈ citationAfterCitation place ↔
    ∃ previous, place.previousElement? = some previous ∧
      previous.tree.hasCitation = true ∧ (quote = previous ∨ quote = place) := by
  unfold citationAfterCitation
  cases place.previousElement? <;> simp

private theorem isBeside_of_outlookDesktop (member : quote ∈ outlookDesktop place) :
    place.IsBeside quote := by
  rcases mem_outlookDesktop.mp member with ⟨found, -⟩ | following
  · exact .previous found
  · exact .following following

private theorem isBeside_of_thunderbird (member : quote ∈ thunderbird place) :
    place.IsBeside quote := by
  obtain ⟨next, found, -, rfl | rfl⟩ := mem_thunderbird.mp member
  · exact .self
  · exact .next found

private theorem isBeside_of_citationAfterCitation (member : quote ∈ citationAfterCitation place) :
    place.IsBeside quote := by
  obtain ⟨previous, found, -, rfl | rfl⟩ := mem_citationAfterCitation.mp member
  · exact .previous found
  · exact .self

/-- What a handler for a known mail program makes of an element is beside that element. -/
theorem isBeside_of_resolve : ∀ handler ∈ builtin, ∀ {place quote : Place},
    quote ∈ handler.resolve place → place.IsBeside quote := by
  have self {place quote : Place} (same : quote = place) : place.IsBeside quote :=
    same ▸ .self
  have selected {place quote : Place} (member : quote ∈ [place]) : place.IsBeside quote :=
    self (List.mem_singleton.mp member)
  simp only [builtin, List.forall_mem_cons, List.not_mem_nil, false_implies, implies_true,
    and_true]
  exact ⟨fun member => self (eq_of_mem_gmail member),
    fun member => self (eq_of_mem_gmailAttribution member), isBeside_of_outlookDesktop,
    .following, .following, selected, selected, isBeside_of_thunderbird, selected, selected,
    selected, selected, selected, isBeside_of_citationAfterCitation,
    fun member => self (mem_introduced.mp member).1⟩

theorem builtin_staysIn (document : Document) :
    ∀ handler ∈ builtin, handler.rule.StaysIn document := by
  intro handler member
  unfold Rule.StaysIn
  split
  · trivial
  · next elements kind =>
      intro place known self quote found
      have resolved : quote ∈ handler.resolve place := by rwa [resolve, kind]
      exact (isBeside_of_resolve handler member resolved).mem_elementIds known self

end Registry

end Handler

namespace Text

private theorem runs_congr {first second : Char → Bool} {text : List Char}
    (same : ∀ c ∈ text, first c = second c) : runs first text = runs second text := by
  induction text with
  | nil => rfl
  | cons c rest ih =>
      obtain ⟨here, later⟩ := List.forall_mem_cons.mp same
      cases rest with
      | nil => simp only [runs, here]
      | cons d rest =>
          have next := same d (.tail _ (.head _))
          have others := ih later
          rw [runs, runs, here, next, others]

end Text

namespace Selector

/-- Whether a text can be read as a selector, and that selects a place. -/
def picks (text : String) (place : Place) : Bool :=
  match parse? text with
  | some selector => selector.selects place
  | none => false

/-- The conditions on the element itself. -/
def Complex.conditions : Complex → List Simple
  | .compound conditions => conditions
  | .combined _ _ conditions => conditions

def Simple.isOf (kind : Condition → Bool) : Simple → Bool
  | .plain condition => kind condition
  | .negated _ => false

/-- Whether each alternative has a condition of a kind on the element itself. -/
def demands (kind : Condition → Bool) (selector : Selector) : Bool :=
  selector.alternatives.all fun complex => complex.conditions.any (·.isOf kind)

/-- Whether the white space in the class of a place is all white space for selectors, too: that
of ASCII apart from the vertical tab. -/
def hasCommonSpace (place : Place) : Bool :=
  (place.data.attribute? "class").all fun classes =>
    classes.toList.all fun c => Text.isBlank c == Lexer.isSpace c

variable {place : Place}

private theorem Complex.conditions_hold {complex : Complex} (holds : complex.holds place = true) :
    ∀ simple ∈ complex.conditions, simple.holds place = true := by
  cases complex with
  | compound conditions => exact List.all_eq_true.mp holds
  | combined other combinator conditions =>
      exact List.all_eq_true.mp (Bool.and_eq_true_iff.mp holds).1

theorem exists_condition_of_picks {text : String} {kind : Condition → Bool}
    (demanded : (parse? text).all (demands kind) = true) (picked : picks text place = true) :
    ∃ condition, kind condition = true ∧ condition.holds place = true := by
  unfold picks at picked
  cases parsed : parse? text with
  | none => simp [parsed] at picked
  | some selector =>
      rw [parsed] at picked demanded
      obtain ⟨-, some⟩ := Bool.and_eq_true_iff.mp picked
      obtain ⟨complex, member, holds⟩ := List.any_eq_true.mp some
      obtain ⟨simple, inside, isOf⟩ :=
        List.any_eq_true.mp (List.all_eq_true.mp demanded complex member)
      have here := Complex.conditions_hold holds simple inside
      cases simple with
      | plain condition => exact ⟨condition, isOf, here⟩
      | negated conditions => cases isOf

theorem hasClass_eq_holds (name : String) (common : hasCommonSpace place = true) :
    place.data.hasClass name = (Condition.hasClass name).holds place := by
  unfold NodeData.hasClass Condition.holds
  cases found : place.data.attribute? "class" with
  | none => rfl
  | some classes =>
      rw [hasCommonSpace, found, Option.all_some, List.all_eq_true] at common
      have words : Text.words classes.toList =
          Text.runs (fun c => !Lexer.isSpace c) classes.toList :=
        Text.runs_congr fun c member => congrArg (!·) (beq_iff_eq.mp (common c member))
      simp only [words]

theorem soughtName_of_lower {name : String} (lower : lowerAscii name = name) (element : Name) :
    soughtName name element = name := by
  unfold soughtName
  split
  · exact lower
  · rfl

private theorem not_mem_of_find?_eq_none {name : AttrName} {attributes : List Attr}
    (absent : Attr.find? name attributes = none) : ∀ attr ∈ attributes, attr.name ≠ name := by
  induction attributes with
  | nil => nofun
  | cons first others ih =>
      rw [Attr.find?] at absent
      split at absent
      · cases absent
      · next other => exact List.forall_mem_cons.mpr ⟨other, ih absent⟩

private theorem attributesOf_of_attribute?_eq_none {data : NodeData} {name : String}
    (absent : data.attribute? name = none) :
    ∀ attr ∈ attributesOf data, attr.name ≠ ⟨.plain, name⟩ := by
  cases data with
  | element _ attributes => exact not_mem_of_find?_eq_none absent
  | text => nofun
  | comment => nofun
  | doctype => nofun

theorem Condition.attribute_eq_false {name : String} {test : ValueTest}
    (lower : lowerAscii name = name) (absent : place.data.attribute? name = none) :
    (Condition.attribute false name test).holds place = false := by
  simp only [Condition.holds, soughtName_of_lower lower, List.any_eq_false, Bool.false_or,
    Bool.and_eq_true, beq_iff_eq, not_and]
  intro attr inside ⟨plainSpace, sameName⟩
  obtain ⟨⟨space, localName⟩, value⟩ := attr
  obtain rfl : space = .plain := plainSpace
  obtain rfl : localName = name := sameName
  exact absurd rfl (attributesOf_of_attribute?_eq_none absent _ inside)

private theorem isElement_of_attribute? {name value : String}
    (found : place.data.attribute? name = some value) : place.isElement = true := by
  unfold Place.isElement
  cases kind : place.data with
  | element => rfl
  | text => simp [kind, NodeData.attribute?] at found
  | comment => simp [kind, NodeData.attribute?] at found
  | doctype => simp [kind, NodeData.attribute?] at found

private theorem isElement_of_hasClass {name : String} (holds : place.data.hasClass name = true) :
    place.isElement = true := by
  unfold NodeData.hasClass at holds
  cases found : place.data.attribute? "class" with
  | none => simp [found] at holds
  | some classes => exact isElement_of_attribute? found

/-- A selector that asks for nothing but a class selects what has it as a word. -/
theorem picks_eq_hasClass {text name : String}
    (parsed : parse? text = some ⟨[.compound [.plain (.hasClass name)]]⟩)
    (common : hasCommonSpace place = true) : picks text place = place.data.hasClass name := by
  have element : place.data.hasClass name = true → place.isElement = true :=
    isElement_of_hasClass
  rw [picks, parsed]
  simp only [selects, List.any_cons, List.any_nil, Bool.or_false, Complex.holds, List.all_cons,
    List.all_nil, Bool.and_true, Simple.holds, ← hasClass_eq_holds name common]
  cases holds : place.data.hasClass name with
  | false => exact Bool.and_false _
  | true => rw [element holds, Bool.true_and]

end Selector

namespace Handler

variable {handler : Handler} {document : Document}

theorem finds_iff {node : NodeId} :
    handler.finds document node = true ↔ ∃ matched ∈ document.places,
      Selector.picks handler.selector matched = true ∧
        ∃ quote ∈ handler.resolve matched, quote.id = node := by
  unfold finds Selector.picks
  cases Selector.parse? handler.selector with
  | none => simp
  | some selector => simp [Selector.select]

end Handler

end MailQuote
