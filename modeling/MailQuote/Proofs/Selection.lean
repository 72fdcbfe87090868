import Mathlib.Data.List.Basic
import MailQuote.Message

namespace MailQuote

open Mime

namespace Request

variable {first second : Request}

private theorem htmlOutcome_congr (html : first.html = second.html)
    (handlers : first.handlers = second.handlers) (options : first.options = second.options) :
    first.htmlOutcome = second.htmlOutcome := by
  rw [htmlOutcome, htmlOutcome, html, handlers, options]

private theorem textOutcome_congr (text : first.text = second.text) :
    first.textOutcome = second.textOutcome := by
  rw [textOutcome, textOutcome, text]

end Request

namespace Selection

/-- Whether a part is of one kind at most. -/
def isSingle (part : Entity) : Bool :=
  !(part.type.mentions Slot.text.mediaName && part.type.mentions Slot.html.mediaName)

section Kinds

variable (charsets : Charsets)

/-- The body that a part makes for a slot, if it is of the kind and can be decoded. -/
def bodyFor? (slot : Slot) (part : Entity) : Option String :=
  if part.type.mentions slot.mediaName then (part.text? charsets).toOption else none

/-- Whether a part is of a kind and has a given text when it is decoded. -/
def Gives (slot : Slot) (part : Entity) (body : String) : Prop :=
  part.type.mentions slot.mediaName = true ∧ part.text? charsets = .ok body

/-- Whether a text is that of the first of some parts that are of a kind and can be decoded. -/
def IsFirst (slot : Slot) (parts : List Entity) (body : String) : Prop :=
  ∃ earlier part later, parts = earlier ++ part :: later ∧ Gives charsets slot part body ∧
    ∀ other ∈ earlier, ∀ text, ¬ Gives charsets slot other text

def readable (slot : Slot) (parts : List Entity) : List Entity :=
  parts.filter fun part => (bodyFor? charsets slot part).isSome

end Kinds

variable {charsets : Charsets} {selection : Selection} {slot : Slot} {part : Entity}
  {parts others : List Entity} {body : String}

private theorem toOption_eq_some {ε α : Type} {result : Except ε α} {value : α} :
    result.toOption = some value ↔ result = .ok value := by
  cases result <;> simp [Except.toOption]

private theorem bodyFor?_eq_some :
    bodyFor? charsets slot part = some body ↔ Gives charsets slot part body := by
  simp [bodyFor?, Gives, toOption_eq_some]

private theorem bodyFor?_eq_none :
    bodyFor? charsets slot part = none ↔ ∀ text, ¬ Gives charsets slot part text := by
  simp only [← bodyFor?_eq_some, Option.eq_none_iff_forall_ne_some, ne_eq]

private theorem get_fill (selection : Selection) (slot other : Slot) (body : String) :
    (selection.fill slot body).get other =
      if other = slot then some body else selection.get other := by
  cases slot <;> cases other <;> rfl

private theorem slotFor?_eq_some (single : isSingle part = true) :
    selection.slotFor? part.type = some slot ↔ selection.accepts part.type slot = true := by
  refine ⟨List.find?_some, fun accepted => ?_⟩
  cases slot with
  | text => exact List.find?_cons_of_pos accepted
  | html =>
      have refused : ¬ selection.accepts part.type .text = true := by
        intro accepted'
        rw [isSingle, (Bool.and_eq_true_iff.mp accepted).1,
          (Bool.and_eq_true_iff.mp accepted').1] at single
        cases single
      rw [slotFor?, List.find?_cons_of_neg refused, List.find?_cons_of_pos accepted]

private theorem or_bodyFor? (refused : selection.accepts part.type slot = false) :
    (selection.get slot).or (bodyFor? charsets slot part) = selection.get slot := by
  rw [accepts, Bool.and_eq_false_iff] at refused
  rcases refused with foreign | taken
  · rw [bodyFor?, foreign, if_neg Bool.false_ne_true, Option.or_none]
  · rw [Option.isNone_eq_false_iff] at taken
    exact Option.or_of_isSome taken

/-- Each slot is filled by itself: what other slots hold or are offered is no matter. -/
theorem get_offer (single : isSingle part = true) :
    (selection.offer charsets part).get slot =
      (selection.get slot).or (bodyFor? charsets slot part) := by
  cases accepted : selection.accepts part.type slot with
  | true =>
      obtain ⟨mentions, free⟩ := Bool.and_eq_true_iff.mp accepted
      rw [offer, (slotFor?_eq_some single).mpr accepted, Option.isNone_iff_eq_none.mp free,
        bodyFor?, if_pos mentions, Option.none_or]
      cases part.text? charsets with
      | ok body => simp only [get_fill, if_pos, Except.toOption]
      | error fault => exact Option.isNone_iff_eq_none.mp free
  | false =>
      -- The part may still go to the other slot, which leaves this one as it is.
      rw [or_bodyFor? accepted, offer]
      cases chosen : selection.slotFor? part.type with
      | none => rfl
      | some other =>
          have apart : slot ≠ other := by
            rintro rfl
            rw [(slotFor?_eq_some single).mp chosen] at accepted
            cases accepted
          cases part.text? charsets with
          | ok body => exact (get_fill _ _ _ _).trans (if_neg apart)
          | error fault => rfl

private theorem get_offerAll (single : ∀ part ∈ parts, isSingle part = true) :
    (selection.offerAll charsets parts).get slot =
      (selection.get slot).or (parts.findSome? (bodyFor? charsets slot)) := by
  induction parts generalizing selection with
  | nil => exact (Option.or_none).symm
  | cons part others ih =>
      obtain ⟨here, later⟩ := List.forall_mem_cons.mp single
      rw [offerAll, ih later, get_offer here, Option.or_assoc, List.findSome?_cons]
      cases bodyFor? charsets slot part <;> rfl

private theorem findSome?_eq_some : parts.findSome? (bodyFor? charsets slot) = some body ↔
    IsFirst charsets slot parts body := by
  simp only [List.findSome?_eq_some_iff, bodyFor?_eq_some, bodyFor?_eq_none, IsFirst]

private theorem findSome?_eq_none : parts.findSome? (bodyFor? charsets slot) = none ↔
    ∀ part ∈ parts, ∀ text, ¬ Gives charsets slot part text := by
  simp only [List.findSome?_eq_none_iff, bodyFor?_eq_none]

private theorem findSome?_readable :
    (readable charsets slot parts).findSome? (bodyFor? charsets slot) =
      parts.findSome? (bodyFor? charsets slot) := by
  induction parts with
  | nil => rfl
  | cons part others ih =>
      rw [readable, List.filter_cons, List.findSome?_cons]
      cases found : bodyFor? charsets slot part with
      | none => exact ih
      | some body => simp [found]

private theorem ofMessage_of_parts {message : Message} (several : message.parts ≠ .none) :
    ofMessage charsets message = .ok (({} : Selection).offerAll charsets message.parts.leaves) := by
  unfold ofMessage
  split
  · next none => exact absurd none several
  · rfl

private theorem ofMessage_of_root {message : Message} (alone : message.parts = .none) :
    ofMessage charsets message = ofRoot charsets message.root := by
  rw [ofMessage, alone]

private theorem ofRoot_of_text? {root : Entity} (decoded : root.text? charsets = .ok body) :
    ofRoot charsets root = .ok (if root.type.mentions Slot.html.mediaName then ⟨none, some body⟩
      else ⟨some body, none⟩) := by
  rw [ofRoot, decoded]
  cases root.type.mentions Slot.html.mediaName <;> rfl

private theorem get_ofParts {slot : Slot} (single : ∀ part ∈ parts, isSingle part = true) :
    (({} : Selection).offerAll charsets parts).get slot =
      parts.findSome? (bodyFor? charsets slot) := by
  rw [get_offerAll single]
  cases slot <;> rfl

private theorem bodies_eq (selection : Selection) (options : Options) : selection.bodies options =
    ⟨selection.html.map fun html =>
        ({ html := some html, text := none, options } : Request).htmlOutcome,
      selection.text.map fun text =>
        ({ html := none, text := some text, options } : Request).textOutcome⟩ := by
  obtain ⟨text, html⟩ := selection
  rw [bodies, Bodies.mk.injEq]
  constructor
  · cases html with
    | none => rfl
    | some html => exact congrArg some (Request.htmlOutcome_congr rfl rfl rfl)
  · cases text with
    | none => rfl
    | some text => exact congrArg some (Request.textOutcome_congr rfl)

private theorem ofMessage_of_read {raw : Octets} {message : Message}
    (read : Message.read charsets raw = .ok message) (options : Options) :
    Bodies.ofMessage raw options charsets =
      (ofMessage charsets message).map (·.bodies options) := by
  have whole : readMessage charsets raw = (ofMessage charsets message).map fun selection =>
      (message, selection) := by
    rw [readMessage, read]
    rfl
  rw [Bodies.ofMessage, whole]
  cases ofMessage charsets message <;> rfl

/-- Whichever character sets can be read, there is a result for each message that has parts.
The body in a slot is that of the first part of its kind that can be decoded, and is missing
only if there is no such part; other parts have no influence on it. A message without parts
has just one body, unless that cannot be decoded. The result for each body is that for the
body alone. -/
theorem bodies_exact (charsets : Charsets) (message : Message) (options : Options)
    (single : ∀ part ∈ message.parts.leaves, isSingle part = true) :
    let onHtml (html : String) : Outcome :=
      ({ html := some html, text := none, options } : Request).htmlOutcome
    let onText (text : String) : Outcome :=
      ({ html := none, text := some text, options } : Request).textOutcome
    let result := (ofMessage charsets message).map (·.bodies options)
    (∀ raw, Message.read charsets raw = .ok message →
      Bodies.ofMessage raw options charsets = result) ∧
    (message.parts ≠ .none → ∃ selection, ofMessage charsets message = .ok selection ∧
      result = .ok ⟨selection.html.map onHtml, selection.text.map onText⟩ ∧
      ∀ slot, (∀ body, selection.get slot = some body ↔
          IsFirst charsets slot message.parts.leaves body) ∧
        (selection.get slot = none ↔
          ∀ part ∈ message.parts.leaves, ∀ body, ¬ Gives charsets slot part body) ∧
        ∀ other : Message, other.parts ≠ .none →
          (∀ part ∈ other.parts.leaves, isSingle part = true) →
          readable charsets slot other.parts.leaves =
              readable charsets slot message.parts.leaves →
            ∃ selection', ofMessage charsets other = .ok selection' ∧
              selection'.get slot = selection.get slot) ∧
    (message.parts = .none →
      (∀ fault, result = .error (.decoding fault) ↔ message.root.text? charsets = .error fault) ∧
      ∀ body, message.root.text? charsets = .ok body → result = .ok
        (if message.root.type.mentions Slot.html.mediaName then ⟨some (onHtml body), none⟩
          else ⟨none, some (onText body)⟩)) := by
  intro onHtml onText result
  refine ⟨fun raw read => ofMessage_of_read read options, fun several => ?parts, fun alone => ?root⟩
  case parts =>
    have chosen : ofMessage charsets message = _ := ofMessage_of_parts several
    refine ⟨_, chosen, ?_, fun slot => ?_⟩
    · rw [show result = (ofMessage charsets message).map (·.bodies options) from rfl, chosen,
        Except.map, bodies_eq]
    · rw [get_ofParts single]
      refine ⟨fun body => findSome?_eq_some, findSome?_eq_none, ?_⟩
      intro other several' single' same
      refine ⟨_, ofMessage_of_parts several', ?_⟩
      rw [get_ofParts single', ← findSome?_readable, same, findSome?_readable]
  case root =>
    have whole : result = (ofRoot charsets message.root).map (·.bodies options) :=
      congrArg (Except.map (·.bodies options)) (ofMessage_of_root alone)
    rw [whole]
    cases decoded : message.root.text? charsets with
    | error fault =>
        have failed : ofRoot charsets message.root = .error (.decoding fault) := by
          rw [ofRoot, decoded]
        exact ⟨fun fault' => by simp [failed, Except.map], nofun⟩
    | ok body =>
        rw [ofRoot_of_text? decoded, Except.map, bodies_eq]
        refine ⟨fun fault' => ⟨nofun, nofun⟩, fun body' same => ?_⟩
        cases same
        split <;> rfl

/-- A part that cannot be decoded does not hide a later one, nor does one of another kind
that is a level deeper. -/
theorem bodies_exact_mixed :
    let charsets : Charsets := Charset.ofLabel?
    let part (media : String) (encoding : TransferEncoding) (body : String) : Entity :=
      ⟨⟨media, []⟩, encoding, Octets.ofText body.toList⟩
    let last : Entity := part "text/plain" .identity "Hello"
    let alone : Message := ⟨last, .none⟩
    let other : Message := ⟨part "multipart/mixed" .identity "", .part last .none .none⟩
    let message : Message := ⟨part "multipart/mixed" .identity "",
      .part (part "text/plain" .base64 "*") .none
        (.part (part "multipart/related" .identity "")
          (.part (part "text/html" .identity "<p>Hi</p>") .none .none)
          (.part last .none .none))⟩
    let raw := Octets.ofText "\nHello".toList
    ((∀ part ∈ message.parts.leaves, isSingle part = true) ∧ message.parts ≠ .none ∧
      ∃ selection, ofMessage charsets message = .ok selection ∧
        selection.text = some "Hello" ∧ selection.html = some "<p>Hi</p>") ∧
    ((∀ part ∈ other.parts.leaves, isSingle part = true) ∧ other.parts ≠ .none ∧
      readable charsets .text other.parts.leaves = readable charsets .text message.parts.leaves ∧
      ∃ selection, ofMessage charsets other = .ok selection ∧ selection.text = some "Hello") ∧
    Message.read charsets raw = .ok alone ∧ alone.parts = .none ∧
      alone.root.text? charsets = .ok "Hello" ∧
      ∃ text, Bodies.ofMessage raw {} charsets = .ok ⟨none, some text⟩ := by
  intro charsets part last alone other message raw
  have single : ∀ part ∈ message.parts.leaves, isSingle part = true := by decide
  have single' : ∀ part ∈ other.parts.leaves, isSingle part = true := by decide
  have same : readable charsets .text other.parts.leaves =
      readable charsets .text message.parts.leaves := by
    decide
  have read : Message.read charsets raw = .ok alone := toOption_eq_some.mp (by decide)
  have decoded : last.text? charsets = .ok "Hello" := toOption_eq_some.mp (by decide)
  have text : message.parts.leaves.findSome? (bodyFor? charsets .text) = some "Hello" := by
    decide
  have html : message.parts.leaves.findSome? (bodyFor? charsets .html) = some "<p>Hi</p>" := by
    decide
  obtain ⟨-, several, -⟩ := bodies_exact charsets message {} single
  obtain ⟨selection, chosen, -, slots⟩ := several nofun
  have chosenText : selection.text = some "Hello" :=
    ((slots .text).1 _).mpr (findSome?_eq_some.mp text)
  have chosenHtml : selection.html = some "<p>Hi</p>" :=
    ((slots .html).1 _).mpr (findSome?_eq_some.mp html)
  obtain ⟨selection', chosen', unmoved⟩ := (slots .text).2.2 other nofun single' same
  obtain ⟨whole, -, root⟩ := bodies_exact charsets alone {} nofun
  have plain : ¬ alone.root.type.mentions Slot.html.mediaName = true := by decide
  have result := (whole raw read).trans ((root rfl).2 "Hello" decoded)
  rw [if_neg plain] at result
  exact ⟨⟨single, nofun, selection, chosen, chosenText, chosenHtml⟩,
    ⟨single', nofun, same, selection', chosen', unmoved.trans chosenText⟩,
    read, rfl, decoded, _, result⟩

end Selection

end MailQuote
