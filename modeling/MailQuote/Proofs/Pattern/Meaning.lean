import MailQuote.Proofs.Pattern
import MailQuote.Proofs.Text

namespace MailQuote

namespace Pattern

/-- Whether a pattern takes `taken` where it stands between the character `previous` and
the text `after`. -/
def Takes : Pattern → (previous : Option Char) → (taken after : List Char) → Prop
  | .empty, _, taken, _ => taken = []
  | .lineStart, previous, taken, after =>
      taken = [] ∧ Cursor.atLineStart ⟨previous, after⟩ = true
  | .lineEnd, previous, taken, after =>
      taken = [] ∧ Cursor.atLineEnd ⟨previous, after⟩ = true
  | .one holds, _, taken, _ => ∃ c, taken = [c] ∧ holds c = true
  | .star holds, _, taken, _ => ∀ c ∈ taken, holds c = true
  | .seq first second, previous, taken, after =>
      ∃ front back, taken = front ++ back ∧ first.Takes previous front (back ++ after) ∧
        second.Takes (front.getLast?.or previous) back after
  | .alt first second, previous, taken, after =>
      first.Takes previous taken after ∨ second.Takes previous taken after

/-- Whether a pattern takes a whole text that stands alone. -/
def Accepts (pattern : Pattern) (text : List Char) : Prop :=
  pattern.Takes none text []

private theorem getLast?_append_or (front back : List Char) (previous : Option Char) :
    (front ++ back).getLast?.or previous = back.getLast?.or (front.getLast?.or previous) := by
  rw [List.getLast?_append, Option.or_assoc]

private theorem mem_beyond {holds : Char → Bool} {taken : List Char}
    (all : ∀ c ∈ taken, holds c = true) (previous : Option Char) (after : List Char) :
    ⟨taken.getLast?.or previous, after⟩ ∈ Cursor.beyond holds previous (taken ++ after) := by
  induction taken generalizing previous with
  | nil => exact Cursor.self_mem_beyond holds previous after
  | cons c rest ih =>
      obtain ⟨held, others⟩ := List.forall_mem_cons.mp all
      rw [List.cons_append, Cursor.beyond, if_pos held, Cursor.getLast?_or]
      exact List.mem_append_left _ (ih others (some c))

theorem mem_ends_of_takes {pattern : Pattern} {previous : Option Char}
    {taken after : List Char} (takes : pattern.Takes previous taken after) :
    ⟨taken.getLast?.or previous, after⟩ ∈ pattern.ends ⟨previous, taken ++ after⟩ := by
  induction pattern generalizing previous taken after with
  | empty =>
      obtain rfl := takes
      exact .head _
  | lineStart =>
      obtain ⟨rfl, atStart⟩ := takes
      exact List.mem_ite_nil_right.mpr ⟨atStart, .head _⟩
  | lineEnd =>
      obtain ⟨rfl, atEnd⟩ := takes
      exact List.mem_ite_nil_right.mpr ⟨atEnd, .head _⟩
  | one holds =>
      obtain ⟨c, rfl, held⟩ := takes
      exact List.mem_ite_nil_right.mpr ⟨held, .head _⟩
  | star holds => exact mem_beyond takes previous after
  | seq first second ihFirst ihSecond =>
      obtain ⟨front, back, rfl, known, known'⟩ := takes
      rw [List.append_assoc, getLast?_append_or]
      exact List.mem_flatMap.mpr ⟨_, ihFirst known, ihSecond known'⟩
  | alt first second ihFirst ihSecond =>
      rcases takes with known | known
      · exact List.mem_append_left _ (ihFirst known)
      · exact List.mem_append_right _ (ihSecond known)

theorem exists_takes {pattern : Pattern} {cursor reached : Cursor}
    (member : reached ∈ pattern.ends cursor) :
    ∃ taken, taken ++ reached.rest = cursor.rest ∧
      reached.previous = taken.getLast?.or cursor.previous ∧
      pattern.Takes cursor.previous taken reached.rest := by
  induction pattern generalizing cursor reached with
  | empty =>
      obtain rfl := List.mem_singleton.mp member
      exact ⟨[], rfl, rfl, rfl⟩
  | lineStart =>
      obtain ⟨atStart, here⟩ := List.mem_ite_nil_right.mp member
      obtain rfl := List.mem_singleton.mp here
      exact ⟨[], rfl, rfl, rfl, atStart⟩
  | lineEnd =>
      obtain ⟨atEnd, here⟩ := List.mem_ite_nil_right.mp member
      obtain rfl := List.mem_singleton.mp here
      exact ⟨[], rfl, rfl, rfl, atEnd⟩
  | one holds =>
      rw [ends] at member
      split at member
      · cases member
      · next c rest equality =>
          obtain ⟨held, here⟩ := List.mem_ite_nil_right.mp member
          obtain rfl := List.mem_singleton.mp here
          exact ⟨[c], equality.symm, rfl, c, rfl, held⟩
  | star holds => exact Cursor.exists_taken member
  | seq first second ihFirst ihSecond =>
      obtain ⟨between, known, member⟩ := List.mem_flatMap.mp member
      obtain ⟨front, whole, place, takes⟩ := ihFirst known
      obtain ⟨back, whole', place', takes'⟩ := ihSecond member
      refine ⟨front ++ back, ?_, ?_, front, back, rfl, ?_, ?_⟩
      · rw [List.append_assoc, whole', whole]
      · rw [place', place, getLast?_append_or]
      · rw [whole']
        exact takes
      · rw [← place]
        exact takes'
  | alt first second ihFirst ihSecond =>
      rcases List.mem_append.mp member with known | known
      · obtain ⟨taken, whole, place, takes⟩ := ihFirst known
        exact ⟨taken, whole, place, .inl takes⟩
      · obtain ⟨taken, whole, place, takes⟩ := ihSecond known
        exact ⟨taken, whole, place, .inr takes⟩

theorem takes_iff_exists_end {pattern : Pattern} {previous : Option Char}
    {taken after : List Char} :
    pattern.Takes previous taken after ↔
      ∃ place, ⟨place, after⟩ ∈ pattern.ends ⟨previous, taken ++ after⟩ := by
  refine ⟨fun takes => ⟨_, mem_ends_of_takes takes⟩, fun ⟨place, member⟩ => ?_⟩
  obtain ⟨other, whole, -, takes⟩ := exists_takes member
  rwa [List.append_cancel_right whole] at takes

/-- What a pattern takes at some place of a text is what it is found to match there. -/
theorem occursIn_iff {pattern : Pattern} {text : List Char} {found : Match} :
    pattern.OccursIn text found ↔ found.before ++ (found.matched ++ found.after) = text ∧
      pattern.Takes found.before.getLast? found.matched found.after := by
  rw [takes_iff_exists_end]
  exact ⟨fun ⟨whole, reaches⟩ => ⟨whole, reaches⟩, fun ⟨whole, reaches⟩ => ⟨whole, reaches⟩⟩

/-- What a pattern takes it takes elsewhere if the same stands there around it, or what it
asks nothing of. -/
theorem takes_elsewhere {pattern : Pattern} {previous other : Option Char}
    {taken after after' : List Char} (takes : pattern.Takes previous taken after)
    (front : pattern.isFreeBefore = true ∨ other = previous)
    (back : pattern.isFreeAfter = true ∨ after' = after) :
    pattern.Takes other taken after' := by
  induction pattern generalizing previous taken after other after' with
  | lineStart =>
      obtain rfl := front.resolve_left Bool.false_ne_true
      exact takes
  | lineEnd =>
      obtain rfl := back.resolve_left Bool.false_ne_true
      exact takes
  | seq first second ihFirst ihSecond =>
      simp only [isFreeBefore, isFreeAfter, Bool.and_eq_true] at front back
      obtain ⟨begins, rest, rfl, known, known'⟩ := takes
      refine ⟨begins, rest, rfl, ihFirst known (front.imp_left And.left) ?_,
        ihSecond known' ?_ (back.imp_left And.right)⟩
      · exact back.imp And.left (congrArg (rest ++ ·))
      · exact front.imp And.right (congrArg begins.getLast?.or)
  | alt first second ihFirst ihSecond =>
      simp only [isFreeBefore, isFreeAfter, Bool.and_eq_true] at front back
      exact takes.imp (ihFirst · (front.imp_left And.left) (back.imp_left And.left))
        (ihSecond · (front.imp_left And.right) (back.imp_left And.right))
  | _ => exact takes

theorem takes_of_isFree {pattern : Pattern} (free : pattern.isFree = true)
    {previous : Option Char} {taken after : List Char}
    (takes : pattern.Takes previous taken after) (other : Option Char) (after' : List Char) :
    pattern.Takes other taken after' :=
  takes_elsewhere takes (.inl (isFree_iff.mp free).1) (.inl (isFree_iff.mp free).2)

/-- A pattern that asks nothing of what stands around it takes a text wherever it takes it
alone. -/
theorem takes_iff_accepts {pattern : Pattern} (free : pattern.isFree = true)
    {previous : Option Char} {taken after : List Char} :
    pattern.Takes previous taken after ↔ pattern.Accepts taken :=
  ⟨fun takes => takes_of_isFree free takes none [], fun takes => takes_of_isFree free takes _ _⟩

private theorem takes_sequence_cons {first : Pattern} {others : List Pattern}
    {previous : Option Char} {taken after : List Char} :
    (sequence (first :: others)).Takes previous taken after ↔
      ∃ front back, taken = front ++ back ∧ first.Takes previous front (back ++ after) ∧
        (sequence others).Takes (front.getLast?.or previous) back after := by
  cases others with
  | nil =>
      refine ⟨fun takes => ⟨taken, [], (List.append_nil _).symm, takes, rfl⟩, ?_⟩
      rintro ⟨front, back, rfl, takes, rfl⟩
      rwa [List.append_nil]
  | cons => exact Iff.rfl

theorem takes_sequence_append {first second : List Pattern} {previous : Option Char}
    {taken after : List Char} :
    (sequence (first ++ second)).Takes previous taken after ↔
      ∃ front back, taken = front ++ back ∧
        (sequence first).Takes previous front (back ++ after) ∧
        (sequence second).Takes (front.getLast?.or previous) back after := by
  induction first generalizing previous taken with
  | nil =>
      refine ⟨fun takes => ⟨[], taken, rfl, rfl, takes⟩, ?_⟩
      rintro ⟨_, back, rfl, rfl, takes⟩
      exact takes
  | cons pattern others ih =>
      simp only [List.cons_append, takes_sequence_cons, ih]
      constructor
      · rintro ⟨front, _, rfl, here, middle, back, rfl, there, takes⟩
        refine ⟨front ++ middle, back, (List.append_assoc _ _ _).symm, ?_, ?_⟩
        · exact ⟨front, middle, rfl, by rwa [← List.append_assoc], there⟩
        · rwa [getLast?_append_or]
      · rintro ⟨_, back, rfl, ⟨front, middle, rfl, here, there⟩, takes⟩
        refine ⟨front, middle ++ back, List.append_assoc _ _ _, ?_, middle, back, rfl, there, ?_⟩
        · rwa [List.append_assoc]
        · rwa [← getLast?_append_or]

theorem takes_optional {pattern : Pattern} {previous : Option Char}
    {taken after : List Char} :
    (optional pattern).Takes previous taken after ↔
      pattern.Takes previous taken after ∨ taken = [] :=
  Iff.rfl

theorem takes_char {c : Char} {previous : Option Char} {taken after : List Char} :
    (char c).Takes previous taken after ↔ taken = [c] := by
  refine ⟨fun ⟨d, taken, same⟩ => ?_, fun taken => ⟨c, taken, beq_self_eq_true c⟩⟩
  rw [taken, beq_iff_eq.mp same]

theorem takes_plus {holds : Char → Bool} {previous : Option Char} {taken after : List Char} :
    (plus holds).Takes previous taken after ↔
      taken ≠ [] ∧ ∀ c ∈ taken, holds c = true := by
  constructor
  · rintro ⟨_, rest, rfl, ⟨c, rfl, held⟩, others⟩
    exact ⟨List.cons_ne_nil c rest, List.forall_mem_cons.mpr ⟨held, others⟩⟩
  · rintro ⟨some, all⟩
    obtain ⟨c, rest, rfl⟩ := List.exists_cons_of_ne_nil some
    obtain ⟨held, others⟩ := List.forall_mem_cons.mp all
    exact ⟨[c], rest, rfl, ⟨c, rfl, held⟩, others⟩

end Pattern

/-- Whether a place of a text and one of the text whose line feeds have carriage returns are
the same, or the second is before the line feed of the line end at which the first is. -/
inductive Cursor.Tracks : (cursor image : Cursor) → Prop
  | same (previous : Option Char) (rest : List Char) :
      Tracks ⟨previous, rest⟩ ⟨previous, Text.crlf rest⟩
  | between (previous : Option Char) (rest : List Char) :
      Tracks ⟨previous, '\n' :: rest⟩ ⟨some '\r', '\n' :: Text.crlf rest⟩

/-- Whether there is a line feed at a place. -/
def Cursor.AtFeed (cursor : Cursor) : Prop :=
  ∃ rest, cursor.rest = '\n' :: rest

namespace Pattern

open Cursor

section Repetition

variable {holds : Char → Bool} {previous : Option Char} {rest : List Char} {image : Cursor}

private theorem mem_beyond_cons {c : Char} (held : holds c = true) {reached : Cursor}
    (member : reached ∈ beyond holds (some c) rest) (previous : Option Char) :
    reached ∈ beyond holds previous (c :: rest) := by
  rw [beyond, if_pos held]
  exact List.mem_append_left _ member

private theorem exists_beyond_feed
    (later : ∀ image ∈ beyond holds (some '\n') (Text.crlf rest),
      ∃ reached ∈ beyond holds (some '\n') rest, reached.Tracks image)
    (member : image ∈ beyond holds (some '\r') ('\n' :: Text.crlf rest)) :
    ∃ reached ∈ beyond holds previous ('\n' :: rest), reached.Tracks image := by
  have here : image = ⟨some '\r', '\n' :: Text.crlf rest⟩ →
      ∃ reached ∈ beyond holds previous ('\n' :: rest), reached.Tracks image := by
    rintro rfl
    exact ⟨_, self_mem_beyond holds previous _, .between previous rest⟩
  rw [beyond] at member
  split at member
  · next held =>
      rcases List.mem_append.mp member with farther | stays
      · obtain ⟨reached, known, along⟩ := later image farther
        exact ⟨reached, mem_beyond_cons held known previous, along⟩
      · exact here (List.mem_singleton.mp stays)
  · exact here (List.mem_singleton.mp member)

private theorem exists_beyond_crlf (member : image ∈ beyond holds previous (Text.crlf rest)) :
    ∃ reached ∈ beyond holds previous rest, reached.Tracks image := by
  induction rest generalizing previous image with
  | nil => exact ⟨image, member, List.mem_singleton.mp member ▸ .same previous []⟩
  | cons c rest ih =>
      have here : image = ⟨previous, Text.crlf (c :: rest)⟩ →
          ∃ reached ∈ beyond holds previous (c :: rest), reached.Tracks image := by
        rintro rfl
        exact ⟨_, self_mem_beyond holds previous _, .same previous _⟩
      by_cases feed : c = '\n'
      · rw [feed, Text.crlf_feed, beyond] at member
        rw [feed] at here ⊢
        split at member
        · rcases List.mem_append.mp member with farther | stays
          · exact exists_beyond_feed (fun _ => ih) farther
          · exact here (List.mem_singleton.mp stays)
        · exact here (List.mem_singleton.mp member)
      · rw [Text.crlf_cons feed] at here
        rw [Text.crlf_cons feed, beyond] at member
        split at member
        · next held =>
            rcases List.mem_append.mp member with farther | stays
            · obtain ⟨reached, known, along⟩ := ih farther
              exact ⟨reached, mem_beyond_cons held known previous, along⟩
            · exact here (List.mem_singleton.mp stays)
        · exact here (List.mem_singleton.mp member)

end Repetition

variable {pattern : Pattern} {cursor image target : Cursor}

private theorem exists_star (along : cursor.Tracks image) {holds : Char → Bool}
    (member : target ∈ (star holds).ends image) :
    ∃ reached ∈ (star holds).ends cursor, reached.Tracks target := by
  cases along with
  | same previous rest => exact exists_beyond_crlf member
  | between previous rest => exact exists_beyond_feed (fun _ => exists_beyond_crlf) member

/-- A single character is the same in both texts, unless it is the carriage return of a line
end. -/
theorem exists_one (along : cursor.Tracks image) {holds : Char → Bool}
    (member : target ∈ (one holds).ends image) :
    (∃ reached ∈ (one holds).ends cursor, reached.Tracks target) ∨
      holds '\r' = true ∧ ∃ rest, cursor.rest = '\n' :: rest ∧
        target = ⟨some '\r', '\n' :: Text.crlf rest⟩ := by
  cases along with
  | same previous rest =>
      cases rest with
      | nil => cases member
      | cons c rest =>
          by_cases feed : c = '\n'
          · rw [feed, Text.crlf_feed] at member
            obtain ⟨held, here⟩ := List.mem_ite_nil_right.mp member
            exact .inr ⟨held, rest, by rw [feed], List.mem_singleton.mp here⟩
          · rw [Text.crlf_cons feed] at member
            obtain ⟨held, here⟩ := List.mem_ite_nil_right.mp member
            obtain rfl := List.mem_singleton.mp here
            exact .inl ⟨_, List.mem_ite_nil_right.mpr ⟨held, .head _⟩, .same (some c) rest⟩
  | between previous rest =>
      obtain ⟨held, here⟩ := List.mem_ite_nil_right.mp member
      obtain rfl := List.mem_singleton.mp here
      exact .inl ⟨_, List.mem_ite_nil_right.mpr ⟨held, .head _⟩, .same (some '\n') rest⟩

theorem exists_plus (along : cursor.Tracks image) (none : ¬ cursor.AtFeed)
    {holds : Char → Bool} (member : target ∈ (plus holds).ends image) :
    ∃ reached ∈ (plus holds).ends cursor, reached.Tracks target := by
  obtain ⟨between, known, member⟩ := List.mem_flatMap.mp member
  rcases exists_one along known with ⟨reached, first, along⟩ | ⟨-, rest, feed, -⟩
  · obtain ⟨farther, others, along⟩ := exists_star along member
    exact ⟨farther, List.mem_flatMap.mpr ⟨reached, first, others⟩, along⟩
  · exact absurd ⟨rest, feed⟩ none

/-- Whether no match of a pattern starts between a carriage return and a line feed. -/
def stops : Pattern → Bool
  | .lineStart => true
  | .one holds => !holds '\n'
  | .seq first _ => first.stops
  | .alt first second => first.stops && second.stops
  | _ => false

theorem ends_nil_of_stops (stopped : pattern.stops = true) (rest : List Char) :
    pattern.ends ⟨some '\r', '\n' :: rest⟩ = [] := by
  induction pattern with
  | lineStart => rfl
  | one holds => exact if_neg (Bool.eq_false_iff.mp ((Bool.not_eq_true' _).mp stopped))
  | seq first second ihFirst ihSecond => rw [ends, ihFirst stopped, List.flatMap_nil]
  | alt first second ihFirst ihSecond =>
      obtain ⟨stopsFirst, stopsSecond⟩ := Bool.and_eq_true_iff.mp stopped
      rw [ends, ihFirst stopsFirst, ihSecond stopsSecond]
      rfl
  | _ => cases stopped

/-- Whether a pattern asks for one character of a class, and then takes line feeds at most
if that can be one. -/
def strays : Pattern → Bool
  | .one _ => true
  | .seq (.one holds) (.star more) => !more '\n' || holds '\n'
  | _ => false

/-- Whether two alternatives are one character or nothing. -/
def spares : (first second : Pattern) → Bool
  | .one _, .empty => true
  | _, _ => false

/-- Whether a pattern takes the carriage return of a line end only where it can as well take
nothing, or where it goes on with what is no line feed. -/
def tracks : Pattern → Bool
  | .one holds => !holds '\r'
  | .seq first second => second.tracks && (first.tracks || first.strays && second.stops)
  | .alt first second => spares first second || first.tracks && second.tracks
  | _ => true

private theorem exists_stray (strayed : pattern.strays = true) (along : cursor.Tracks image)
    (member : target ∈ pattern.ends image) :
    (∃ reached ∈ pattern.ends cursor, reached.Tracks target) ∨
      ∃ rest, target = ⟨some '\r', '\n' :: rest⟩ := by
  unfold strays at strayed
  split at strayed
  · exact (exists_one along member).imp_right fun ⟨_, _, _, here⟩ => ⟨_, here⟩
  · next holds more =>
      obtain ⟨between, known, member⟩ := List.mem_flatMap.mp member
      rcases exists_one along known with ⟨reached, first, along'⟩ | ⟨-, rest, feed, rfl⟩
      · obtain ⟨farther, others, along⟩ := exists_star along' member
        exact .inl ⟨farther, List.mem_flatMap.mpr ⟨reached, first, others⟩, along⟩
      · -- The character is a carriage return, so only more of the class can take the line feed.
        rw [ends, beyond] at member
        split at member
        · next allowed =>
            rcases List.mem_append.mp member with farther | stays
            · rw [allowed] at strayed
              obtain ⟨reached, others, along⟩ := exists_beyond_crlf farther
              refine .inl ⟨reached, List.mem_flatMap.mpr ⟨⟨some '\n', rest⟩, ?_, others⟩, along⟩
              rw [ends, feed]
              exact List.mem_ite_nil_right.mpr ⟨strayed, .head _⟩
            · exact .inr ⟨_, List.mem_singleton.mp stays⟩
        · exact .inr ⟨_, List.mem_singleton.mp member⟩
  · cases strayed

private theorem exists_spared {first second : Pattern} (spared : spares first second = true)
    (along : cursor.Tracks image) (member : target ∈ (alt first second).ends image) :
    ∃ reached ∈ (alt first second).ends cursor, reached.Tracks target := by
  unfold spares at spared
  split at spared
  · rcases List.mem_append.mp member with known | known
    · rcases exists_one along known with ⟨reached, taken, along⟩ | ⟨-, rest, feed, rfl⟩
      · exact ⟨reached, List.mem_append_left _ taken, along⟩
      · refine ⟨cursor, List.mem_append_right _ (.head _), ?_⟩
        obtain ⟨previous, _⟩ := cursor
        obtain rfl := feed
        exact .between previous rest
    · obtain rfl := List.mem_singleton.mp known
      exact ⟨cursor, List.mem_append_right _ (.head _), along⟩
  · cases spared

private theorem atLineEnd_of_tracks (along : cursor.Tracks image) (atEnd : image.atLineEnd = true) :
    cursor.atLineEnd = true := by
  cases along with
  | same previous rest =>
      cases rest with
      | nil => rfl
      | cons c rest =>
          by_cases feed : c = '\n'
          · exact beq_iff_eq.mpr feed
          · rw [Text.crlf_cons feed] at atEnd
            exact absurd (beq_iff_eq.mp atEnd) feed
  | between previous rest => rfl

/-- Where a match ends in a text whose line feeds have carriage returns, one ends without
them. -/
theorem exists_tracked (tracked : pattern.tracks = true) (along : cursor.Tracks image)
    (member : target ∈ pattern.ends image) :
    ∃ reached ∈ pattern.ends cursor, reached.Tracks target := by
  induction pattern generalizing cursor image target with
  | empty =>
      obtain rfl := List.mem_singleton.mp member
      exact ⟨cursor, .head _, along⟩
  | lineStart =>
      obtain ⟨atStart, here⟩ := List.mem_ite_nil_right.mp member
      obtain rfl := List.mem_singleton.mp here
      refine ⟨cursor, List.mem_ite_nil_right.mpr ⟨?_, .head _⟩, along⟩
      cases along with
      | same => exact atStart
      | between => cases atStart
  | lineEnd =>
      obtain ⟨atEnd, here⟩ := List.mem_ite_nil_right.mp member
      obtain rfl := List.mem_singleton.mp here
      have atEnd' := atLineEnd_of_tracks along atEnd
      exact ⟨cursor, List.mem_ite_nil_right.mpr ⟨atEnd', .head _⟩, along⟩
  | one holds =>
      refine (exists_one along member).resolve_right fun ⟨held, _⟩ => ?_
      rw [tracks, held] at tracked
      cases tracked
  | star holds => exact exists_star along member
  | seq first second ihFirst ihSecond =>
      obtain ⟨tracksSecond, tracksFirst⟩ := Bool.and_eq_true_iff.mp tracked
      obtain ⟨between, known, member⟩ := List.mem_flatMap.mp member
      have go : (∃ reached ∈ first.ends cursor, reached.Tracks between) →
          ∃ reached ∈ (seq first second).ends cursor, reached.Tracks target := by
        rintro ⟨reached, taken, along⟩
        obtain ⟨farther, taken', along⟩ := ihSecond tracksSecond along member
        exact ⟨farther, List.mem_flatMap.mpr ⟨reached, taken, taken'⟩, along⟩
      rcases Bool.or_eq_true_iff.mp tracksFirst with tracksFirst | strayed
      · exact go (ihFirst tracksFirst along known)
      · obtain ⟨strayed, stopped⟩ := Bool.and_eq_true_iff.mp strayed
        refine (exists_stray strayed along known).elim go fun ⟨rest, here⟩ => ?_
        rw [here, ends_nil_of_stops stopped] at member
        cases member
  | alt first second ihFirst ihSecond =>
      rcases Bool.or_eq_true_iff.mp tracked with spared | tracked
      · exact exists_spared spared along member
      · obtain ⟨tracksFirst, tracksSecond⟩ := Bool.and_eq_true_iff.mp tracked
        rcases List.mem_append.mp member with known | known
        · obtain ⟨reached, taken, along⟩ := ihFirst tracksFirst along known
          exact ⟨reached, List.mem_append_left _ taken, along⟩
        · obtain ⟨reached, taken, along⟩ := ihSecond tracksSecond along known
          exact ⟨reached, List.mem_append_right _ taken, along⟩

section Takes

variable {previous : Option Char} {taken after : List Char}

/-- Whether two patterns in sequence take any number of characters of classes that have the
characters of line ends. -/
def widens : (first second : Pattern) → Bool
  | .one holds, .star more => holds '\r' && more '\r' && more '\n'
  | _, _ => false

/-- Whether a pattern takes line feeds only along with carriage returns. -/
def stretches : Pattern → Bool
  | .one holds => !holds '\n'
  | .star holds => !holds '\n' || holds '\r'
  | .lineEnd => false
  | .seq first second => widens first second || first.stretches && second.stretches
  | .alt first second => first.stretches && second.stretches
  | _ => true

private theorem takes_widened {first second : Pattern} (widened : widens first second = true)
    (takes : (seq first second).Takes previous taken after) :
    (seq first second).Takes previous (Text.crlf taken) (Text.crlf after) := by
  unfold widens at widened
  split at widened
  · next holds more =>
      simp only [Bool.and_eq_true] at widened
      obtain ⟨⟨held, turn⟩, feed⟩ := widened
      obtain ⟨_, rest, rfl, ⟨c, rfl, first⟩, others⟩ := takes
      have all : ∀ d ∈ Text.crlf rest, more d = true := fun d member =>
        (Text.mem_crlf member).elim (others d) fun ⟨same, _⟩ => same ▸ turn
      by_cases same : c = '\n'
      · rw [same]
        exact ⟨['\r'], '\n' :: Text.crlf rest, rfl, ⟨_, rfl, held⟩,
          List.forall_mem_cons.mpr ⟨feed, all⟩⟩
      · refine ⟨[c], Text.crlf rest, Text.crlf_cons same rest, ⟨c, rfl, first⟩, all⟩
  · cases widened

theorem takes_crlf (stretched : pattern.stretches = true)
    (takes : pattern.Takes previous taken after) :
    pattern.Takes previous (Text.crlf taken) (Text.crlf after) := by
  induction pattern generalizing previous taken after with
  | empty =>
      obtain rfl := takes
      rfl
  | lineStart =>
      obtain ⟨rfl, atStart⟩ := takes
      exact ⟨rfl, atStart⟩
  | lineEnd => cases stretched
  | one holds =>
      obtain ⟨c, rfl, held⟩ := takes
      have other : c ≠ '\n' := by
        rintro rfl
        rw [stretches, held] at stretched
        cases stretched
      exact ⟨c, Text.crlf_cons other [], held⟩
  | star holds =>
      intro c member
      rcases Text.mem_crlf member with known | ⟨rfl, feed⟩
      · exact takes c known
      · rw [stretches, takes _ feed] at stretched
        exact stretched
  | seq first second ihFirst ihSecond =>
      rcases Bool.or_eq_true_iff.mp stretched with widened | stretched
      · exact takes_widened widened takes
      · obtain ⟨stretchedFirst, stretchedSecond⟩ := Bool.and_eq_true_iff.mp stretched
        obtain ⟨front, back, rfl, known, known'⟩ := takes
        have takesFirst := ihFirst stretchedFirst known
        have takesSecond := ihSecond stretchedSecond known'
        rw [Text.crlf_append] at takesFirst
        rw [← Text.getLast?_crlf] at takesSecond
        exact ⟨_, _, Text.crlf_append front back, takesFirst, takesSecond⟩
  | alt first second ihFirst ihSecond =>
      obtain ⟨stretchedFirst, stretchedSecond⟩ := Bool.and_eq_true_iff.mp stretched
      exact takes.imp (ihFirst stretchedFirst) (ihSecond stretchedSecond)

/-- What a pattern can take before a line feed that it takes. -/
def stems : Pattern → List Pattern
  | .one holds => if holds '\n' then [.empty] else []
  | .star holds => if holds '\n' then [.star holds] else []
  | .seq first second => first.stems ++ second.stems.map (.seq first)
  | .alt first second => first.stems ++ second.stems
  | _ => []

theorem exists_stem (takes : pattern.Takes previous taken after) (broken : '\n' ∈ taken) :
    ∃ stem ∈ pattern.stems, ∃ front back, taken = front ++ '\n' :: back ∧
      stem.Takes previous front ('\n' :: (back ++ after)) := by
  induction pattern generalizing previous taken after with
  | empty =>
      rw [Takes] at takes
      rw [takes] at broken
      cases broken
  | lineStart =>
      rw [takes.1] at broken
      cases broken
  | lineEnd =>
      rw [takes.1] at broken
      cases broken
  | one holds =>
      obtain ⟨c, rfl, held⟩ := takes
      obtain rfl := List.mem_singleton.mp broken
      exact ⟨.empty, List.mem_ite_nil_right.mpr ⟨held, .head _⟩, [], [], rfl, rfl⟩
  | star holds =>
      have held := takes _ broken
      obtain ⟨front, back, rfl⟩ := List.append_of_mem broken
      exact ⟨.star holds, List.mem_ite_nil_right.mpr ⟨held, .head _⟩, front, back, rfl,
        fun c member => takes c (List.mem_append_left _ member)⟩
  | seq first second ihFirst ihSecond =>
      obtain ⟨front, back, rfl, known, known'⟩ := takes
      rcases List.mem_append.mp broken with inside | inside
      · obtain ⟨stem, member, before, rest, rfl, stemTakes⟩ := ihFirst known inside
        refine ⟨stem, List.mem_append_left _ member, before, rest ++ back, ?_, ?_⟩
        · rw [List.append_assoc]
          rfl
        · rwa [List.append_assoc]
      · obtain ⟨stem, member, before, rest, rfl, stemTakes⟩ := ihSecond known' inside
        refine ⟨.seq first stem, List.mem_append_right _ (List.mem_map_of_mem member),
          front ++ before, rest, (List.append_assoc _ _ _).symm, front, before, rfl, ?_, stemTakes⟩
        rwa [List.append_assoc] at known
  | alt first second ihFirst ihSecond =>
      rcases takes with known | known
      · obtain ⟨stem, member, others⟩ := ihFirst known broken
        exact ⟨stem, List.mem_append_left _ member, others⟩
      · obtain ⟨stem, member, others⟩ := ihSecond known broken
        exact ⟨stem, List.mem_append_right _ member, others⟩

end Takes

end Pattern

end MailQuote
