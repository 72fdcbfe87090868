import MailQuote.Marker
import MailQuote.Proofs.Pattern
import MailQuote.Proofs.Text

namespace MailQuote

namespace Marker

open Pattern

private theorem isFree_between_rules (count : Nat) (words : String) :
    (Pattern.sequence [.atLeast count (· == '-'), blanks, phrase words, blanks,
      .atLeast count (· == '-')]).isFree = true := by
  apply isFree_sequence
  intro pattern member
  simp only [List.mem_cons, List.not_mem_nil, or_false] at member
  rcases member with rfl | rfl | rfl | rfl | rfl
  · exact isFree_atLeast count _
  · rfl
  · exact isFree_phrase words
  · rfl
  · exact isFree_atLeast count _

private theorem isFree_ruled (words : String) : (ruled words).isFree = true :=
  isFree_between_rules 2 words

private theorem isFree_announced (words : String) : (announced words).isFree = true := by
  apply isFree_sequence
  intro pattern member
  simp only [List.mem_cons, List.not_mem_nil, or_false] at member
  rcases member with rfl | rfl | rfl
  · exact isFree_phrase words
  · rfl
  · rfl

private theorem isFree_of_mem_forwards {marker : Marker} (member : marker ∈ forwards) :
    marker.pattern.isFree = true := by
  obtain ⟨⟨language, pattern⟩, listed, rfl⟩ := List.mem_map.mp member
  simp only [forwardTable, List.mem_cons, List.not_mem_nil, or_false, Prod.mk.injEq] at listed
  rcases listed with ⟨-, rfl⟩ | ⟨-, rfl⟩ | ⟨-, rfl⟩ | ⟨-, rfl⟩ | ⟨-, rfl⟩ | ⟨-, rfl⟩ |
    ⟨-, rfl⟩ | ⟨-, rfl⟩ | ⟨-, rfl⟩ | ⟨-, rfl⟩ | ⟨-, rfl⟩
  case inr.inr.inl =>
    apply isFree_sequence
    intro pattern member
    simp only [List.mem_cons, List.not_mem_nil, or_false] at member
    rcases member with rfl | rfl | rfl | rfl
    · exact isFree_phrase _
    · exact Bool.and_eq_true_iff.mpr ⟨isFree_phrase _, isFree_phrase _⟩
    · rfl
    · rfl
  all_goals first
    | exact isFree_ruled _
    | exact isFree_announced _

theorem isForward_of_isInfix {part whole : List Char} (isPart : part <:+: whole)
    (forward : isForward part = true) : isForward whole = true := by
  obtain ⟨marker, member, found⟩ := List.any_eq_true.mp forward
  apply List.any_eq_true.mpr
  exact ⟨marker, member, isSome_find?_of_isInfix (isFree_of_mem_forwards member) isPart found⟩

private theorem takesBeyond_of_mem_forwards :
    ∀ marker ∈ forwards, marker.pattern.takesBeyond Text.blanks = true := by
  decide

/-- White space alone is no marker of a forwarded message. -/
theorem allBlank_of_isForward {text : List Char} (forward : isForward text = true) :
    Text.allBlank text = false := by
  obtain ⟨marker, member, some⟩ := List.any_eq_true.mp forward
  obtain ⟨found, first⟩ := Option.isSome_iff_exists.mp some
  have occurs := occursIn_of_find? first
  obtain ⟨c, inside, beyond⟩ := occurs.exists_beyond (takesBeyond_of_mem_forwards marker member)
  rw [← occurs.whole]
  refine List.all_eq_false.mpr ⟨c, List.mem_append_right _ inside, fun blank => ?_⟩
  exact beyond (Text.mem_blanks blank)

private theorem earliestOf_eq_none {founds : List (Marker × Match)}
    (none : earliestOf founds = none) : founds = [] := by
  cases founds with
  | nil => rfl
  | cons found others =>
      rw [earliestOf] at none
      split at none <;> cases none

/-- The earliest find starts before all that are listed before it, and no later than those
listed after it. -/
theorem exists_split_of_earliestOf {founds : List (Marker × Match)} {best : Marker × Match}
    (earliest : earliestOf founds = some best) :
    ∃ ahead behind, founds = ahead ++ best :: behind ∧
      (∀ found ∈ ahead, best.2.start < found.2.start) ∧
      ∀ found ∈ behind, best.2.start ≤ found.2.start := by
  induction founds generalizing best with
  | nil => cases earliest
  | cons first others ih =>
      rw [earliestOf] at earliest
      split at earliest
      · next none =>
          cases earliest
          exact ⟨[], others, rfl, nofun, by rw [earliestOf_eq_none none]; nofun⟩
      · next second known =>
          obtain ⟨ahead, behind, rfl, before, after⟩ := ih known
          cases earliest
          unfold earlier
          split
          · next sooner =>
              exact ⟨first :: ahead, behind, rfl, List.forall_mem_cons.mpr ⟨sooner, before⟩, after⟩
          · next later =>
              have le := Nat.le_of_not_lt later
              refine ⟨[], _, rfl, nofun, List.forall_mem_append.mpr ⟨?_, ?_⟩⟩
              · exact fun found member => Nat.le_trans le (Nat.le_of_lt (before found member))
              · exact List.forall_mem_cons.mpr
                  ⟨le, fun found member => Nat.le_trans le (after found member)⟩

private theorem mem_of_earliestOf {founds : List (Marker × Match)} {best : Marker × Match}
    (earliest : earliestOf founds = some best) : best ∈ founds := by
  obtain ⟨ahead, behind, rfl, -⟩ := exists_split_of_earliestOf earliest
  exact List.mem_append_right _ (.head _)

theorem exists_earliestOf {founds : List (Marker × Match)} {found : Marker × Match}
    (member : found ∈ founds) :
    ∃ best, earliestOf founds = some best ∧ best.2.start ≤ found.2.start := by
  cases known : earliestOf founds with
  | none =>
      rw [earliestOf_eq_none known] at member
      cases member
  | some best =>
      refine ⟨best, rfl, ?_⟩
      obtain ⟨ahead, behind, rfl, before, after⟩ := exists_split_of_earliestOf known
      rcases List.mem_append.mp member with sooner | member
      · exact Nat.le_of_lt (before found sooner)
      · rcases List.mem_cons.mp member with rfl | later
        · exact Nat.le_refl _
        · exact after found later

theorem find?_of_earliest? {text : List Char} {marker : Marker} {found : Match}
    (earliest : earliest? text = some (marker, found)) :
    marker ∈ all ∧ marker.pattern.find? text = some found := by
  obtain ⟨other, member, equality⟩ := List.mem_filterMap.mp (mem_of_earliestOf earliest)
  obtain ⟨other', first, same⟩ := Option.map_eq_some_iff.mp equality
  cases same
  exact ⟨member, first⟩

end Marker

open Pattern

namespace Marker

/-- Whether there are but spaces and tabs after the last line feed of a text. -/
def opensLine (lead : List Char) : Bool :=
  (lead.rtakeWhile inLine).all isPad

/-- Whether there are but spaces and tabs, and maybe a carriage return, before the first
line end of a text. -/
def closesLine (after : List Char) : Bool :=
  match after.dropWhile isPad with
  | [] => true
  | c :: rest => c == '\n' || (c == '\r' && (rest.head?.all (· == '\n')))

/-- A pattern that matches where a line begins, and after all spaces and tabs there. -/
structure IsAnchored (pattern body : Pattern) : Prop where
  anchored : pattern = .seq .lineStart body
  free : body.isFreeBefore = true
  absorbs : body.Absorbs isPad

private theorem isAnchored_pads {first : Pattern} {others : List Pattern}
    (free : (Pattern.sequence (first :: others)).isFreeBefore = true) :
    IsAnchored (Pattern.sequence (.lineStart :: pads :: first :: others))
      (Pattern.sequence (pads :: first :: others)) where
  anchored := rfl
  free := free
  absorbs := (absorbs_star fun _ => id).seq free

private theorem eq_of_isPad {c : Char} (pad : isPad c = true) : c = ' ' ∨ c = '\t' :=
  (Bool.or_eq_true_iff.mp pad).imp beq_iff_eq.mp beq_iff_eq.mp

theorem inLine_of_isPad {c : Char} (pad : isPad c = true) : inLine c = true := by
  rcases eq_of_isPad pad with rfl | rfl <;> rfl

theorem isBlank_of_isPad {c : Char} (pad : isPad c = true) : Text.isBlank c = true := by
  rcases eq_of_isPad pad with rfl | rfl <;> rfl

private theorem isAnchored_verbLast {verb : Pattern} (free : verb.isFreeBefore = true) :
    IsAnchored (verbLast verb) (Pattern.sequence [.plus inLine, verb]) where
  anchored := rfl
  free := free
  absorbs := (absorbs_plus fun _ => inLine_of_isPad).seq free

private theorem isAnchored_ruledLine (words : String) :
    ∃ body, IsAnchored (ruledLine words) body :=
  ⟨_, isAnchored_pads (isFreeBefore_of_isFree (isFree_between_rules 3 words))⟩

private theorem isAnchored_headerBlock {sender date : Pattern} (free : sender.isFreeBefore = true)
    (free' : date.isFreeBefore = true) : ∃ body, IsAnchored (headerBlock sender date) body := by
  refine ⟨_, isAnchored_pads ?_⟩
  simp only [Pattern.sequence, isFreeBefore, free, free']
  rfl

private theorem isAnchored_of_mem_replyTable {language : String} {pattern : Pattern}
    (member : (language, pattern) ∈ replyTable) : ∃ body, IsAnchored pattern body := by
  simp only [replyTable, List.mem_cons, List.not_mem_nil, or_false, Prod.mk.injEq] at member
  rcases member with ⟨-, rfl⟩ | ⟨-, rfl⟩ | ⟨-, rfl⟩ | ⟨-, rfl⟩ | ⟨-, rfl⟩ | ⟨-, rfl⟩ |
    ⟨-, rfl⟩ | ⟨-, rfl⟩ | ⟨-, rfl⟩
  all_goals first
    | exact ⟨_, isAnchored_verbLast (by decide)⟩
    | exact isAnchored_ruledLine _
    | exact isAnchored_headerBlock (by decide) (by decide)

private theorem isFreeAfter_of_mem_replyTable :
    ∀ entry ∈ replyTable, entry.2.isFreeAfter = true := by
  decide

theorem takesBeyond_of_mem_all : ∀ marker ∈ all, marker.pattern.takesBeyond [] = true := by
  decide

private theorem kind_of_mem_replies {marker : Marker} (member : marker ∈ replies) :
    marker.kind = .reply := by
  rcases List.mem_append.mp member with known | known
  · obtain ⟨attribution, -, rfl⟩ := List.mem_map.mp known
    rfl
  · obtain ⟨entry, -, rfl⟩ := List.mem_map.mp known
    rfl

end Marker

namespace Attribution

open Marker

theorem isFree_of_mem_table : ∀ attribution ∈ table,
    attribution.lead.isFree = true ∧ attribution.verb.isFree = true := by
  decide

private theorem isFree_oneLine {verb : Pattern} (free : verb.isFree = true) :
    (oneLine verb).isFree = true := by
  simp only [oneLine, Pattern.sequence, isFree, free]
  rfl

private theorem isAnchored_pattern {attribution : Attribution} (member : attribution ∈ table) :
    ∃ body, IsAnchored attribution.pattern body := by
  obtain ⟨lead, verb⟩ := isFree_of_mem_table attribution member
  refine ⟨_, isAnchored_pads ?_⟩
  simp only [Pattern.sequence, isFreeBefore, oneLine, wrapped, isFreeBefore_of_isFree lead,
    isFreeBefore_of_isFree verb]
  rfl

/-- What is after the verb of an attribution that continues on the next line. -/
def lineTail : List Pattern :=
  [pads, optional (.char '\r'), .lineEnd]

/-- What is before that. -/
private def wrappedFront (verb : Pattern) : List Pattern :=
  [.star inLine, .one runsOn, pads, lineBreak, .plus inLine, blank, verb]

private theorem wrapped_eq (verb : Pattern) :
    wrapped verb = Pattern.sequence (wrappedFront verb ++ lineTail) := rfl

private theorem isFree_wrappedFront {verb : Pattern} (free : verb.isFree = true) :
    (Pattern.sequence (wrappedFront verb)).isFree = true := by
  simp only [wrappedFront, Pattern.sequence, isFree, free]
  rfl

private theorem exists_end_of_closesLine {after : List Char} (closed : closesLine after = true)
    (previous : Option Char) :
    ∃ reached, reached ∈ (Pattern.sequence lineTail).ends ⟨previous, after⟩ := by
  obtain ⟨place, known⟩ := Cursor.dropWhile_mem_beyond isPad previous after
  suffices ∃ turn ∈ (optional (.char '\r')).ends ⟨place, after.dropWhile isPad⟩,
      turn.atLineEnd = true by
    obtain ⟨turn, passed, atEnd⟩ := this
    have ended : turn ∈ lineEnd.ends turn := List.mem_ite_nil_right.mpr ⟨atEnd, .head _⟩
    exact ⟨turn, List.mem_flatMap.mpr ⟨_, known, List.mem_flatMap.mpr ⟨_, passed, ended⟩⟩⟩
  rw [closesLine] at closed
  cases equality : after.dropWhile isPad with
  | nil => exact ⟨⟨place, []⟩, .head _, rfl⟩
  | cons c rest =>
      rw [equality] at closed
      rcases Bool.or_eq_true_iff.mp closed with feed | carriage
      · exact ⟨⟨place, c :: rest⟩, List.mem_append_right _ (.head _), feed⟩
      · obtain ⟨same, atEnd⟩ := Bool.and_eq_true_iff.mp carriage
        refine ⟨⟨some c, rest⟩, List.mem_append_left _ ?_, ?_⟩
        · exact List.mem_ite_nil_right.mpr ⟨same, .head _⟩
        · cases rest with
          | nil => rfl
          | cons => exact atEnd

private theorem takesOnly_lineTail : (Pattern.sequence lineTail).TakesOnly Text.isBlank := by
  refine ⟨fun c => isBlank_of_isPad, ⟨fun c carriage => ?_, trivial⟩, trivial⟩
  rw [beq_iff_eq.mp carriage]
  rfl

private theorem rest_ne_nil_of_visible {between reached : Cursor}
    (member : reached ∈ (Pattern.sequence lineTail).ends between)
    (visible : Text.EndsVisibly between.rest) (more : between.rest ≠ []) :
    reached.rest ≠ [] := by
  intro none
  obtain ⟨taken, whole, blank⟩ := exists_taken_of_takesOnly takesOnly_lineTail member
  rw [none, List.append_nil] at whole
  rw [whole] at blank
  have last := List.getLast?_eq_some_getLast more
  have isBlank := blank _ (List.mem_of_getLast? last)
  rw [visible _ last] at isBlank
  cases isBlank

private theorem exists_end_wrapped {verb : Pattern} (free : verb.isFree = true)
    {cursor reached : Cursor} (member : reached ∈ (wrapped verb).ends cursor)
    {after : List Char} (visible : Text.EndsVisibly cursor.rest)
    (closed : reached.rest = [] → closesLine after = true) (other : Option Char) :
    ∃ extended, extended ∈ (wrapped verb).ends ⟨other, cursor.rest ++ after⟩ := by
  obtain ⟨freeBefore, freeAfter⟩ := isFree_iff.mp (isFree_wrappedFront free)
  rw [wrapped_eq, ends_sequence_append] at member ⊢
  obtain ⟨between, known, member'⟩ := List.mem_flatMap.mp member
  obtain ⟨place, known', -⟩ := exists_end_extended known other after
    (.inl freeBefore) (.inl freeAfter)
  suffices ∃ extended, extended ∈ (Pattern.sequence lineTail).ends ⟨place, between.rest ++ after⟩ by
    obtain ⟨extended, ended⟩ := this
    exact ⟨extended, List.mem_flatMap.mpr ⟨_, known', ended⟩⟩
  by_cases atEnd : between.rest = []
  · have suffix := ends_isSuffix member'
    rw [atEnd] at suffix ⊢
    exact exists_end_of_closesLine (closed (List.suffix_nil.mp suffix)) place
  · have more := rest_ne_nil_of_visible member' (visible.of_isSuffix (ends_isSuffix known)) atEnd
    obtain ⟨place', ended, -⟩ := exists_end_extended member' place after
      (.inl rfl) (.inr (.inl more))
    exact ⟨_, ended⟩

theorem pattern_eq (attribution : Attribution) :
    attribution.pattern = Pattern.sequence ([.lineStart, pads, attribution.lead, blank] ++
      [.alt (oneLine attribution.verb) (wrapped attribution.verb)]) := rfl

private theorem exists_end_pattern {attribution : Attribution} (listed : attribution ∈ table)
    {cursor reached : Cursor} (member : reached ∈ attribution.pattern.ends cursor)
    {after : List Char} (visible : Text.EndsVisibly cursor.rest)
    (closed : reached.rest = [] → closesLine after = true) :
    ∃ extended, extended ∈ attribution.pattern.ends ⟨cursor.previous, cursor.rest ++ after⟩ := by
  obtain ⟨lead, verb⟩ := isFree_of_mem_table attribution listed
  have freeAfter :
      (Pattern.sequence [.lineStart, pads, attribution.lead, blank]).isFreeAfter = true := by
    simp only [Pattern.sequence, isFreeAfter, (isFree_iff.mp lead).2]
    rfl
  rw [pattern_eq, ends_sequence_append] at member ⊢
  obtain ⟨between, known, member⟩ := List.mem_flatMap.mp member
  obtain ⟨place, known', -⟩ := exists_end_extended known cursor.previous after
    (.inr rfl) (.inl freeAfter)
  rcases List.mem_append.mp member with single | double
  · obtain ⟨free, free'⟩ := isFree_iff.mp (isFree_oneLine verb)
    obtain ⟨place', ended, -⟩ := exists_end_extended single place after
      (.inl free) (.inl free')
    exact ⟨_, List.mem_flatMap.mpr ⟨_, known', List.mem_append_left _ ended⟩⟩
  · obtain ⟨extended, ended⟩ := exists_end_wrapped verb double
      (visible.of_isSuffix (ends_isSuffix known)) closed place
    exact ⟨extended, List.mem_flatMap.mpr ⟨_, known', List.mem_append_right _ ended⟩⟩

end Attribution

namespace Marker

private theorem exists_isAnchored {marker : Marker} (member : marker ∈ replies) :
    ∃ body, IsAnchored marker.pattern body := by
  rcases List.mem_append.mp member with known | known
  · obtain ⟨attribution, listed, rfl⟩ := List.mem_map.mp known
    exact Attribution.isAnchored_pattern listed
  · obtain ⟨⟨language, pattern⟩, listed, rfl⟩ := List.mem_map.mp known
    exact isAnchored_of_mem_replyTable listed

/-- A reply at the end of a text stays one in a longer text, an attribution at least if the
line ends there. -/
theorem exists_end_of_mem_replies {marker : Marker} (known : marker ∈ replies)
    {cursor reached : Cursor} (member : reached ∈ marker.pattern.ends cursor)
    {after : List Char} (visible : Text.EndsVisibly cursor.rest)
    (closed : marker ∈ Attribution.table.map Attribution.marker → reached.rest = [] →
      closesLine after = true) :
    ∃ extended, extended ∈ marker.pattern.ends ⟨cursor.previous, cursor.rest ++ after⟩ := by
  rcases List.mem_append.mp known with known | known
  · replace closed := closed known
    obtain ⟨attribution, listed, rfl⟩ := List.mem_map.mp known
    exact Attribution.exists_end_pattern listed member visible closed
  · obtain ⟨entry, listed, rfl⟩ := List.mem_map.mp known
    obtain ⟨place, ended, -⟩ := exists_end_extended member cursor.previous after
      (.inr rfl) (.inl (isFreeAfter_of_mem_replyTable entry listed))
    exact ⟨_, ended⟩

private theorem atLineStart_rdropWhile (lead rest : List Char) :
    Cursor.atLineStart ⟨(lead.rdropWhile inLine).getLast?, rest⟩ = true := by
  by_cases none : lead.rdropWhile inLine = []
  · rw [none]
    rfl
  · rw [List.getLast?_eq_some_getLast none]
    have feed := List.rdropWhile_last_not inLine lead none
    simpa [inLine, Cursor.atLineStart] using feed

/-- What matches at the beginning of a text matches after the last line feed of what is
put before it if there are but spaces and tabs between. -/
theorem IsAnchored.exists_end {pattern body : Pattern} (isAnchored : IsAnchored pattern body)
    {rest : List Char} {reached : Cursor} (member : reached ∈ pattern.ends ⟨none, rest⟩)
    {lead : List Char} (opens : opensLine lead = true) :
    ∃ extended, extended ∈ pattern.ends
      ⟨(lead.rdropWhile inLine).getLast?, lead.rtakeWhile inLine ++ rest⟩ := by
  obtain ⟨rfl, free, absorbs⟩ := isAnchored
  obtain ⟨start, known, member⟩ := List.mem_flatMap.mp member
  obtain ⟨-, here⟩ := List.mem_ite_nil_right.mp known
  obtain rfl := List.mem_singleton.mp here
  obtain ⟨place, ended⟩ := absorbs.exists_end free member (List.all_eq_true.mp opens)
    (lead.rdropWhile inLine).getLast?
  refine ⟨_, List.mem_flatMap.mpr ⟨_, ?_, ended⟩⟩
  exact List.mem_ite_nil_right.mpr ⟨atLineStart_rdropWhile lead _, .head _⟩

/-- A reply stays one when text is put before it, one at the beginning of a line at least if
a line begins there. -/
theorem exists_end_behind {marker : Marker} (member : marker ∈ replies)
    {before rest : List Char} {reached : Cursor}
    (ended : reached ∈ marker.pattern.ends ⟨before.getLast?, rest⟩) {lead : List Char}
    (opens : before = [] → opensLine lead = true) :
    ∃ earlier later, earlier ++ later = lead ++ before ++ rest ∧ earlier <+: lead ++ before ∧
      ∃ extended, extended ∈ marker.pattern.ends ⟨earlier.getLast?, later⟩ := by
  by_cases atStart : before = []
  · obtain ⟨body, isAnchored⟩ := exists_isAnchored member
    rw [atStart] at ended ⊢
    refine ⟨_, _, ?_, ?_, isAnchored.exists_end ended (opens atStart)⟩
    · rw [← List.append_assoc, List.rdropWhile_append_rtakeWhile, List.append_nil]
    · exact (List.rdropWhile_prefix inLine lead).trans (List.prefix_append _ _)
  · rw [← List.getLast?_append_of_ne_nil lead atStart] at ended
    exact ⟨_, _, rfl, List.prefix_refl _, reached, ended⟩

/-- How a marker is found in a part of a text if not in the whole: a reply at the
beginning of the part, where no line begins after what is before, or an attribution at its
end, where no line ends before what is after. -/
structure IsExposed (lead after : List Char) (marker : Marker) (found : Match) : Prop where
  reply : marker.kind = .reply
  edge : found.before = [] ∧ opensLine lead = false ∨
    found.after = [] ∧ closesLine after = false ∧
      marker ∈ Attribution.table.map Attribution.marker

theorem exists_earliest? {marker : Marker} (member : marker ∈ all) {before rest : List Char}
    {reached : Cursor} (ended : reached ∈ marker.pattern.ends ⟨before.getLast?, rest⟩) :
    ∃ best, earliest? (before ++ rest) = some best ∧ best.2.before <+: before := by
  obtain ⟨first, known, earlier⟩ := exists_find?_of_mem_ends ended
  have listed : (marker, first) ∈ findAll (before ++ rest) := by
    apply List.mem_filterMap.mpr
    exact ⟨marker, member, by rw [known]; rfl⟩
  obtain ⟨⟨other, best⟩, earliest, le⟩ := exists_earliestOf listed
  have whole := append_of_find? (find?_of_earliest? earliest).2
  refine ⟨(other, best), earliest, List.IsPrefix.trans ?_ earlier⟩
  exact Text.isPrefix_of_byteSize_le (whole ▸ List.prefix_append _ _)
    (append_of_find? known ▸ List.prefix_append _ _) le

section Exposure

variable {marker : Marker} {content : List Char} {found : Match}

private theorem exists_end_or_isExposed (lead after : List Char) (member : marker ∈ all)
    (occurs : marker.pattern.OccursIn content found) (visible : Text.EndsVisibly content) :
    (∃ before rest, before ++ rest = lead ++ (content ++ after) ∧
      before <+: lead ++ found.before ∧
      ∃ reached, reached ∈ marker.pattern.ends ⟨before.getLast?, rest⟩) ∨
    IsExposed lead after marker found := by
  obtain ⟨rfl, place, known⟩ := occurs
  have whole : lead ++ (found.before ++ (found.matched ++ found.after) ++ after) =
      lead ++ found.before ++ (found.matched ++ found.after ++ after) := by
    simp only [List.append_assoc]
  rw [whole]
  rcases List.mem_append.mp member with reply | forward
  · by_cases atEnd : found.after = [] ∧ closesLine after = false ∧
        marker ∈ Attribution.table.map Attribution.marker
    · exact .inr ⟨kind_of_mem_replies reply, .inr atEnd⟩
    by_cases atStart : found.before = [] ∧ opensLine lead = false
    · exact .inr ⟨kind_of_mem_replies reply, .inl atStart⟩
    have closed (wraps : marker ∈ Attribution.table.map Attribution.marker)
        (none : found.after = []) : closesLine after = true :=
      Bool.of_not_eq_false fun unclosed => atEnd ⟨none, unclosed, wraps⟩
    have opens (none : found.before = []) : opensLine lead = true :=
      Bool.of_not_eq_false fun unopened => atStart ⟨none, unopened⟩
    obtain ⟨extended, ended⟩ := exists_end_of_mem_replies reply known
      (visible.of_isSuffix (List.suffix_append _ _)) closed
    exact .inl (exists_end_behind reply ended opens)
  · obtain ⟨free, free'⟩ := isFree_iff.mp (isFree_of_mem_forwards forward)
    obtain ⟨_, ended, -⟩ := exists_end_extended known (lead ++ found.before).getLast? after
      (.inl free) (.inl free')
    exact .inl ⟨_, _, rfl, List.prefix_refl _, _, ended⟩

/-- The earliest marker of a text starts no later than any marker in a part of it that is
not exposed. -/
theorem exists_earliest?_or_isExposed (lead after : List Char) (member : marker ∈ all)
    (occurs : marker.pattern.OccursIn content found) (visible : Text.EndsVisibly content) :
    (∃ best, earliest? (lead ++ (content ++ after)) = some best ∧
      best.2.before <+: lead ++ found.before) ∨ IsExposed lead after marker found := by
  refine (exists_end_or_isExposed lead after member occurs visible).imp_left ?_
  intro ⟨before, rest, whole, earlier, reached, ended⟩
  obtain ⟨best, earliest, first⟩ := exists_earliest? member ended
  exact ⟨best, whole ▸ earliest, first.trans earlier⟩

end Exposure

end Marker

end MailQuote
