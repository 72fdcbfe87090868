import MailQuote.Proofs.Pattern.Meaning
import MailQuote.Proofs.Scan

namespace MailQuote

/-- Whether a pattern matches at a byte position of a text. -/
def Pattern.MatchesAt (pattern : Pattern) (text : List Char) (offset : Nat) : Prop :=
  ∃ before taken after, before ++ (taken ++ after) = text ∧ Text.byteSize before = offset ∧
    pattern.Takes before.getLast? taken after

namespace Pattern

variable {pattern : Pattern} {text : List Char} {offset : Nat}

private theorem matchesAt_of_find? {found : Match} (first : pattern.find? text = some found) :
    pattern.MatchesAt text found.start := by
  obtain ⟨whole, takes⟩ := occursIn_iff.mp (occursIn_of_find? first)
  exact ⟨_, _, _, whole, rfl, takes⟩

/-- The first match found starts no later than any match. -/
theorem MatchesAt.exists_find? (known : pattern.MatchesAt text offset) :
    ∃ found, pattern.find? text = some found ∧ found.start ≤ offset := by
  obtain ⟨before, taken, after, rfl, rfl, takes⟩ := known
  obtain ⟨found, first, more, rfl⟩ := exists_find?_of_mem_ends (mem_ends_of_takes takes)
  refine ⟨found, first, ?_⟩
  rw [Text.byteSize_append]
  exact Nat.le_add_right _ _

end Pattern

namespace Marker

/-- Whether a marker is the earliest one of a text and starts at `offset`: it matches there,
no marker matches before, and none that is listed before it matches there. -/
structure IsEarliest (text : List Char) (offset : Nat) (marker : Marker) : Prop where
  here : marker.pattern.MatchesAt text offset
  least : ∀ other ∈ all, ∀ place, other.pattern.MatchesAt text place → offset ≤ place
  first : ∃ ahead behind, all = ahead ++ marker :: behind ∧
    ∀ other ∈ ahead, ¬ other.pattern.MatchesAt text offset

section Earliest

variable {text : List Char} {offset place : Nat} {marker other : Marker}

private theorem IsEarliest.listed (isEarliest : IsEarliest text offset marker) : marker ∈ all := by
  obtain ⟨ahead, behind, split, -⟩ := isEarliest.first
  rw [split]
  exact List.mem_append_right _ (.head _)

private theorem IsEarliest.eq_of_split {ahead behind ahead' behind' : List Marker}
    (split : ahead ++ marker :: behind = ahead' ++ other :: behind')
    (here : marker.pattern.MatchesAt text offset)
    (none : ∀ sooner ∈ ahead', ¬ sooner.pattern.MatchesAt text offset)
    (here' : other.pattern.MatchesAt text offset)
    (none' : ∀ sooner ∈ ahead, ¬ sooner.pattern.MatchesAt text offset) : marker = other := by
  rcases List.append_eq_append_iff.mp split with ⟨gap, rfl, tail⟩ | ⟨gap, rfl, tail⟩
  · cases gap with
    | nil => exact List.head_eq_of_cons_eq tail
    | cons second gap =>
        obtain rfl := List.head_eq_of_cons_eq tail
        exact absurd here (none _ (List.mem_append_right _ (.head _)))
  · cases gap with
    | nil => exact (List.head_eq_of_cons_eq tail).symm
    | cons second gap =>
        obtain rfl := List.head_eq_of_cons_eq tail
        exact absurd here' (none' _ (List.mem_append_right _ (.head _)))

private theorem IsEarliest.unique (isEarliest : IsEarliest text offset marker)
    (isEarliest' : IsEarliest text place other) : offset = place ∧ marker = other := by
  obtain rfl : offset = place := Nat.le_antisymm
    (isEarliest.least other isEarliest'.listed place isEarliest'.here)
    (isEarliest'.least marker isEarliest.listed offset isEarliest.here)
  obtain ⟨ahead, behind, split, none⟩ := isEarliest.first
  obtain ⟨ahead', behind', split', none'⟩ := isEarliest'.first
  exact ⟨rfl, eq_of_split (split.symm.trans split') isEarliest.here none' isEarliest'.here none⟩

private theorem mem_findAll {found : Match} :
    (marker, found) ∈ findAll text ↔ marker ∈ all ∧ marker.pattern.find? text = some found := by
  constructor
  · intro member
    obtain ⟨other, listed, equality⟩ := List.mem_filterMap.mp member
    obtain ⟨found', first, same⟩ := Option.map_eq_some_iff.mp equality
    cases same
    exact ⟨listed, first⟩
  · intro ⟨listed, first⟩
    exact List.mem_filterMap.mpr ⟨marker, listed, by rw [first]; rfl⟩

private theorem exists_earliest?_of_matchesAt (listed : marker ∈ all)
    (known : marker.pattern.MatchesAt text offset) :
    ∃ best, earliest? text = some best ∧ best.2.start ≤ offset := by
  obtain ⟨found, first, le⟩ := known.exists_find?
  obtain ⟨best, earliest, le'⟩ := exists_earliestOf (mem_findAll.mpr ⟨listed, first⟩)
  exact ⟨best, earliest, Nat.le_trans le' le⟩

private theorem isEarliest_of_earliest? {found : Match}
    (earliest : earliest? text = some (marker, found)) :
    IsEarliest text found.start marker := by
  refine ⟨?here, ?least, ?first⟩
  case here => exact Pattern.matchesAt_of_find? (find?_of_earliest? earliest).2
  case least =>
    intro other listed place known
    obtain ⟨best, earliest', le⟩ := exists_earliest?_of_matchesAt listed known
    obtain rfl := Option.some.inj (earliest.symm.trans earliest')
    exact le
  case first =>
    obtain ⟨sooner, later, split, before, -⟩ := exists_split_of_earliestOf earliest
    obtain ⟨ahead, rest, whole, left, right⟩ := List.filterMap_eq_append_iff.mp split
    obtain ⟨skipped, marker', behind, rfl, none, here, -⟩ := List.filterMap_eq_cons_iff.mp right
    obtain ⟨found', first, same⟩ := Option.map_eq_some_iff.mp here
    cases same
    refine ⟨ahead ++ skipped, behind, by rw [whole, List.append_assoc], ?_⟩
    intro other member known
    obtain ⟨first', known', le⟩ := known.exists_find?
    rcases List.mem_append.mp member with listed | listed
    · have found : (other, first') ∈ sooner := by
        rw [← left]
        exact List.mem_filterMap.mpr ⟨other, listed, by rw [known']; rfl⟩
      exact absurd le (Nat.not_le_of_lt (before _ found))
    · have unfound := none other listed
      rw [known'] at unfound
      cases unfound

end Earliest

private theorem scan_of_start_eq_zero {text : List Char} {best : Marker × Match}
    (earliest : earliest? text = some best) (atStart : best.2.start = 0) :
    scan (String.ofList text) = .quoted "" .pattern := by
  have before := Text.eq_nil_of_byteSize atStart
  have cut : Scan.cutAtMarker text = ([], true) := by
    rw [Scan.cutAtMarker_eq earliest, before]
  rw [scan, String.toList_ofList]
  simp only [cut, Bool.true_or, if_true]
  rfl

private theorem opens_iff {text : List Char} :
    opens text = true ↔
      ∃ best, earliest? (Text.trimStart text) = some best ∧ best.2.start = 0 := by
  constructor
  · intro opened
    obtain ⟨marker, listed, atStart⟩ := List.any_eq_true.mp opened
    split at atStart
    · next found first =>
        obtain ⟨best, earliest, le⟩ := exists_earliest?_of_matchesAt listed
          (Pattern.matchesAt_of_find? first)
        rw [beq_iff_eq.mp atStart] at le
        exact ⟨best, earliest, Nat.le_zero.mp le⟩
    · cases atStart
  · rintro ⟨⟨marker, found⟩, earliest, atStart⟩
    obtain ⟨listed, first⟩ := find?_of_earliest? earliest
    refine List.any_eq_true.mpr ⟨marker, listed, ?_⟩
    rw [first]
    exact beq_iff_eq.mpr atStart

private theorem hadQuotes_of_earliest? {text : List Char} {best : Marker × Match}
    (earliest : earliest? text = some best) : (scan (String.ofList text)).hadQuotes = true := by
  rw [Scan.hadQuotes_scan, String.toList_ofList, Scan.cutAtMarker_eq earliest, Bool.true_or]

private theorem hadQuotes_of_isForward {text : String} (forward : isForward text.toList = true) :
    (scan text).hadQuotes = true := by
  obtain ⟨marker, listed, found⟩ := List.any_eq_true.mp forward
  obtain ⟨first, known⟩ := Option.isSome_iff_exists.mp found
  obtain ⟨best, earliest, -⟩ := exists_earliest?_of_matchesAt
    (List.mem_append_right replies listed) (Pattern.matchesAt_of_find? known)
  rw [← String.ofList_toList (s := text)]
  exact hadQuotes_of_earliest? earliest

/-- The search finds a marker at a place just if it is the earliest one there, and it finds
one just if some marker matches somewhere. A text opens with a marker, leading white space
apart, just if the earliest one of the rest is at its beginning, and then a scan of the rest
leaves nothing. A text with a forward in it has quotes. -/
theorem earliest?_exact (text : String) :
    let source := text.toList
    (∀ offset marker, (∃ found, earliest? source = some (marker, found) ∧
        found.start = offset) ↔ IsEarliest source offset marker) ∧
    ((earliest? source).isSome = true ↔
      ∃ marker ∈ all, ∃ offset, marker.pattern.MatchesAt source offset) ∧
    (opens source = true ↔
      ∃ best, earliest? (Text.trimStart source) = some best ∧ best.2.start = 0) ∧
    (opens source = true →
      scan (String.ofList (Text.trimStart source)) = .quoted "" .pattern) ∧
    (isForward source = true → (scan text).hadQuotes = true) := by
  intro source
  have exists_of_matchesAt {marker : Marker} (listed : marker ∈ all) {offset : Nat}
      (known : marker.pattern.MatchesAt source offset) :=
    exists_earliest?_of_matchesAt listed known
  refine ⟨fun offset marker => ⟨?found, ?exact⟩, ⟨?some, ?somewhere⟩, opens_iff, ?rest,
    hadQuotes_of_isForward⟩
  case found =>
    rintro ⟨found, earliest, rfl⟩
    exact isEarliest_of_earliest? earliest
  case exact =>
    intro isEarliest
    obtain ⟨⟨other, found⟩, earliest, -⟩ := exists_of_matchesAt isEarliest.listed isEarliest.here
    obtain ⟨rfl, rfl⟩ := (isEarliest_of_earliest? earliest).unique isEarliest
    exact ⟨found, earliest, rfl⟩
  case some =>
    intro some
    obtain ⟨⟨marker, found⟩, earliest⟩ := Option.isSome_iff_exists.mp some
    exact ⟨marker, (find?_of_earliest? earliest).1, _, (isEarliest_of_earliest? earliest).here⟩
  case somewhere =>
    rintro ⟨marker, listed, offset, known⟩
    obtain ⟨best, earliest, -⟩ := exists_of_matchesAt listed known
    rw [earliest]
    rfl
  case rest =>
    intro opened
    obtain ⟨best, earliest, atStart⟩ := opens_iff.mp opened
    exact scan_of_start_eq_zero earliest atStart

theorem earliest?_exact_sample :
    let text := " On a wrote:\n--Forwarded message--"
    opens text.toList = true ∧
      scan (String.ofList (Text.trimStart text.toList)) = .quoted "" .pattern ∧
      isForward text.toList = true ∧ (scan text).hadQuotes = true := by
  intro text
  obtain ⟨-, -, -, rest, quotes⟩ := earliest?_exact text
  have opened : opens text.toList = true := by decide
  have forward : isForward text.toList = true := by decide
  exact ⟨opened, rest opened, forward, quotes forward⟩

end Marker

/-! How the text of an attribution is put together. Main statements: each text of this form
at the beginning of a line is found, whatever is around it; and what is found with a line
break in it is wrapped as it should be, unless the line break separates words that belong
together. -/

namespace Attribution

open Marker Pattern

/-- Whether a text is spaces and tabs, the lead of an attribution, and white space. -/
def IsHead (attribution : Attribution) (text : List Char) : Prop :=
  ∃ indent lead gap, text = indent ++ (lead ++ [gap]) ∧ (∀ c ∈ indent, isPad c = true) ∧
    attribution.lead.Accepts lead ∧ Text.isBlank gap = true

/-- Whether a text is a name that stays in its line, white space, and the verb of an
attribution. -/
def IsTail (attribution : Attribution) (text : List Char) : Prop :=
  ∃ name gap verb, text = name ++ gap :: verb ∧ name ≠ [] ∧ '\n' ∉ name ∧
    Text.isBlank gap = true ∧ attribution.verb.Accepts verb

/-- Whether a text stays in its line and does not end a sentence, spaces and tabs apart. -/
def RunsOn (text : List Char) : Prop :=
  ∃ words last trail, text = words ++ last :: trail ∧ '\n' ∉ words ∧ runsOn last = true ∧
    ∀ c ∈ trail, isPad c = true

def IsBreak (text : List Char) : Prop :=
  text = ['\n'] ∨ text = ['\r', '\n']

/-- Whether a text is spaces and tabs, and maybe a carriage return, at the end of a line. -/
def EndsLine (text after : List Char) : Prop :=
  ∃ trail carriage, text = trail ++ carriage ∧ (∀ c ∈ trail, isPad c = true) ∧
    (carriage = ['\r'] ∨ carriage = []) ∧ Cursor.atLineEnd ⟨none, after⟩ = true

/-- Whether the text of an attribution can be read as a head, what precedes and makes its
line break, a tail, and what is left of its line. -/
inductive Reads (attribution : Attribution) :
    (head middle tail trail after : List Char) → Prop
  | single {head tail after : List Char} (isHead : attribution.IsHead head)
      (isTail : attribution.IsTail tail) : Reads attribution head [] tail [] after
  | wrapped {head words feed tail trail after : List Char}
      (isHead : attribution.IsHead head) (runsOn : RunsOn words) (isBreak : IsBreak feed)
      (isTail : attribution.IsTail tail) (ends : EndsLine trail after) :
      Reads attribution head (words ++ feed) tail trail after

section Takes

variable {attribution : Attribution} {previous : Option Char} {taken after : List Char}

theorem inLine_iff_not_mem {text : List Char} :
    (∀ c ∈ text, inLine c = true) ↔ '\n' ∉ text := by
  refine ⟨fun all member => absurd (all _ member) (by decide), fun none c member => ?_⟩
  exact bne_iff_ne.mpr fun same => none (same ▸ member)

theorem takes_lineBreak : lineBreak.Takes previous taken after ↔ IsBreak taken := by
  constructor
  · rintro ⟨front, back, rfl, carriage, feed⟩
    rw [takes_char] at feed
    rw [feed]
    rcases takes_optional.mp carriage with carriage | none
    · rw [takes_char.mp carriage]
      exact .inr rfl
    · rw [none]
      exact .inl rfl
  · rintro (rfl | rfl)
    · exact ⟨[], ['\n'], rfl, .inr rfl, takes_char.mpr rfl⟩
    · exact ⟨['\r'], ['\n'], rfl, .inl (takes_char.mpr rfl), takes_char.mpr rfl⟩

private theorem takes_oneLine (free : attribution.verb.isFree = true) :
    (oneLine attribution.verb).Takes previous taken after ↔ attribution.IsTail taken := by
  constructor
  · rintro ⟨name, _, rfl, words, _, verb, rfl, ⟨gap, rfl, blank⟩, takes⟩
    obtain ⟨some, all⟩ := takes_plus.mp words
    exact ⟨name, gap, verb, rfl, some, inLine_iff_not_mem.mp all, blank,
      (takes_iff_accepts free).mp takes⟩
  · rintro ⟨name, gap, verb, rfl, some, single, blank, accepts⟩
    exact ⟨name, gap :: verb, rfl, takes_plus.mpr ⟨some, inLine_iff_not_mem.mpr single⟩,
      [gap], verb, rfl, ⟨gap, rfl, blank⟩, (takes_iff_accepts free).mpr accepts⟩

private theorem takes_lineTail :
    (Pattern.sequence lineTail).Takes previous taken after ↔ EndsLine taken after := by
  constructor
  · rintro ⟨trail, _, rfl, pads, carriage, _, rfl, turn, rfl, atEnd⟩
    refine ⟨trail, carriage, by rw [List.append_nil], pads, ?_, atEnd⟩
    exact (takes_optional.mp turn).imp_left takes_char.mp
  · rintro ⟨trail, carriage, rfl, pads, turn, atEnd⟩
    refine ⟨trail, carriage, rfl, pads, carriage, [], (List.append_nil _).symm, ?_, rfl, atEnd⟩
    exact takes_optional.mpr (turn.imp_left takes_char.mpr)

private theorem takes_runsOn :
    (Pattern.sequence [.star inLine, .one runsOn, pads]).Takes previous taken after ↔
      RunsOn taken := by
  constructor
  · rintro ⟨words, _, rfl, single, _, trail, rfl, ⟨last, rfl, goesOn⟩, all⟩
    exact ⟨words, last, trail, rfl, inLine_iff_not_mem.mp single, goesOn, all⟩
  · rintro ⟨words, last, trail, rfl, single, goesOn, all⟩
    exact ⟨words, last :: trail, rfl, inLine_iff_not_mem.mpr single, [last], trail, rfl,
      ⟨last, rfl, goesOn⟩, all⟩

private theorem wrapped_eq_append (verb : Pattern) :
    wrapped verb = Pattern.sequence ([.star inLine, .one runsOn, pads] ++
      ([lineBreak] ++ ([.plus inLine, blank, verb] ++ lineTail))) := rfl

private theorem takes_wrapped (free : attribution.verb.isFree = true) :
    (wrapped attribution.verb).Takes previous taken after ↔
      ∃ words feed tail trail, taken = words ++ (feed ++ (tail ++ trail)) ∧ RunsOn words ∧
        IsBreak feed ∧ attribution.IsTail tail ∧ EndsLine trail after := by
  rw [wrapped_eq_append, takes_sequence_append]
  constructor
  · rintro ⟨words, _, rfl, goesOn, others⟩
    obtain ⟨feed, _, rfl, broken, others⟩ := takes_sequence_append.mp others
    obtain ⟨tail, trail, rfl, closes, ends⟩ := takes_sequence_append.mp others
    exact ⟨words, feed, tail, trail, rfl, takes_runsOn.mp goesOn, takes_lineBreak.mp broken,
      (takes_oneLine free).mp closes, takes_lineTail.mp ends⟩
  · rintro ⟨words, feed, tail, trail, rfl, goesOn, broken, closes, ends⟩
    refine ⟨words, _, rfl, takes_runsOn.mpr goesOn, takes_sequence_append.mpr ?_⟩
    refine ⟨feed, _, rfl, takes_lineBreak.mpr broken, takes_sequence_append.mpr ?_⟩
    exact ⟨tail, trail, rfl, (takes_oneLine free).mpr closes, takes_lineTail.mpr ends⟩

theorem takes_head (free : attribution.lead.isFree = true) :
    (Pattern.sequence [pads, attribution.lead, blank]).Takes previous taken after ↔
      attribution.IsHead taken := by
  constructor
  · rintro ⟨indent, _, rfl, all, lead, _, rfl, takes, gap, rfl, blank⟩
    exact ⟨indent, lead, gap, rfl, all, (takes_iff_accepts free).mp takes, blank⟩
  · rintro ⟨indent, lead, gap, rfl, all, accepts, blank⟩
    exact ⟨indent, lead ++ [gap], rfl, all, lead, [gap], rfl,
      (takes_iff_accepts free).mpr accepts, gap, rfl, blank⟩

private theorem pattern_eq_append (attribution : Attribution) :
    attribution.pattern = Pattern.sequence ([.lineStart] ++
      ([pads, attribution.lead, blank] ++
        [.alt (oneLine attribution.verb) (wrapped attribution.verb)])) := rfl

/-- What the pattern of an attribution takes is what can be read as one at the beginning of
a line. -/
theorem takes_pattern (listed : attribution ∈ table) :
    attribution.pattern.Takes previous taken after ↔
      Cursor.atLineStart ⟨previous, after⟩ = true ∧ ∃ head middle tail trail,
        taken = head ++ (middle ++ (tail ++ trail)) ∧
          attribution.Reads head middle tail trail after := by
  obtain ⟨free, free'⟩ := isFree_of_mem_table attribution listed
  rw [pattern_eq_append, takes_sequence_append]
  constructor
  · rintro ⟨_, _, rfl, ⟨rfl, atStart⟩, others⟩
    refine ⟨atStart, ?_⟩
    obtain ⟨head, rest, rfl, opens, closes⟩ := takes_sequence_append.mp others
    have isHead := (takes_head free).mp opens
    rcases closes with single | double
    · refine ⟨head, [], rest, [], ?_, .single isHead ((takes_oneLine free').mp single)⟩
      rw [List.append_nil, List.nil_append, List.nil_append]
    · obtain ⟨words, feed, tail, trail, rfl, goesOn, broken, isTail, ends⟩ :=
        (takes_wrapped free').mp double
      refine ⟨head, words ++ feed, tail, trail, ?_, .wrapped isHead goesOn broken isTail ends⟩
      rw [List.append_assoc, List.nil_append]
  · rintro ⟨atStart, head, middle, tail, trail, rfl, reads⟩
    refine ⟨[], _, rfl, ⟨rfl, atStart⟩, takes_sequence_append.mpr ⟨head, _, rfl, ?_⟩⟩
    cases reads with
    | single isHead isTail =>
        refine ⟨(takes_head free).mpr isHead, .inl ((takes_oneLine free').mpr ?_)⟩
        rwa [List.append_nil, List.nil_append]
    | wrapped isHead goesOn broken isTail ends =>
        refine ⟨(takes_head free).mpr isHead, .inr ((takes_wrapped free').mpr ?_)⟩
        exact ⟨_, _, _, _, List.append_assoc _ _ _, goesOn, broken, isTail, ends⟩

end Takes

/-- Whether a text is an attribution on one line, or on two, the first of which does not end
a sentence, and the second ends with its verb, where `after` is what follows it. -/
inductive IsHeader (attribution : Attribution) : (header after : List Char) → Prop
  | single {head tail after : List Char} (isHead : attribution.IsHead head)
      (isTail : attribution.IsTail tail) (line : '\n' ∉ head ++ tail) :
      IsHeader attribution (head ++ tail) after
  | wrapped {head words feed tail trail after : List Char}
      (isHead : attribution.IsHead head) (runsOn : RunsOn words)
      (line : '\n' ∉ head ++ words) (isBreak : IsBreak feed)
      (isTail : attribution.IsTail tail) (pads : ∀ c ∈ trail, isPad c = true)
      (line' : '\n' ∉ tail ++ trail)
      (ends : after = [] ∨ ['\n'] <+: after ∨ ['\r', '\n'] <+: after) :
      IsHeader attribution (head ++ (words ++ (feed ++ (tail ++ trail)))) after

section Found

variable {attribution : Attribution} {text before header after : List Char}

private theorem exists_endsLine {trail : List Char} (pads : ∀ c ∈ trail, isPad c = true)
    (ends : after = [] ∨ ['\n'] <+: after ∨ ['\r', '\n'] <+: after) :
    ∃ carriage rest, after = carriage ++ rest ∧ EndsLine (trail ++ carriage) rest := by
  rcases ends with rfl | ⟨rest, rfl⟩ | ⟨rest, rfl⟩
  · exact ⟨[], [], rfl, trail, [], rfl, pads, .inr rfl, rfl⟩
  · exact ⟨[], _, rfl, trail, [], rfl, pads, .inr rfl, rfl⟩
  · exact ⟨['\r'], '\n' :: rest, rfl, trail, ['\r'], rfl, pads, .inl rfl, rfl⟩

private theorem IsHeader.exists_reading (isHeader : attribution.IsHeader header after) :
    ∃ head middle tail trail rest,
      header ++ after = head ++ (middle ++ (tail ++ trail)) ++ rest ∧
        attribution.Reads head middle tail trail rest := by
  cases isHeader with
  | single isHead isTail line =>
      exact ⟨_, [], _, [], after, by simp, .single isHead isTail⟩
  | wrapped isHead goesOn line isBreak isTail pads line' ends =>
      obtain ⟨carriage, rest, rfl, endsLine⟩ := exists_endsLine pads ends
      exact ⟨_, _, _, _, rest, by simp, .wrapped isHead goesOn isBreak isTail endsLine⟩

private theorem atLineStart_of_isSuffix (begins : before = [] ∨ ['\n'] <:+ before) :
    Cursor.atLineStart ⟨before.getLast?, after⟩ = true := by
  rcases begins with rfl | ⟨front, rfl⟩
  · rfl
  · rw [List.getLast?_concat]
    rfl

/-- An attribution that begins a line is found unless a marker is before it, and what a scan
leaves is a part of what is before it. -/
theorem exists_earliest?_of_isHeader (listed : attribution ∈ table)
    (begins : before = [] ∨ ['\n'] <:+ before)
    (isHeader : attribution.IsHeader header after) :
    let text := before ++ (header ++ after)
    (∃ best, earliest? text = some best ∧ best.2.start ≤ Text.byteSize before) ∧
      (scan (String.ofList text)).hadQuotes = true ∧
      ∃ front, front <+: before ∧
        (scan (String.ofList text)).content.toList = Text.trim front := by
  intro text
  obtain ⟨head, middle, tail, trail, rest, whole, reads⟩ := isHeader.exists_reading
  have takes : attribution.pattern.Takes before.getLast? _ rest := (takes_pattern listed).mpr
    ⟨atLineStart_of_isSuffix begins, head, middle, tail, trail, rfl, reads⟩
  have member : attribution.marker ∈ all :=
    List.mem_append_left _ (List.mem_append_left _ (List.mem_map_of_mem listed))
  obtain ⟨best, earliest, earlier⟩ := exists_earliest? member (mem_ends_of_takes takes)
  rw [← whole] at earliest
  refine ⟨⟨best, earliest, ?start⟩, hadQuotes_of_earliest? earliest, ?content⟩
  case start =>
    obtain ⟨gap, rfl⟩ := earlier
    rw [Text.byteSize_append]
    exact Nat.le_add_right _ _
  case content =>
    rw [Scan.content_scan, String.toList_ofList, Scan.cutAtMarker_eq earliest]
    exact ⟨_, (Scan.stripTail_isPrefix _).trans earlier, rfl⟩

theorem exists_earliest?_of_isHeader_sample :
    let header := "In data 3 maggio, \r\nAnna ha  scritto: ".toList
    let after := "\r\n> ciao".toList
    let text := "Ciao.\nIn data 3 maggio, \r\nAnna ha  scritto: \r\n> ciao"
    (table[4]).IsHeader header after ∧ "Ciao.\n".toList ++ (header ++ after) = text.toList ∧
      (scan text).hadQuotes = true ∧
      ∃ front, front <+: "Ciao.\n".toList ∧ (scan text).content.toList = Text.trim front := by
  intro header after text
  have lead : (table[4]).lead.Accepts "In data".toList :=
    takes_iff_exists_end.mpr ⟨some 'a', by decide⟩
  have verb : (table[4]).verb.Accepts "ha  scritto:".toList :=
    takes_iff_exists_end.mpr ⟨some ':', by decide⟩
  have parts : header = "In data ".toList ++ ("3 maggio, ".toList ++
      (['\r', '\n'] ++ ("Anna ha  scritto:".toList ++ [' ']))) := by decide
  have isHead : (table[4]).IsHead "In data ".toList := ⟨[], _, ' ', rfl, nofun, lead, rfl⟩
  have pad : ∀ c ∈ [' '], isPad c = true := List.forall_mem_singleton.mpr rfl
  have goesOn : RunsOn "3 maggio, ".toList :=
    ⟨"3 maggio".toList, ',', [' '], by decide, by decide, rfl, pad⟩
  have isTail : (table[4]).IsTail "Anna ha  scritto:".toList :=
    ⟨"Anna".toList, ' ', _, rfl, by decide, by decide, rfl, verb⟩
  have isHeader : (table[4]).IsHeader header after := by
    rw [parts]
    exact .wrapped isHead goesOn (by decide) (.inr rfl) isTail pad (by decide)
      (.inr (.inr ⟨"> ciao".toList, by decide⟩))
  have whole : "Ciao.\n".toList ++ (header ++ after) = text.toList := by decide
  have begins : ['\n'] <:+ "Ciao.\n".toList := ⟨"Ciao.".toList, by decide⟩
  obtain ⟨-, quotes, content⟩ :=
    exists_earliest?_of_isHeader (List.getElem_mem (by decide)) (.inr begins) isHeader
  rw [whole, String.ofList_toList] at quotes content
  exact ⟨isHeader, whole, quotes, content⟩

end Found

/-- Whether a match of an attribution goes over one line break, where no sentence ends, and
on to the end of the second line, with but spaces, tabs and carriage returns after the
verb. -/
structure IsWrapped (attribution : Attribution) (found : Match) : Prop where
  once : found.matched.count '\n' = 1
  goesOn : ∀ c ∈ (Text.trimEnd (found.matched.takeWhile inLine)).getLast?,
    c ≠ '.' ∧ c ≠ '!' ∧ c ≠ '?'
  ends : ∃ front verb trail, found.matched = front ++ (verb ++ trail) ∧ '\n' ∈ front ∧
    attribution.verb.Accepts verb ∧ (∀ c ∈ trail, isPad c = true ∨ c = '\r') ∧
    Cursor.atLineEnd ⟨none, found.after⟩ = true

/-- Whether a match of an attribution can be read with this head and this tail. -/
def ReadsAs (attribution : Attribution) (found : Match) (head tail : List Char) : Prop :=
  ∃ middle trail, found.matched = head ++ (middle ++ (tail ++ trail)) ∧
    attribution.Reads head middle tail trail found.after

section Wrapped

variable {attribution : Attribution} {found : Match}
variable {head words feed tail trail : List Char}

theorem RunsOn.not_mem (goesOn : RunsOn words) : '\n' ∉ words := by
  obtain ⟨front, last, pads, rfl, single, runs, all⟩ := goesOn
  intro member
  rcases List.mem_append.mp member with inside | inside
  · exact single inside
  · rcases List.mem_cons.mp inside with rfl | inside
    · cases runs
    · cases all _ inside

private theorem EndsLine.not_mem {after : List Char} (ends : EndsLine trail after) :
    '\n' ∉ trail := by
  obtain ⟨pads, carriage, rfl, all, turn, -⟩ := ends
  intro member
  rcases List.mem_append.mp member with inside | inside
  · cases all _ inside
  · rcases turn with rfl | rfl
    · cases List.mem_singleton.mp inside
    · cases inside

private theorem IsBreak.count_eq_one (isBreak : IsBreak feed) : feed.count '\n' = 1 := by
  rcases isBreak with rfl | rfl <;> rfl

private theorem takeWhile_inLine_of_isBreak (single : '\n' ∉ head ++ words) (isBreak : IsBreak feed)
    (rest : List Char) :
    ∃ carriage, Text.allBlank carriage = true ∧
      (head ++ (words ++ feed) ++ rest).takeWhile inLine = head ++ words ++ carriage := by
  have all := inLine_iff_not_mem.mpr single
  rw [← List.append_assoc, List.append_assoc, List.takeWhile_append_of_pos all]
  rcases isBreak with rfl | rfl
  · exact ⟨[], rfl, rfl⟩
  · exact ⟨['\r'], rfl, rfl⟩

private theorem RunsOn.goesOn (goesOn : RunsOn words) (before : List Char) {after : List Char}
    (blank : Text.allBlank after = true) :
    ∀ c ∈ (Text.trimEnd (before ++ words ++ after)).getLast?, c ≠ '.' ∧ c ≠ '!' ∧ c ≠ '?' := by
  obtain ⟨front, last, pads, rfl, -, runs, all⟩ := goesOn
  simp only [runsOn, Bool.not_eq_true', Bool.or_eq_false_iff, beq_eq_false_iff_ne] at runs
  have trailing : Text.allBlank pads = true :=
    List.all_eq_true.mpr fun c member => isBlank_of_isPad (all c member)
  have whole : before ++ (front ++ last :: pads) ++ after =
      (before ++ front ++ [last]) ++ (pads ++ after) := by simp
  have trailing' : Text.allBlank (pads ++ after) = true := by
    rw [Text.allBlank, List.all_append]
    exact Bool.and_eq_true_iff.mpr ⟨trailing, blank⟩
  rw [whole, Text.trimEnd_append_of_allBlank _ trailing',
    Text.trimEnd_concat_of_visible _ runs.2, List.getLast?_concat]
  rintro _ ⟨⟩
  exact ⟨runs.1.1.1, runs.1.1.2, runs.1.2⟩

private theorem isWrapped_of_reads
    (whole : found.matched = head ++ (words ++ feed ++ (tail ++ trail)))
    (line : '\n' ∉ head) (goesOn : RunsOn words) (isBreak : IsBreak feed)
    (isTail : attribution.IsTail tail) (line' : '\n' ∉ tail)
    (ends : EndsLine trail found.after) : attribution.IsWrapped found := by
  have single : '\n' ∉ head ++ words := fun member =>
    (List.mem_append.mp member).elim line goesOn.not_mem
  refine ⟨?once, ?goesOn, ?ends⟩
  case once =>
    simp only [whole, List.count_append, List.count_eq_zero_of_not_mem line,
      List.count_eq_zero_of_not_mem goesOn.not_mem, List.count_eq_zero_of_not_mem line',
      List.count_eq_zero_of_not_mem ends.not_mem, isBreak.count_eq_one]
  case goesOn =>
    obtain ⟨carriage, blank, first⟩ := takeWhile_inLine_of_isBreak single isBreak (tail ++ trail)
    rw [whole, ← List.append_assoc, first]
    exact goesOn.goesOn head blank
  case ends =>
    obtain ⟨name, gap, verb, rfl, -, -, -, accepts⟩ := isTail
    obtain ⟨pads, carriage, rfl, all, turn, atEnd⟩ := ends
    refine ⟨head ++ (words ++ (feed ++ (name ++ [gap]))), verb, pads ++ carriage, ?_, ?_, accepts,
      ?_, atEnd⟩
    · rw [whole]
      simp
    · have member : '\n' ∈ feed := List.count_pos_iff.mp (by rw [isBreak.count_eq_one]; decide)
      simp only [List.mem_append, member, true_or, or_true]
    · intro c member
      rcases List.mem_append.mp member with inside | inside
      · exact .inl (all c inside)
      · rcases turn with rfl | rfl
        · exact .inr (List.mem_singleton.mp inside)
        · cases inside

/-- What is found of an attribution can be read as one, and if it can be read with no line
break in its head or its tail, then a line break in it is that of an attribution which was
wrapped once, in a sentence, and ends with its line. -/
theorem isWrapped_of_find? (listed : attribution ∈ table) {text : List Char}
    (first : attribution.pattern.find? text = some found) :
    (∃ head tail, attribution.ReadsAs found head tail) ∧
      ∀ head tail, attribution.ReadsAs found head tail → '\n' ∉ head → '\n' ∉ tail →
        '\n' ∈ found.matched → attribution.IsWrapped found := by
  constructor
  · obtain ⟨-, takes⟩ := occursIn_iff.mp (occursIn_of_find? first)
    obtain ⟨-, head, middle, tail, trail, whole, reads⟩ := (takes_pattern listed).mp takes
    exact ⟨head, tail, middle, trail, whole, reads⟩
  · rintro head tail ⟨middle, trail, whole, reads⟩ line line' broken
    cases reads with
    | single isHead isTail =>
        rw [whole, List.append_nil, List.nil_append] at broken
        exact absurd broken fun member => (List.mem_append.mp member).elim line line'
    | wrapped isHead goesOn isBreak isTail ends =>
        exact isWrapped_of_reads whole line goesOn isBreak isTail line' ends

theorem isWrapped_of_find?_sample :
    let found : Match := ⟨"Hi\n".toList, "On Mon\nBob wrote:".toList, "\n> hi".toList⟩
    (table[0]).pattern.find? "Hi\nOn Mon\nBob wrote:\n> hi".toList = some found ∧
      (table[0]).ReadsAs found "On ".toList "Bob wrote:".toList ∧
      (table[0]).IsWrapped found := by
  intro found
  have first : (table[0]).pattern.find? "Hi\nOn Mon\nBob wrote:\n> hi".toList = some found := by
    decide
  have lead : (table[0]).lead.Accepts "On".toList :=
    takes_iff_exists_end.mpr ⟨some 'n', by decide⟩
  have verb : (table[0]).verb.Accepts "wrote:".toList :=
    takes_iff_exists_end.mpr ⟨some ':', by decide⟩
  have goesOn : RunsOn "Mon".toList := ⟨"Mo".toList, 'n', [], rfl, by decide, rfl, nofun⟩
  have reads : (table[0]).ReadsAs found "On ".toList "Bob wrote:".toList :=
    ⟨"Mon".toList ++ ['\n'], [], by decide, .wrapped ⟨[], _, ' ', rfl, nofun, lead, rfl⟩ goesOn
      (.inl rfl) ⟨"Bob".toList, ' ', _, rfl, by decide, by decide, rfl, verb⟩
      ⟨[], [], rfl, nofun, .inr rfl, rfl⟩⟩
  exact ⟨first, reads, (isWrapped_of_find? (List.getElem_mem (by decide)) first).2 _ _ reads
    (by decide) (by decide) (by decide)⟩

/-- A line break may be the white space before the verb, and then the line goes on. -/
theorem not_isWrapped_of_find? :
    ¬ ∀ attribution ∈ table, ∀ text found, attribution.pattern.find? text = some found →
      '\n' ∈ found.matched → attribution.IsWrapped found := by
  intro wrapped
  have first : (table[0]).pattern.find? "On the board he\nwrote: the plan".toList =
      some ⟨[], "On the board he\nwrote:".toList, " the plan".toList⟩ := by
    decide
  obtain ⟨_, _, _, -, -, -, -, atEnd⟩ :=
    (wrapped _ (List.getElem_mem (by decide)) _ _ first (by decide)).ends
  cases atEnd

end Wrapped

end Attribution

end MailQuote
