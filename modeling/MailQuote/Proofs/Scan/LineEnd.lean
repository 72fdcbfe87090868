import MailQuote.Proofs.Marker.Earliest

namespace MailQuote

open Pattern

/-- What a pattern takes up to a line feed in it, or right after it. -/
def Pattern.breaks (pattern : Pattern) : List Pattern :=
  (pattern.stems ++ [pattern]).map fun stem => .seq stem (char '\n')

namespace Attribution

open Marker

def opening (attribution : Attribution) : Pattern :=
  sequence [.lineStart, pads, attribution.lead, blank]

/-- What is left of the first line of an attribution that continues on the next line. -/
def firstLine : Pattern :=
  sequence [.star inLine, .one runsOn, pads, lineBreak]

def secondLine (verb : Pattern) : Pattern :=
  sequence ([.plus inLine] ++ (blank :: verb :: lineTail))

/-- An attribution that continues after an empty line, and there with its verb at once. -/
def parted (attribution : Attribution) : Pattern :=
  sequence [attribution.opening, firstLine, char '\n',
    sequence (attribution.verb :: lineTail)]

end Attribution

namespace Marker

/-- The words before the sender and before the date in each block of header lines. -/
def headers : List (Pattern × Pattern) := [
  (literal "From:", sequence [.alt (literal "Sent") (literal "Date"), char ':']),
  (sequence [literal "De", optional blank, char ':'],
    sequence [.alt (literal "Envoyé") (literal "Date"), optional blank, char ':']),
  (literal "Von:", sequence [.alt (literal "Gesendet") (literal "Datum"), char ':'])]

def headerOpening (sender : Pattern) : Pattern :=
  sequence [.lineStart, pads, sender, .one isPad]

def headerClosing (date : Pattern) : Pattern :=
  sequence [pads, date, .one isPad]

def openings : List Pattern :=
  Attribution.table.map Attribution.opening ++
    headers.map fun (sender, _) => headerOpening sender

/-- Headers that a line end tears: within or right after the words that they begin with,
before the verb of an attribution that has been wrapped already, and within the words before
the date. -/
def torn : List Pattern :=
  openings.flatMap breaks ++ Attribution.table.map Attribution.parted ++
    headers.flatMap fun (sender, date) => (headerClosing date).stems.map fun stem =>
      sequence [headerOpening sender, .plus inLine, lineBreak, stem, char '\n']

/-- Whether a torn header begins between the character `previous` and the text `rest`. -/
def IsTornAt (previous : Option Char) (rest : List Char) : Prop :=
  ∃ pattern ∈ torn, ∃ taken after, taken ++ after = rest ∧ pattern.Takes previous taken after

section Torn

variable {previous : Option Char} {taken after rest : List Char} {cursor : Cursor}

private theorem isTornAt_of_mem_ends {pattern : Pattern} (member : pattern ∈ torn)
    {reached : Cursor}
    (ended : reached ∈ pattern.ends cursor) : IsTornAt cursor.previous cursor.rest := by
  obtain ⟨taken, whole, -, takes⟩ := exists_takes ended
  exact ⟨pattern, member, taken, _, whole, takes⟩

private theorem mem_torn_of_mem_breaks {opening pattern : Pattern} (member : opening ∈ openings)
    (breaks : pattern ∈ opening.breaks) : pattern ∈ torn :=
  List.mem_append_left _ (List.mem_append_left _ (List.mem_flatMap.mpr ⟨opening, member, breaks⟩))

private theorem isTornAt_of_opening {opening : Pattern} (member : opening ∈ openings)
    (takes : opening.Takes previous taken after) (broken : '\n' ∈ taken) :
    IsTornAt previous (taken ++ after) := by
  obtain ⟨stem, known, front, back, rfl, stemTakes⟩ := exists_stem takes broken
  refine ⟨.seq stem (char '\n'), ?_, front ++ ['\n'], back ++ after, by simp, ?_⟩
  · exact mem_torn_of_mem_breaks member (List.mem_map_of_mem (List.mem_append_left _ known))
  · exact ⟨front, ['\n'], rfl, stemTakes, takes_char.mpr rfl⟩

private theorem isTornAt_of_atFeed {opening : Pattern} (member : opening ∈ openings)
    {reached : Cursor} (ended : reached ∈ opening.ends cursor) (feed : reached.AtFeed) :
    IsTornAt cursor.previous cursor.rest := by
  have known : .seq opening (char '\n') ∈ torn :=
    mem_torn_of_mem_breaks member (List.mem_map_of_mem (List.mem_append_right _ (.head _)))
  obtain ⟨rest, equality⟩ := feed
  have last : ⟨some '\n', rest⟩ ∈ (char '\n').ends reached := by
    rw [char, ends, equality]
    exact .head _
  exact isTornAt_of_mem_ends known (List.mem_flatMap.mpr ⟨reached, ended, last⟩)

end Torn

end Marker

namespace Attribution

open Marker

variable {attribution : Attribution} {previous : Option Char}
variable {head middle tail trail taken after rest : List Char}

private theorem opening_mem (listed : attribution ∈ table) : attribution.opening ∈ openings :=
  List.mem_append_left _ (List.mem_map_of_mem listed)

private theorem parted_mem (listed : attribution ∈ table) : attribution.parted ∈ torn :=
  List.mem_append_left _ (List.mem_append_right _ (List.mem_map_of_mem listed))

section Forward

private theorem stretches_verb : ∀ attribution ∈ table, attribution.verb.stretches = true := by
  decide

private theorem IsTail.crlf (listed : attribution ∈ table) (isTail : attribution.IsTail tail) :
    attribution.IsTail (Text.crlf tail) := by
  obtain ⟨name, gap, verb, rfl, some, single, blank, accepts⟩ := isTail
  have accepts' : attribution.verb.Accepts (Text.crlf verb) :=
    takes_crlf (stretches_verb _ listed) accepts
  rw [Text.crlf_append, Text.crlf_of_not_mem single]
  by_cases feed : gap = '\n'
  · refine ⟨name ++ ['\r'], '\n', Text.crlf verb, ?_, ?_, ?_, rfl, accepts'⟩
    · rw [feed, Text.crlf_feed, List.append_assoc]
      rfl
    · exact List.append_ne_nil_of_left_ne_nil some _
    · simpa using single
  · rw [Text.crlf_cons feed]
    exact ⟨name, gap, Text.crlf verb, rfl, some, single, blank, accepts'⟩

private theorem EndsLine.crlf (plain : '\r' ∉ trail) (ends : EndsLine trail after) :
    ∃ trail' after', trail' ++ after' = Text.crlf (trail ++ after) ∧ EndsLine trail' after' := by
  obtain ⟨pads, carriage, rfl, all, rfl | rfl, atEnd⟩ := ends
  · exact absurd (List.mem_append_right _ (.head _)) plain
  · have single : '\n' ∉ pads :=
      inLine_iff_not_mem.mp fun c member => inLine_of_isPad (all c member)
    rw [List.append_nil, Text.crlf_append, Text.crlf_of_not_mem single]
    cases after with
    | nil => exact ⟨pads, [], rfl, pads, [], (List.append_nil _).symm, all, .inr rfl, rfl⟩
    | cons c rest =>
        obtain rfl := beq_iff_eq.mp atEnd
        refine ⟨pads ++ ['\r'], '\n' :: Text.crlf rest, ?_, pads, ['\r'], rfl, all, .inl rfl, rfl⟩
        rw [Text.crlf_feed, List.append_assoc]
        rfl

private theorem IsBreak.crlf (plain : '\r' ∉ taken) (isBreak : IsBreak taken) :
    IsBreak (Text.crlf taken) := by
  rcases isBreak with rfl | rfl
  · exact .inr rfl
  · exact absurd (.head _) plain

private theorem Reads.crlf (listed : attribution ∈ table)
    (reads : attribution.Reads head middle tail trail after)
    (plain : '\r' ∉ middle ++ (tail ++ trail)) :
    ∃ trail' after', trail' ++ after' = Text.crlf (trail ++ after) ∧
      attribution.Reads head (Text.crlf middle) (Text.crlf tail) trail' after' := by
  cases reads with
  | single isHead isTail => exact ⟨[], _, rfl, .single isHead (isTail.crlf listed)⟩
  | wrapped isHead goesOn isBreak isTail ends =>
      simp only [List.mem_append, not_or] at plain
      obtain ⟨trail', after', whole, ends'⟩ := ends.crlf plain.2.2
      refine ⟨trail', after', whole, ?_⟩
      rw [Text.crlf_append, Text.crlf_of_not_mem goesOn.not_mem]
      exact .wrapped isHead goesOn (isBreak.crlf plain.1.2) (isTail.crlf listed) ends'

private theorem takes_opening (listed : attribution ∈ table)
    (atStart : Cursor.atLineStart ⟨previous, after⟩ = true) (isHead : attribution.IsHead head) :
    attribution.opening.Takes previous head after := by
  obtain ⟨free, -⟩ := isFree_of_mem_table attribution listed
  exact ⟨[], head, rfl, ⟨rfl, atStart⟩, (takes_head free).mpr isHead⟩

/-- An attribution that is not torn is one with carriage returns. -/
theorem exists_takes_crlf (listed : attribution ∈ table) (plain : '\r' ∉ taken)
    (takes : attribution.pattern.Takes previous taken after)
    (untorn : ¬ IsTornAt previous (taken ++ after)) :
    ∃ taken' after', taken' ++ after' = Text.crlf (taken ++ after) ∧
      attribution.pattern.Takes previous taken' after' := by
  obtain ⟨atStart, head, middle, tail, trail, rfl, reads⟩ := (takes_pattern listed).mp takes
  have isHead : attribution.IsHead head := by cases reads <;> assumption
  have single : '\n' ∉ head := fun broken => untorn <| by
    rw [List.append_assoc]
    exact isTornAt_of_opening (opening_mem listed) (takes_opening listed atStart isHead) broken
  have plain' : '\r' ∉ middle ++ (tail ++ trail) := fun member =>
    plain (List.mem_append_right _ member)
  obtain ⟨trail', after', whole, reads'⟩ := reads.crlf listed plain'
  refine ⟨_, after', ?_, (takes_pattern listed).mpr ⟨atStart, _, _, _, _, rfl, reads'⟩⟩
  simp only [List.append_assoc, whole, Text.crlf_append, Text.crlf_of_not_mem single]

end Forward

section Backward

variable {cursor image target : Cursor}

private theorem tracks_of_mem_table : ∀ attribution ∈ table,
    (Pattern.sequence [.lineStart, pads, attribution.lead]).tracks = true ∧
      (Pattern.sequence [blank, attribution.verb]).tracks = true ∧
      (Pattern.sequence (blank :: attribution.verb :: lineTail)).tracks = true ∧
      (Pattern.sequence (attribution.verb :: lineTail)).tracks = true := by
  decide

private theorem exists_opening (listed : attribution ∈ table) (along : cursor.Tracks image)
    (member : target ∈ attribution.opening.ends image) :
    (∃ reached ∈ attribution.opening.ends cursor, reached.Tracks target) ∨
      IsTornAt cursor.previous cursor.rest := by
  have split : attribution.opening =
      Pattern.sequence ([.lineStart, pads, attribution.lead] ++ [blank]) := rfl
  rw [split, ends_sequence_append] at member ⊢
  obtain ⟨between, known, member⟩ := List.mem_flatMap.mp member
  obtain ⟨reached, first, along⟩ := exists_tracked (tracks_of_mem_table _ listed).1 along known
  refine (exists_one along member).imp ?_ ?_
  · rintro ⟨farther, last, along⟩
    exact ⟨farther, List.mem_flatMap.mpr ⟨reached, first, last⟩, along⟩
  · rintro ⟨-, rest, feed, -⟩
    -- The white space is the carriage return of a line end, and so the line feed without it.
    obtain ⟨taken, whole, -, takes⟩ := exists_takes first
    have takes' : attribution.opening.Takes cursor.previous (taken ++ ['\n']) rest := by
      rw [split]
      rw [feed] at takes
      exact takes_sequence_append.mpr ⟨taken, ['\n'], rfl, takes, '\n', rfl, rfl⟩
    have isTorn := isTornAt_of_opening (opening_mem listed) takes'
      (List.mem_append_right _ (.head _))
    rwa [← whole, feed, List.append_cons]

/-- After its first line an attribution goes on in the same way, unless an empty line and its
verb follow. -/
theorem exists_secondLine (listed : attribution ∈ table) (along : cursor.Tracks image)
    (member : target ∈ (secondLine attribution.verb).ends image) :
    (∃ reached, reached ∈ (secondLine attribution.verb).ends cursor) ∨
      ∃ reached, reached ∈ (Pattern.sequence
        [char '\n', Pattern.sequence (attribution.verb :: lineTail)]).ends cursor := by
  obtain ⟨-, -, tracked, tracked'⟩ := tracks_of_mem_table _ listed
  rw [secondLine, ends_sequence_append] at member ⊢
  obtain ⟨between, words, others⟩ := List.mem_flatMap.mp member
  by_cases feed : cursor.AtFeed
  · -- The name is the carriage return of a line end, and the white space is its line feed.
    obtain ⟨rest, equality⟩ := feed
    obtain ⟨place, first, more⟩ := List.mem_flatMap.mp words
    rcases exists_one along first with ⟨reached, known, -⟩ | ⟨-, rest', same, rfl⟩
    · rw [ends, equality] at known
      cases known
    · obtain rfl := List.mem_singleton.mp more
      obtain ⟨last, taken, others⟩ := List.mem_flatMap.mp others
      obtain rfl := List.mem_singleton.mp taken
      obtain ⟨reached, known, -⟩ := exists_tracked tracked' (.same (some '\n') rest') others
      refine .inr ⟨reached, List.mem_flatMap.mpr ⟨⟨some '\n', rest'⟩, ?_, known⟩⟩
      rw [char, ends, same]
      exact .head _
  · obtain ⟨reached, known, along⟩ := exists_plus along feed words
    obtain ⟨farther, known', -⟩ := exists_tracked tracked along others
    exact .inl ⟨farther, List.mem_flatMap.mpr ⟨reached, known, known'⟩⟩

private theorem ends_wrapped (verb : Pattern) (cursor : Cursor) :
    (wrapped verb).ends cursor = (firstLine.ends cursor).flatMap (secondLine verb).ends :=
  ends_sequence_append [.star inLine, .one runsOn, pads, lineBreak] _ cursor

/-- An attribution with carriage returns is one without them, or one is torn there. -/
theorem exists_end_of_crlf (listed : attribution ∈ table) (along : cursor.Tracks image)
    (member : target ∈ attribution.pattern.ends image) :
    (∃ reached, reached ∈ attribution.pattern.ends cursor) ∨
      IsTornAt cursor.previous cursor.rest := by
  rw [pattern_eq, ends_sequence_append] at member ⊢
  obtain ⟨between, first, others⟩ := List.mem_flatMap.mp member
  rcases exists_opening listed along first with ⟨start, opened, along⟩ | isTorn
  swap
  · exact .inr isTorn
  by_cases feed : start.AtFeed
  · exact .inr (isTornAt_of_atFeed (opening_mem listed) opened feed)
  rcases List.mem_append.mp others with single | double
  · obtain ⟨_, words, verb⟩ := List.mem_flatMap.mp single
    obtain ⟨gap, known, along⟩ := exists_plus along feed words
    obtain ⟨reached, known', -⟩ := exists_tracked (tracks_of_mem_table _ listed).2.1 along verb
    refine .inl ⟨reached, List.mem_flatMap.mpr ⟨start, opened, List.mem_append_left _ ?_⟩⟩
    exact List.mem_flatMap.mpr ⟨gap, known, known'⟩
  · rw [ends_wrapped] at double
    obtain ⟨_, words, verb⟩ := List.mem_flatMap.mp double
    have tracked : firstLine.tracks = true := by decide
    obtain ⟨turn, known, along⟩ := exists_tracked tracked along words
    rcases exists_secondLine listed along verb with ⟨reached, known'⟩ | ⟨reached, known'⟩
    · refine .inl ⟨reached, List.mem_flatMap.mpr ⟨start, opened, List.mem_append_right _ ?_⟩⟩
      rw [ends_wrapped]
      exact List.mem_flatMap.mpr ⟨turn, known, known'⟩
    · have parts : reached ∈ attribution.parted.ends cursor :=
        List.mem_flatMap.mpr ⟨start, opened, List.mem_flatMap.mpr ⟨turn, known, known'⟩⟩
      exact .inr (isTornAt_of_mem_ends (parted_mem listed) parts)

end Backward

end Attribution

namespace Marker

variable {previous : Option Char} {taken after rest : List Char} {cursor image target : Cursor}

section Headers

variable {sender date : Pattern}

private theorem headerOpening_mem (listed : (sender, date) ∈ headers) :
    headerOpening sender ∈ openings :=
  List.mem_append_right _ (List.mem_map.mpr ⟨_, listed, rfl⟩)

private theorem isFree_of_mem_headers : ∀ header ∈ headers,
    (headerOpening header.1).isFreeAfter = true ∧ (headerClosing header.2).isFree = true := by
  decide

private theorem tracks_of_mem_headers : ∀ header ∈ headers,
    (headerOpening header.1).tracks = true ∧
      (Pattern.sequence [lineBreak, pads, header.2, .one isPad]).tracks = true := by
  decide

private theorem headerBlock_eq (sender date : Pattern) :
    headerBlock sender date = Pattern.sequence ([.lineStart, pads, sender, .one isPad] ++
      ([.plus inLine] ++ ([lineBreak] ++ [pads, date, .one isPad]))) := rfl

private theorem takes_headerBlock :
    (headerBlock sender date).Takes previous taken after ↔
      ∃ front words feed back, taken = front ++ (words ++ (feed ++ back)) ∧
        (headerOpening sender).Takes previous front (words ++ (feed ++ back) ++ after) ∧
        words ≠ [] ∧ '\n' ∉ words ∧ Attribution.IsBreak feed ∧
        (headerClosing date).Takes
          (feed.getLast?.or (words.getLast?.or (front.getLast?.or previous))) back after := by
  simp only [headerBlock_eq, takes_sequence_append]
  constructor
  · rintro ⟨front, _, rfl, opens, words, _, rfl, some, feed, back, rfl, breaks, closes⟩
    obtain ⟨more, all⟩ := takes_plus.mp some
    exact ⟨front, words, feed, back, rfl, opens, more, Attribution.inLine_iff_not_mem.mp all,
      Attribution.takes_lineBreak.mp breaks, closes⟩
  · rintro ⟨front, words, feed, back, rfl, opens, more, single, breaks, closes⟩
    exact ⟨front, _, rfl, opens, words, _, rfl,
      takes_plus.mpr ⟨more, Attribution.inLine_iff_not_mem.mpr single⟩, feed, back, rfl,
      Attribution.takes_lineBreak.mpr breaks, closes⟩

/-- A block of header lines that is not torn is one with carriage returns. -/
theorem exists_takes_crlf_headerBlock (listed : (sender, date) ∈ headers) (plain : '\r' ∉ taken)
    (takes : (headerBlock sender date).Takes previous taken after)
    (untorn : ¬ IsTornAt previous (taken ++ after)) :
    ∃ taken' after', taken' ++ after' = Text.crlf (taken ++ after) ∧
      (headerBlock sender date).Takes previous taken' after' := by
  obtain ⟨freeAfter, free⟩ := isFree_of_mem_headers _ listed
  obtain ⟨front, words, feed, back, rfl, opens, some, single, isBreak, closes⟩ :=
    takes_headerBlock.mp takes
  have opens' (rest : List Char) : (headerOpening sender).Takes previous front rest :=
    takes_elsewhere opens (.inr rfl) (.inl freeAfter)
  have whole : '\n' ∉ front := fun broken => untorn <| by
    rw [List.append_assoc]
    exact isTornAt_of_opening (headerOpening_mem listed) (opens' _) broken
  have whole' : '\n' ∉ back := fun broken => untorn <| by
    obtain ⟨stem, known, begins, ends, rfl, stemTakes⟩ := exists_stem closes broken
    refine ⟨_, List.mem_append_right _
      (List.mem_flatMap.mpr ⟨_, listed, List.mem_map_of_mem known⟩),
      front ++ (words ++ (feed ++ (begins ++ ['\n']))), ends ++ after, by simp, ?_⟩
    exact ⟨front, _, rfl, opens' _, words, _, rfl,
      takes_plus.mpr ⟨some, Attribution.inLine_iff_not_mem.mpr single⟩, feed, _, rfl,
      Attribution.takes_lineBreak.mpr isBreak, begins, _, rfl, stemTakes, takes_char.mpr rfl⟩
  have broken : feed = ['\n'] := by
    refine isBreak.resolve_right fun carriage => plain ?_
    simp [carriage]
  refine ⟨front ++ (words ++ (['\r', '\n'] ++ back)), Text.crlf after, ?_, ?_⟩
  · simp only [broken, Text.crlf_append, Text.crlf_of_not_mem whole,
      Text.crlf_of_not_mem single, Text.crlf_of_not_mem whole', List.append_assoc]
    rfl
  · exact takes_headerBlock.mpr ⟨front, words, ['\r', '\n'], back, rfl, opens' _, some, single,
      .inr rfl, takes_of_isFree free closes _ _⟩

/-- A block of header lines with carriage returns is one without them, or is torn. -/
theorem exists_end_of_crlf_headerBlock (listed : (sender, date) ∈ headers)
    (along : cursor.Tracks image) (member : target ∈ (headerBlock sender date).ends image) :
    (∃ reached, reached ∈ (headerBlock sender date).ends cursor) ∨
      IsTornAt cursor.previous cursor.rest := by
  obtain ⟨tracked, tracked'⟩ := tracks_of_mem_headers _ listed
  rw [headerBlock_eq, ends_sequence_append] at member ⊢
  obtain ⟨_, opens, others⟩ := List.mem_flatMap.mp member
  obtain ⟨start, known, along⟩ := exists_tracked tracked along opens
  by_cases feed : start.AtFeed
  · exact .inr (isTornAt_of_atFeed (headerOpening_mem listed) known feed)
  · obtain ⟨_, words, closes⟩ := List.mem_flatMap.mp others
    obtain ⟨turn, known', along⟩ := exists_plus along feed words
    obtain ⟨reached, known'', -⟩ := exists_tracked tracked' along closes
    exact .inl ⟨reached, List.mem_flatMap.mpr ⟨start, known,
      List.mem_flatMap.mpr ⟨turn, known', known''⟩⟩⟩

end Headers

section Marker

variable {marker : Marker}

private theorem stops_of_mem_all : ∀ marker ∈ all, marker.pattern.stops = true := by
  decide

private theorem tracks_of_mem_forwardTable : ∀ entry ∈ forwardTable,
    entry.2.tracks = true ∧ entry.2.stretches = true := by
  decide

private theorem replyTable_cases {entry : String × Pattern} (member : entry ∈ replyTable) :
    (entry.2.tracks = true ∧ entry.2.stretches = true) ∨
      ∃ header ∈ headers, entry.2 = headerBlock header.1 header.2 := by
  simp only [replyTable, List.mem_cons, List.not_mem_nil, or_false] at member
  rcases member with rfl | rfl | rfl | rfl | rfl | rfl | rfl | rfl | rfl
  case inr.inr.inr.inr.inr.inr.inl => exact .inr ⟨_, .head _, rfl⟩
  case inr.inr.inr.inr.inr.inr.inr.inl => exact .inr ⟨_, .tail _ (.head _), rfl⟩
  case inr.inr.inr.inr.inr.inr.inr.inr => exact .inr ⟨_, .tail _ (.tail _ (.head _)), rfl⟩
  all_goals exact .inl (by decide)

private theorem pattern_cases (member : marker ∈ all) :
    (marker.pattern.tracks = true ∧ marker.pattern.stretches = true) ∨
      (∃ attribution ∈ Attribution.table, marker.pattern = attribution.pattern) ∨
        ∃ header ∈ headers, marker.pattern = headerBlock header.1 header.2 := by
  rcases List.mem_append.mp member with reply | forward
  · rcases List.mem_append.mp reply with known | known
    · obtain ⟨attribution, listed, rfl⟩ := List.mem_map.mp known
      exact .inr (.inl ⟨attribution, listed, rfl⟩)
    · obtain ⟨entry, listed, rfl⟩ := List.mem_map.mp known
      exact (replyTable_cases listed).imp_right .inr
  · obtain ⟨entry, listed, rfl⟩ := List.mem_map.mp forward
    exact .inl (tracks_of_mem_forwardTable entry listed)

private theorem exists_takes_crlf (member : marker ∈ all) (plain : '\r' ∉ taken)
    (takes : marker.pattern.Takes previous taken after)
    (untorn : ¬ IsTornAt previous (taken ++ after)) :
    ∃ taken' after', taken' ++ after' = Text.crlf (taken ++ after) ∧
      marker.pattern.Takes previous taken' after' := by
  rcases pattern_cases member with
    ⟨-, stretched⟩ | ⟨attribution, listed, same⟩ | ⟨header, listed, same⟩
  · exact ⟨_, _, (Text.crlf_append taken after).symm, takes_crlf stretched takes⟩
  · rw [same] at takes ⊢
    exact Attribution.exists_takes_crlf listed plain takes untorn
  · rw [same] at takes ⊢
    exact exists_takes_crlf_headerBlock listed plain takes untorn

private theorem exists_end_of_crlf (member : marker ∈ all) (along : cursor.Tracks image)
    (ended : target ∈ marker.pattern.ends image) :
    (∃ reached, reached ∈ marker.pattern.ends cursor) ∨
      IsTornAt cursor.previous cursor.rest := by
  rcases pattern_cases member with
    ⟨tracked, -⟩ | ⟨attribution, listed, same⟩ | ⟨header, listed, same⟩
  · obtain ⟨reached, known, -⟩ := exists_tracked tracked along ended
    exact .inl ⟨reached, known⟩
  · rw [same] at ended ⊢
    exact Attribution.exists_end_of_crlf listed along ended
  · rw [same] at ended ⊢
    exact exists_end_of_crlf_headerBlock listed along ended

end Marker

/-- Whether a header of a text is torn that begins no later than its earliest marker. -/
def IsTorn (text : List Char) : Prop :=
  ∃ pattern ∈ torn, ∃ offset, pattern.MatchesAt text offset ∧
    ∀ best, earliest? text = some best → offset ≤ best.2.start

section Earliest

variable {text : List Char} {marker : Marker} {best : Marker × Match}

private theorem isTorn_of_isTornAt {before : List Char} (isTorn : IsTornAt before.getLast? rest)
    (early : ∀ best, earliest? (before ++ rest) = some best → before <+: best.2.before) :
    IsTorn (before ++ rest) := by
  obtain ⟨pattern, member, taken, after, rfl, takes⟩ := isTorn
  refine ⟨pattern, member, _, ⟨before, taken, after, rfl, rfl, takes⟩, fun best earliest => ?_⟩
  obtain ⟨more, equality⟩ := early best earliest
  rw [Match.start, ← equality, Text.byteSize_append]
  exact Nat.le_add_right _ _

private theorem takes_of_earliest? (earliest : earliest? text = some best) :
    best.1 ∈ all ∧ best.2.before ++ (best.2.matched ++ best.2.after) = text ∧
      best.1.pattern.Takes best.2.before.getLast? best.2.matched best.2.after := by
  obtain ⟨member, first⟩ := find?_of_earliest? earliest
  exact ⟨member, occursIn_iff.mp (occursIn_of_find? first)⟩

private theorem exists_earliest?_of_takes (member : marker ∈ all) {before : List Char}
    (whole : before ++ (taken ++ after) = text)
    (takes : marker.pattern.Takes before.getLast? taken after) :
    ∃ best, earliest? text = some best ∧ best.2.before <+: before := by
  rw [← whole]
  exact exists_earliest? member (mem_ends_of_takes takes)

/-- The earliest marker of a text, if no header is torn before it, is found with carriage
returns, or one that is before it. -/
theorem exists_earliest?_crlf (plain : '\r' ∉ text) (untorn : ¬ IsTorn text)
    (earliest : earliest? text = some best) :
    ∃ other, earliest? (Text.crlf text) = some other ∧
      other.2.before <+: Text.crlf best.2.before := by
  obtain ⟨member, rfl, takes⟩ := takes_of_earliest? earliest
  simp only [List.mem_append, not_or] at plain
  have untorn' : ¬ IsTornAt best.2.before.getLast? (best.2.matched ++ best.2.after) := fun isTorn =>
    untorn <| isTorn_of_isTornAt isTorn fun other earliest' => by
      cases earliest.symm.trans earliest'
      exact List.prefix_refl _
  obtain ⟨taken, after, whole, takes'⟩ := exists_takes_crlf member plain.2.1 takes untorn'
  rw [← Text.getLast?_crlf] at takes'
  refine exists_earliest?_of_takes member ?_ takes'
  rw [whole, ← Text.crlf_append]

/-- What is found with carriage returns is at the place of a marker, or where a header is
torn. -/
theorem exists_of_earliest?_crlf (earliest : earliest? (Text.crlf text) = some best) :
    ∃ before rest, before ++ rest = text ∧ best.2.before = Text.crlf before ∧
      ((∃ other, earliest? text = some other ∧ other.2.before <+: before) ∨
        IsTornAt before.getLast? rest) := by
  obtain ⟨member, whole, takes⟩ := takes_of_earliest? earliest
  have ended := mem_ends_of_takes takes
  rcases Text.exists_split_of_crlf whole with ⟨before, rest, rfl, front, back⟩ |
    ⟨before, rest, rfl, front, back⟩
  · rw [front, back, Text.getLast?_crlf] at ended
    refine ⟨before, rest, rfl, front, (exists_end_of_crlf member (.same _ rest) ended).imp_left ?_⟩
    rintro ⟨reached, known⟩
    exact exists_earliest? member known
  · rw [front, back, List.getLast?_concat, ends_nil_of_stops (stops_of_mem_all _ member)] at ended
    cases ended

private theorem before_earliest?_crlf (plain : '\r' ∉ text) (untorn : ¬ IsTorn text) :
    (earliest? (Text.crlf text)).map (fun best => best.2.before) =
      (earliest? text).map fun best => Text.crlf best.2.before := by
  cases known : earliest? text with
  | none =>
      cases known' : earliest? (Text.crlf text) with
      | none => rfl
      | some other =>
          obtain ⟨before, rest, rfl, -, ⟨best, earliest, -⟩ | isTorn⟩ :=
            exists_of_earliest?_crlf known'
          · cases known.symm.trans earliest
          · refine absurd (isTorn_of_isTornAt isTorn fun best earliest => ?_) untorn
            cases known.symm.trans earliest
  | some best =>
      obtain ⟨other, known', early⟩ := exists_earliest?_crlf plain untorn known
      obtain ⟨before, rest, rfl, front, ⟨best', earliest, early'⟩ | isTorn⟩ :=
        exists_of_earliest?_crlf known'
      · cases known.symm.trans earliest
        rw [known', Option.map_some, Option.map_some, Option.some_inj]
        rw [front] at early ⊢
        exact early.eq_of_length_le (Text.crlf_isPrefix early').length_le
      · refine absurd (isTorn_of_isTornAt isTorn fun best' earliest => ?_) untorn
        cases known.symm.trans earliest
        obtain ⟨-, whole, -⟩ := takes_of_earliest? known
        rw [front] at early
        exact Text.isPrefix_of_crlf (List.prefix_append _ _) ⟨_, whole⟩ early

private theorem not_isTorn_of_find? (none : ∀ pattern ∈ torn, pattern.find? text = none) :
    ¬ IsTorn text := by
  rintro ⟨pattern, member, offset, known, -⟩
  obtain ⟨found, first, -⟩ := known.exists_find?
  cases first.symm.trans (none pattern member)

end Earliest

end Marker

namespace Scan

open Marker

section Line

variable {turn : List Char}

private theorem isQuotedLine_append (line : List Char) (blank : Text.allBlank turn = true) :
    isQuotedLine (line ++ turn) = isQuotedLine line := by
  cases known : Text.allBlank line with
  | true =>
      rw [isQuotedLine, isQuotedLine, Text.trimStart_append_of_allBlank known, Text.trimStart,
        Text.trimStart, List.dropWhile_eq_nil_iff.mpr (List.all_eq_true.mp blank),
        List.dropWhile_eq_nil_iff.mpr (List.all_eq_true.mp known)]
  | false =>
      have some : Text.trimStart line ≠ [] := fun none =>
        Bool.eq_false_iff.mp known (List.all_eq_true.mpr (List.dropWhile_eq_nil_iff.mp none))
      rw [isQuotedLine, isQuotedLine, Text.trimStart_append_of_visible known,
        List.head?_append_of_ne_nil _ some]

private theorem inTail_append_turn (line : List Char) (blank : Text.allBlank turn = true) :
    inTail (line ++ turn) = inTail line := by
  rw [inTail, inTail, isQuotedLine_append line blank, Text.allBlank, List.all_append]
  exact congrArg (· || _) ((congrArg (_ && ·) blank).trans (Bool.and_true _))

private theorem any_isQuotedLine_closeLines (lines : List (List Char)) :
    (Text.closeLines lines).any isQuotedLine = lines.any isQuotedLine := by
  induction lines with
  | nil => rfl
  | cons line others ih =>
      obtain ⟨turn, blank, equality⟩ := Text.exists_closeLines_cons line others
      rw [equality, List.any_cons, List.any_cons, ih, isQuotedLine_append line blank]

private theorem forall_inTail_closeLines {lines : List (List Char)}
    (all : ∀ line ∈ lines, inTail line = true) :
    ∀ line ∈ Text.closeLines lines, inTail line = true := by
  intro line member
  obtain ⟨other, known, turn, blank, rfl⟩ := Text.exists_of_mem_closeLines member
  rw [inTail_append_turn other blank]
  exact all other known

end Line

section Tail

variable {text : List Char}

private theorem unlines_append_turn (above : List (List Char)) (line turn : List Char) :
    Text.unlines (above ++ [line ++ turn]) = Text.unlines (above ++ [line]) ++ turn := by
  rw [Text.unlines_append above (List.cons_ne_nil _ _),
    Text.unlines_append above (List.cons_ne_nil _ _), List.append_assoc]
  rfl

/-- Dropping the quoted lines at the end of a text leaves the same with carriage returns, but
for white space at its ends. -/
theorem stripTail_crlf (text : List Char) :
    Text.trim (stripTail (Text.crlf text)).1 = Text.crlf (Text.trim (stripTail text).1) ∧
      (stripTail (Text.crlf text)).2 = (stripTail text).2 := by
  have lines := Text.lines_crlf text
  by_cases last : ∃ index, IsLastKept (Text.lines text) index
  · obtain ⟨index, last⟩ := last
    obtain ⟨line, split, -, kept, tail⟩ := last.exists_split
    generalize (Text.lines text).take index = above at split
    generalize (Text.lines text).drop (index + 1) = below at split tail
    obtain ⟨turn, blank, first⟩ := Text.exists_closeLines_cons line below
    rw [split, Text.closeLines_append above (List.cons_ne_nil line below), first] at lines
    have single : ∀ other ∈ above ++ [line], '\n' ∉ other := by
      intro other member
      have known : other ∈ Text.lines text := by
        rw [split, List.append_cons]
        exact List.mem_append_left _ member
      exact Text.not_mem_of_mem_lines known
    have closed : above.map (· ++ ['\r']) ++ [line] = Text.closeLines (above ++ [line]) :=
      (Text.closeLines_append above (List.cons_ne_nil line [])).symm
    rw [stripTail_of_split split kept tail, stripTail_of_split lines
      ((inTail_append_turn line blank).trans kept) (forall_inTail_closeLines tail)]
    refine ⟨?_, any_isQuotedLine_closeLines below⟩
    rw [unlines_append_turn, closed, Text.unlines_closeLines single,
      Text.trim_append_of_allBlank _ blank, Text.trim_crlf]
  · have all := forall_inTail fun index isLast => last ⟨index, isLast⟩
    have all' : ∀ line ∈ Text.lines (Text.crlf text), inTail line = true := by
      rw [lines]
      exact forall_inTail_closeLines all
    rw [trim_stripTail_of_forall all, trim_stripTail_of_forall all']
    refine ⟨rfl, ?_⟩
    rw [stripTail, stripTail, hasQuotedTail_of_forall all, hasQuotedTail_of_forall all', lines,
      any_isQuotedLine_closeLines]

private theorem cutAtMarker_crlf (plain : '\r' ∉ text) (untorn : ¬ IsTorn text) :
    cutAtMarker (Text.crlf text) = (Text.crlf (cutAtMarker text).1, (cutAtMarker text).2) := by
  have same := before_earliest?_crlf plain untorn
  rw [cutAtMarker, cutAtMarker]
  cases known : earliest? text with
  | none =>
      rw [known] at same
      rw [Option.map_eq_none_iff.mp same]
  | some best =>
      rw [known, Option.map_some, Option.map_eq_some_iff] at same
      obtain ⟨other, earliest, before⟩ := same
      rw [earliest]
      simp only [before]

end Tail

/-- A text without carriage returns in which no header is torn by a line end, and the same
text with a carriage return before each line feed, have the same quotes, and scanning leaves
the same of them. -/
theorem scan_crlf (text : String) (plain : '\r' ∉ text.toList)
    (untorn : ¬ IsTorn text.toList) :
    let closed := String.ofList (Text.crlf text.toList)
    (scan closed).hadQuotes = (scan text).hadQuotes ∧ (scan closed).method = (scan text).method ∧
      (scan closed).content.toList = Text.crlf (scan text).content.toList := by
  intro closed
  have cut : cutAtMarker closed.toList =
      (Text.crlf (cutAtMarker text.toList).1, (cutAtMarker text.toList).2) := by
    rw [String.toList_ofList]
    exact cutAtMarker_crlf plain untorn
  obtain ⟨kept, quoted⟩ := stripTail_crlf (cutAtMarker text.toList).1
  have quotes : (scan closed).hadQuotes = (scan text).hadQuotes := by
    rw [hadQuotes_scan, hadQuotes_scan, cut, quoted]
  refine ⟨quotes, ?_, ?_⟩
  · rw [method_scan, method_scan, quotes]
  · rw [content_scan, content_scan, cut, kept]

theorem scan_crlf_sample :
    let text := "Hi\nA\n> b\nOn Mon\nB wrote:"
    let outcome := scan (String.ofList (Text.crlf text.toList))
    '\r' ∉ text.toList ∧ ¬ IsTorn text.toList ∧ outcome.hadQuotes = true ∧
      outcome.method = some .pattern ∧ outcome.content = "Hi\r\nA" := by
  intro text outcome
  have plain : '\r' ∉ text.toList := by decide
  have untorn : ¬ IsTorn text.toList := not_isTorn_of_find? (by decide)
  obtain ⟨quotes, method, content⟩ := scan_crlf text plain untorn
  have known : scan text = .quoted "Hi\nA" .pattern := by decide
  rw [known] at quotes method content
  exact ⟨plain, untorn, quotes, method, String.toList_inj.mp (content.trans (by decide))⟩

/-- The white space after a lead word takes a line feed, but of a carriage return and a line
feed only the first. -/
theorem not_scan_crlf :
    ¬ ∀ text : String, '\r' ∉ text.toList →
      let closed := String.ofList (Text.crlf text.toList)
      (scan closed).hadQuotes = (scan text).hadQuotes ∧
        (scan closed).method = (scan text).method ∧
        (scan closed).content.toList = Text.crlf (scan text).content.toList := by
  intro same
  have quotes := (same "On\nfoo wrote:" (by decide)).1
  revert quotes
  decide

end Scan

end MailQuote
