import MailQuote.Proofs.Marker

namespace MailQuote

namespace Scan

/-- Whether a line is the last one that is neither blank nor quoted. -/
structure IsLastKept (lines : List (List Char)) (index : Nat) : Prop where
  kept : ∃ line, lines[index]? = some line ∧ Text.allBlank line = false ∧
    isQuotedLine line = false
  tail : ∀ later ∈ lines.drop (index + 1),
    Text.allBlank later = true ∨ isQuotedLine later = true

private theorem inTail_iff {line : List Char} :
    inTail line = true ↔ Text.allBlank line = true ∨ isQuotedLine line = true :=
  Bool.or_eq_true_iff

private theorem not_inTail_iff {line : List Char} :
    inTail line = false ↔ Text.allBlank line = false ∧ isQuotedLine line = false :=
  Bool.or_eq_false_iff

theorem IsLastKept.exists_split {lines : List (List Char)} {index : Nat}
    (last : IsLastKept lines index) :
    ∃ line, lines = lines.take index ++ line :: lines.drop (index + 1) ∧
      lines.take (index + 1) = lines.take index ++ [line] ∧
      inTail line = false ∧ ∀ later ∈ lines.drop (index + 1), inTail later = true := by
  obtain ⟨⟨line, known, kept⟩, tail⟩ := last
  obtain ⟨bound, same⟩ := List.getElem?_eq_some_iff.mp known
  refine ⟨line, ?_, ?_, not_inTail_iff.mpr kept, ?_⟩
  · rw [← same, ← List.drop_eq_getElem_cons bound, List.take_append_drop]
  · rw [List.take_add_one, known]
    rfl
  · intro later member
    exact inTail_iff.mpr (tail later member)

private theorem isLastKept_append {above below : List (List Char)} {line : List Char}
    (kept : inTail line = false) (tail : ∀ later ∈ below, inTail later = true) :
    IsLastKept (above ++ line :: below) above.length := by
  refine ⟨⟨line, by simp, not_inTail_iff.mp kept⟩, fun later member => ?_⟩
  have dropped : (above ++ line :: below).drop (above.length + 1) = below := by
    rw [← List.drop_drop, List.drop_left]
    rfl
  rw [dropped] at member
  exact inTail_iff.mp (tail later member)

theorem forall_inTail {lines : List (List Char)} (none : ∀ index, ¬ IsLastKept lines index) :
    ∀ line ∈ lines, inTail line = true := by
  have split : (∀ line ∈ lines, inTail line = true) ∨ ∃ above line below,
      lines = above ++ line :: below ∧ inTail line = false ∧
        ∀ later ∈ below, inTail later = true := by
    clear none
    induction lines with
    | nil => exact .inl nofun
    | cons first others ih =>
        rcases ih with all | ⟨above, line, below, rfl, kept, tail⟩
        · cases known : inTail first with
          | true => exact .inl (List.forall_mem_cons.mpr ⟨known, all⟩)
          | false => exact .inr ⟨[], first, others, rfl, known, all⟩
        · exact .inr ⟨first :: above, line, below, rfl, kept, tail⟩
  rcases split with all | ⟨above, line, below, rfl, kept, tail⟩
  · exact all
  · exact absurd (isLastKept_append kept tail) (none above.length)

theorem line_mem {text : List Char} {placed : Nat × List Char}
    (member : placed ∈ (Text.placedLines text).reverse) : placed.2 ∈ Text.lines text := by
  have known := List.mem_map_of_mem (f := Prod.snd) (List.mem_reverse.mp member)
  rw [Text.placedLines, Text.map_snd_placeLines] at known
  exact known

section Tail

variable {text : List Char} {above below : List (List Char)} {line : List Char}

private theorem placedLines_of_split (split : Text.lines text = above ++ line :: below) :
    ∃ earlier later, later.map Prod.snd = below ∧
      Text.placedLines text =
        earlier ++ (Text.byteSize (Text.closed above), line) :: later := by
  rw [Text.placedLines, split, Text.placeLines_append, Text.placeLines, Nat.zero_add]
  exact ⟨_, _, Text.map_snd_placeLines _ below, rfl⟩

private theorem lastKept?_of_split (split : Text.lines text = above ++ line :: below)
    (kept : inTail line = false) (tail : ∀ later ∈ below, inTail later = true) :
    lastKept? text = some (Text.byteSize (Text.closed above), line) := by
  obtain ⟨earlier, later, same, placed⟩ := placedLines_of_split split
  have none : later.reverse.find? (fun placed => !inTail placed.2) = none := by
    apply List.find?_eq_none.mpr
    intro placed member
    have known := tail placed.2 (same ▸ List.mem_map_of_mem (List.mem_reverse.mp member))
    simp [known]
  rw [lastKept?, placed, List.reverse_append, List.reverse_cons, List.append_assoc,
    List.find?_append, none, List.singleton_append, List.find?_cons]
  simp [kept]

private theorem hasQuotedTail_of_split (split : Text.lines text = above ++ line :: below)
    (kept : inTail line = false) (rest : ∀ later ∈ below, inTail later = true) :
    hasQuotedTail text = below.any isQuotedLine := by
  obtain ⟨earlier, later, same, placed⟩ := placedLines_of_split split
  have all : ∀ placed ∈ later.reverse, inTail placed.2 = true := by
    intro placed member
    exact rest placed.2 (same ▸ List.mem_map_of_mem (List.mem_reverse.mp member))
  have taken : tail text = later.reverse := by
    rw [tail, placed, List.reverse_append, List.reverse_cons, List.append_assoc,
      List.takeWhile_append_of_pos all, List.singleton_append, List.takeWhile_cons, kept]
    simp
  rw [hasQuotedTail, taken, List.any_reverse, ← same, List.any_map]
  rfl

theorem stripTail_of_split (split : Text.lines text = above ++ line :: below)
    (kept : inTail line = false) (tail : ∀ later ∈ below, inTail later = true) :
    stripTail text = (Text.unlines (above ++ [line]), below.any isQuotedLine) := by
  rw [stripTail, keptBytes, lastKept?_of_split split kept tail,
    hasQuotedTail_of_split split kept tail]
  simp only [Text.takeBytes?_line split, Option.getD_some]

theorem hasQuotedTail_of_forall (all : ∀ line ∈ Text.lines text, inTail line = true) :
    hasQuotedTail text = (Text.lines text).any isQuotedLine := by
  have whole : tail text = (Text.placedLines text).reverse := by
    apply List.takeWhile_eq_self_iff.mpr
    intro placed member
    exact all placed.2 (line_mem member)
  rw [hasQuotedTail, whole, List.any_reverse, Text.placedLines]
  conv => rhs; rw [← Text.map_snd_placeLines 0 (Text.lines text)]
  rw [List.any_map]
  rfl

private theorem allBlank_unlines {lines : List (List Char)}
    (blank : ∀ line ∈ lines, Text.allBlank line = true) :
    Text.allBlank (Text.unlines lines) = true := by
  induction lines with
  | nil => rfl
  | cons line others ih =>
      obtain ⟨first, others'⟩ := List.forall_mem_cons.mp blank
      cases others with
      | nil => exact first
      | cons second others =>
          have rest := ih others'
          rw [Text.allBlank] at first rest ⊢
          rw [Text.unlines_cons (List.cons_ne_nil second others), List.all_append, first,
            List.all_cons, rest]
          rfl

theorem trim_stripTail_of_forall (all : ∀ line ∈ Text.lines text, inTail line = true) :
    Text.trim (stripTail text).1 = [] := by
  have none : lastKept? text = none := by
    apply List.find?_eq_none.mpr
    intro placed member
    simp [all placed.2 (line_mem member)]
  rw [stripTail, keptBytes, none]
  cases quoted : hasQuotedTail text with
  | true =>
      simp only [if_true]
      cases text with
      | nil => rfl
      | cons => rfl
  | false =>
      have whole := Text.takeBytes?_byteSize text []
      rw [List.append_nil] at whole
      simp only [Bool.false_eq_true, if_false, whole, Option.getD_some]
      apply Text.trim_of_allBlank
      rw [← Text.unlines_lines text]
      apply allBlank_unlines
      intro line member
      rw [hasQuotedTail_of_forall all, List.any_eq_false] at quoted
      exact (inTail_iff.mp (all line member)).resolve_right (quoted line member)

end Tail

/-- A quoted line before the last line that is kept stays whole but for the white space
before it. -/
theorem quoted_isInfix {above : List (List Char)} {quoted line : List Char}
    (member : quoted ∈ above) (isQuoted : isQuotedLine quoted = true)
    (kept : inTail line = false) :
    Text.trimStart quoted <:+: Text.trim (Text.unlines (above ++ [line])) := by
  obtain ⟨earlier, later, rfl⟩ := List.append_of_mem member
  obtain ⟨lead, begins⟩ := Text.trimStart_isSuffix quoted
  obtain ⟨inner, opens⟩ : ∃ inner, Text.trimStart quoted = '>' :: inner :=
    List.head?_eq_some_iff.mp (beq_iff_eq.mp isQuoted)
  obtain ⟨c, inLine, visible⟩ : ∃ c ∈ line, ¬ Text.isBlank c = true :=
    List.all_eq_false.mp (not_inTail_iff.mp kept).1
  obtain ⟨first, last, rfl⟩ := List.append_of_mem inLine
  have whole : Text.unlines (earlier ++ quoted :: later ++ [first ++ c :: last]) =
      (Text.closed earlier ++ lead) ++
        ('>' :: (inner ++ '\n' :: (Text.closed later ++ first))) ++ c :: last := by
    rw [List.append_assoc, List.cons_append, Text.unlines_append earlier (List.cons_ne_nil _ _),
      Text.unlines_cons (List.concat_ne_nil _ _),
      Text.unlines_append later (List.cons_ne_nil _ _), Text.unlines, ← begins, opens]
    simp
  have inside := Text.isInfix_trim (rfl : Text.isBlank '>' = false)
    (Bool.eq_false_iff.mpr visible) (Text.closed earlier ++ lead)
    (inner ++ '\n' :: (Text.closed later ++ first)) last
  rw [whole, opens]
  refine List.IsInfix.trans ?_ inside
  exact ⟨[], '\n' :: (Text.closed later ++ first) ++ [c], by simp⟩

theorem stripTail_isPrefix (text : List Char) : (stripTail text).1 <+: text := by
  rw [stripTail]
  cases known : Text.takeBytes? (keptBytes text) text with
  | none => exact List.prefix_refl text
  | some taken => exact Text.takeBytes?_isPrefix known

theorem cutAtMarker_eq {source : List Char} {marker : Marker} {found : Match}
    (earliest : Marker.earliest? source = some (marker, found)) :
    cutAtMarker source = (found.before, true) := by
  rw [cutAtMarker, earliest]

theorem takeBytes?_cutAtMarker {source : List Char} {marker : Marker} {found : Match}
    (earliest : Marker.earliest? source = some (marker, found)) :
    Text.takeBytes? found.start source = some (cutAtMarker source).1 := by
  have cut := Pattern.append_of_find? (Marker.find?_of_earliest? earliest).2
  have bytes := Text.takeBytes?_byteSize found.before (found.matched ++ found.after)
  rw [cut] at bytes
  rw [cutAtMarker_eq earliest]
  exact bytes

private theorem cutAtMarker_isPrefix (source : List Char) : (cutAtMarker source).1 <+: source := by
  unfold cutAtMarker
  split
  · next marker found earliest =>
      exact ⟨_, Pattern.append_of_find? (Marker.find?_of_earliest? earliest).2⟩
  · exact List.prefix_refl _

private theorem cutAtMarker_isSome (source : List Char) :
    (cutAtMarker source).2 = (Marker.earliest? source).isSome := by
  unfold cutAtMarker
  split
  · next earliest => rw [earliest]; rfl
  · next earliest => rw [earliest]; rfl

theorem content_scan (text : String) :
    (scan text).content.toList = Text.trim (stripTail (cutAtMarker text.toList).1).1 := by
  simp only [scan]
  split <;> exact String.toList_ofList

theorem hadQuotes_scan (text : String) :
    (scan text).hadQuotes =
      ((cutAtMarker text.toList).2 || (stripTail (cutAtMarker text.toList).1).2) := by
  simp only [scan]
  split
  · next quoted => exact quoted.symm
  · next unquoted => exact (Bool.eq_false_iff.mpr unquoted).symm

theorem method_scan (text : String) :
    (scan text).method = if (scan text).hadQuotes then some .pattern else none := by
  simp only [scan]
  split <;> rfl

/-- Scanning a text gives what precedes its earliest marker, cut after the last line that
is neither blank nor quoted and trimmed, or nothing if there is no such line. A quoted
line before that line is kept. There are quotes just if there is a marker or a quoted
line after it. -/
theorem scan_exact (text : String) :
    let source := text.toList
    let opening := (cutAtMarker source).1
    let lines := Text.lines opening
    let outcome := scan text
    ((∀ marker found, Marker.earliest? source = some (marker, found) →
        Text.takeBytes? found.start source = some opening) ∧
      (Marker.earliest? source = none → opening = source)) ∧
    (∀ index, IsLastKept lines index →
      outcome.content.toList = Text.trim (Text.unlines (lines.take (index + 1))) ∧
      (outcome.hadQuotes = true ↔ (Marker.earliest? source).isSome = true ∨
        ∃ line ∈ lines.drop (index + 1), isQuotedLine line = true) ∧
      ∀ line ∈ lines.take index, isQuotedLine line = true →
        Text.trimStart line <:+: outcome.content.toList) ∧
    ((∀ index, ¬ IsLastKept lines index) →
      outcome.content = "" ∧
      (outcome.hadQuotes = true ↔ (Marker.earliest? source).isSome = true ∨
        ∃ line ∈ lines, isQuotedLine line = true)) ∧
    (outcome.method = if outcome.hadQuotes then some .pattern else none) ∧
    Text.trim outcome.content.toList = outcome.content.toList ∧
    outcome.content.toList <:+: source := by
  intro source opening lines outcome
  have content : outcome.content.toList = Text.trim (stripTail opening).1 := content_scan text
  have quotes : outcome.hadQuotes =
      ((Marker.earliest? source).isSome || (stripTail opening).2) := by
    rw [← cutAtMarker_isSome source]
    simp only [outcome, scan]
    split
    · next found => exact found.symm
    · next none => exact (Bool.eq_false_iff.mpr none).symm
  refine ⟨⟨?cut, ?uncut⟩, ?kept, ?none, ?method, ?trimmed, ?inside⟩
  case cut => exact fun marker found earliest => takeBytes?_cutAtMarker earliest
  case uncut =>
    intro earliest
    simp only [opening, cutAtMarker, earliest]
  case kept =>
    intro index last
    obtain ⟨line, split, taken, kept, tail⟩ := last.exists_split
    rw [content, quotes, stripTail_of_split split kept tail, taken]
    refine ⟨rfl, ?_, fun quoted member isQuoted => quoted_isInfix member isQuoted kept⟩
    rw [Bool.or_eq_true, List.any_eq_true]
  case none =>
    intro none
    have all := forall_inTail none
    have empty := trim_stripTail_of_forall all
    refine ⟨?_, ?_⟩
    · rw [← String.toList_inj, content, empty]
      rfl
    · rw [quotes, stripTail, hasQuotedTail_of_forall all, Bool.or_eq_true, List.any_eq_true]
  case method =>
    simp only [outcome, scan]
    split <;> rfl
  case trimmed => rw [content, Text.trim_trim]
  case inside =>
    rw [content]
    have kept := (stripTail_isPrefix opening).trans (cutAtMarker_isPrefix source)
    exact (Text.trim_isInfix _).trans kept.isInfix

theorem scan_exact_sample :
    let text := "Top\n> old\nNew \n\n> old"
    IsLastKept (Text.lines (cutAtMarker text.toList).1) 2 ∧
      (scan text).content.toList = "Top\n> old\nNew".toList ∧
      (scan text).hadQuotes = true := by
  intro text
  have uncut : (cutAtMarker text.toList).1 = text.toList := by decide
  have last : IsLastKept (Text.lines (cutAtMarker text.toList).1) 2 := by
    rw [uncut]
    exact ⟨⟨"New ".toList, by decide⟩, by decide⟩
  obtain ⟨content, quotes, -⟩ := (scan_exact text).2.1 2 last
  rw [uncut] at content quotes
  exact ⟨last, content.trans (by decide), quotes.mpr (.inr (by decide))⟩

open Marker

section Tail

variable {line gap rest : List Char} {c : Char} {above : List (List Char)}

private theorem inTail_append (blank : Text.allBlank gap = true) (visible : Text.isBlank c = false)
    (rest : List Char) : inTail (gap ++ c :: rest) = (c == '>') := by
  have some : Text.allBlank (gap ++ c :: rest) = false := by
    rw [Text.allBlank, List.all_append, List.all_cons, visible, Bool.false_and, Bool.and_false]
  have begins : Text.trimStart (gap ++ c :: rest) = c :: rest := by
    rw [Text.trimStart_append_of_allBlank blank, Text.trimStart, List.dropWhile_cons, visible]
    rfl
  rw [inTail, some, isQuotedLine, begins]
  rfl

private theorem inTail_trimEnd (visible : Text.allBlank line = false) :
    inTail (Text.trimEnd line) = inTail line := by
  obtain ⟨gap, c, rest, rfl, blank, first⟩ := Text.exists_visible visible
  obtain ⟨trail, equality⟩ := Text.trimEnd_append first gap rest
  rw [equality, inTail_append blank first, inTail_append blank first]

private theorem inTail_trim (visible : Text.allBlank line = false) :
    inTail (Text.trim line) = inTail line := by
  obtain ⟨gap, c, rest, rfl, blank, first⟩ := Text.exists_visible visible
  obtain ⟨trail, equality⟩ := Text.trimEnd_append first [] rest
  have begins : Text.trim (gap ++ c :: rest) = [] ++ c :: trail := by
    rw [Text.trim, Text.trimStart_append_of_allBlank blank, Text.trimStart, List.dropWhile_cons,
      first]
    exact equality
  rw [begins, inTail_append blank first, inTail_append rfl first]

private theorem exists_feed (visible : Text.allBlank (Text.closed above) = false) :
    ∃ front, Text.trimStart (Text.closed above) = front ++ ['\n'] := by
  rcases List.eq_nil_or_concat above with rfl | ⟨earlier, last, rfl⟩
  · cases visible
  · have whole : Text.closed (earlier.concat last) =
        (Text.closed earlier ++ last) ++ ['\n'] := by
      simp [Text.closed]
    have suffix := Text.trimStart_isSuffix (Text.closed (earlier.concat last))
    rw [whole] at suffix visible ⊢
    rcases List.suffix_concat_iff.mp suffix with none | ⟨front, equality, -⟩
    · exact absurd (List.all_eq_true.mpr (List.dropWhile_eq_nil_iff.mp none))
        (Bool.eq_false_iff.mp visible)
    · exact ⟨front, equality⟩

/-- The last line of a text stays the last one when the text is trimmed, unless it is
blank. -/
theorem exists_last_line (single : '\n' ∉ line) (kept : inTail line = false) :
    ∃ earlier last, Text.lines (Text.trim (Text.closed above ++ line)) = earlier ++ [last] ∧
      inTail last = false := by
  have visible := (not_inTail_iff.mp kept).1
  cases blank : Text.allBlank (Text.closed above) with
  | true =>
      refine ⟨[], Text.trim line, ?_, (inTail_trim visible).trans kept⟩
      rw [Text.trim, Text.trimStart_append_of_allBlank blank]
      exact Text.lines_of_not_mem fun member => single ((Text.trim_isInfix line).subset member)
  | false =>
      obtain ⟨front, feed⟩ := exists_feed blank
      have whole : Text.trim (Text.closed above ++ line) = front ++ '\n' :: Text.trimEnd line := by
        rw [Text.trim, Text.trimStart_append_of_visible blank, feed,
          Text.trimEnd_append_of_visible visible, List.append_assoc]
        rfl
      refine ⟨Text.lines front, Text.trimEnd line, ?_, (inTail_trimEnd visible).trans kept⟩
      rw [whole]
      exact Text.lines_append_line front fun member =>
        single ((Text.trimEnd_isPrefix line).subset member)

end Tail

/-- There is no quoted line at the end of what a scan leaves. -/
theorem stripTail_content_scan (text : String) :
    stripTail (scan text).content.toList = ((scan text).content.toList, false) := by
  rw [content_scan]
  by_cases last : ∃ index, IsLastKept (Text.lines (cutAtMarker text.toList).1) index
  · obtain ⟨index, last⟩ := last
    obtain ⟨line, split, -, kept, tail⟩ := last.exists_split
    have single : '\n' ∉ line := by
      apply Text.not_mem_of_mem_lines
      rw [split]
      exact List.mem_append_right _ (.head _)
    rw [stripTail_of_split split kept tail, Text.unlines_append _ (List.cons_ne_nil line [])]
    obtain ⟨earlier, last, lines, kept'⟩ := exists_last_line single kept
    refine (stripTail_of_split lines kept' nofun).trans ?_
    rw [← lines, Text.unlines_lines]
    rfl
  · have all := forall_inTail fun index isLast => last ⟨index, isLast⟩
    rw [trim_stripTail_of_forall all]
    rfl

section Cut

variable {text : String}

/-- What a scan leaves, and the white space before it, precede the earliest marker. -/
theorem lead_content_isPrefix (some : (scan text).content.toList ≠ []) :
    text.toList.takeWhile Text.isBlank ++ (scan text).content.toList <+:
      (cutAtMarker text.toList).1 := by
  rw [content_scan] at some ⊢
  have isPrefix := stripTail_isPrefix (cutAtMarker text.toList).1
  have visible : Text.allBlank (stripTail (cutAtMarker text.toList).1).1 = false :=
    Bool.eq_false_iff.mpr fun blank => some (Text.trim_of_allBlank blank)
  obtain ⟨dropped, source⟩ := isPrefix.trans (cutAtMarker_isPrefix text.toList)
  obtain ⟨trail, whole⟩ := Text.exists_trail (stripTail (cutAtMarker text.toList).1).1
  have lead := Text.takeWhile_append_of_visible visible dropped
  rw [source] at lead
  rw [lead]
  exact List.IsPrefix.trans ⟨trail, (List.append_assoc _ _ _).trans whole⟩ isPrefix

private theorem lead_content_isPrefix_source (text : String) :
    text.toList.takeWhile Text.isBlank ++ (scan text).content.toList <+: text.toList := by
  by_cases none : (scan text).content.toList = []
  · rw [none, List.append_nil]
    exact List.takeWhile_prefix _
  · exact (lead_content_isPrefix none).trans (cutAtMarker_isPrefix _)

/-- A marker in what a scan leaves is exposed, as what is left precedes all markers. -/
theorem isExposed_of_occursIn {lead after : List Char} {marker : Marker} {found : Match}
    (isLead : text.toList.takeWhile Text.isBlank = lead)
    (whole : lead ++ ((scan text).content.toList ++ after) = text.toList)
    (member : marker ∈ Marker.all)
    (occurs : marker.pattern.OccursIn (scan text).content.toList found) :
    IsExposed lead after marker found := by
  obtain ⟨c, inside, -⟩ := occurs.exists_beyond (takesBeyond_of_mem_all marker member)
  have more := List.ne_nil_of_mem inside
  have visible : Text.EndsVisibly (scan text).content.toList := by
    rw [content_scan]
    exact Text.endsVisibly_trim _
  refine (exists_earliest?_or_isExposed lead after member occurs visible).resolve_left ?_
  intro ⟨best, earliest, earlier⟩
  rw [whole] at earliest
  have some : (scan text).content.toList ≠ [] := by
    rw [← occurs.whole]
    exact List.append_ne_nil_of_right_ne_nil _ more
  have early := lead_content_isPrefix some
  rw [isLead, cutAtMarker_eq earliest] at early
  have short := (early.trans earlier).length_le
  have long := List.length_pos_iff.mpr more
  rw [← occurs.whole] at short
  simp only [List.length_append] at short long
  omega

end Cut

private theorem scan_eq_unchanged {text : String} (uncut : Marker.earliest? text.toList = none)
    (unquoted : stripTail text.toList = (text.toList, false))
    (trimmed : Text.trim text.toList = text.toList) : scan text = .unchanged text := by
  rw [scan, cutAtMarker, uncut]
  simp only [unquoted, trimmed, String.ofList_toList]
  rfl

/-- Scanning what a scan has left finds no quoted lines at its end and no forward, and
finds a reply only at an edge that the first scan has exposed: at the beginning, where the
white space that was taken away does not end with the beginning of a line, or an attribution
at the end, where no line ended. If neither is so, scanning again changes nothing. -/
theorem scan_scan (text : String) :
    let content := (scan text).content.toList
    let lead := text.toList.takeWhile Text.isBlank
    let after := text.toList.drop (lead ++ content).length
    lead ++ (content ++ after) = text.toList ∧
    stripTail content = (content, false) ∧
    Marker.isForward content = false ∧
    (∀ marker ∈ Marker.all, ∀ found, marker.pattern.OccursIn content found →
      IsExposed lead after marker found) ∧
    (opensLine lead = true → closesLine after = true →
      scan (scan text).content = .unchanged (scan text).content) := by
  intro content lead after
  have whole : lead ++ (content ++ after) = text.toList := by
    rw [← List.append_assoc]
    exact List.prefix_iff_eq_append.mp (lead_content_isPrefix_source text)
  have exposed {marker : Marker} (member : marker ∈ Marker.all) {found : Match}
      (occurs : marker.pattern.OccursIn content found) : IsExposed lead after marker found :=
    isExposed_of_occursIn rfl whole member occurs
  refine ⟨whole, stripTail_content_scan text, ?forward, fun _ member _ => exposed member, ?same⟩
  case forward =>
    apply List.any_eq_false.mpr
    intro marker member some
    obtain ⟨found, first⟩ := Option.isSome_iff_exists.mp some
    have reply := (exposed (List.mem_append_right _ member) (Pattern.occursIn_of_find? first)).reply
    obtain ⟨entry, -, rfl⟩ := List.mem_map.mp member
    cases reply
  case same =>
    intro opens closes
    apply scan_eq_unchanged ?_ (stripTail_content_scan text)
    · rw [content_scan, Text.trim_trim]
    · cases earliest : Marker.earliest? (scan text).content.toList with
      | none => rfl
      | some best =>
          obtain ⟨member, first⟩ := find?_of_earliest? earliest
          rcases (exposed member (Pattern.occursIn_of_find? first)).edge with
            ⟨-, front⟩ | ⟨-, back, -⟩
          · rw [opens] at front
            cases front
          · rw [closes] at back
            cases back

theorem scan_scan_sample :
    let text := "\tHi\nOn a wrote:"
    opensLine (text.toList.takeWhile Text.isBlank) = true ∧
      closesLine "\nOn a wrote:".toList = true ∧ (scan text).content = "Hi" ∧
      scan "Hi" = .unchanged "Hi" := by
  intro text
  have content : (scan text).content = "Hi" := by decide
  have opens : opensLine (text.toList.takeWhile Text.isBlank) = true := by decide
  have closes : closesLine "\nOn a wrote:".toList = true := by decide
  have after : text.toList.drop (text.toList.takeWhile Text.isBlank ++
      (scan text).content.toList).length = "\nOn a wrote:".toList := by
    rw [content]
    decide
  have again := (scan_scan text).2.2.2.2 opens (by rwa [after])
  rw [content] at again
  exact ⟨opens, closes, content, again⟩

/-- White space that is neither a space nor a tab hides a reply after or before it. -/
theorem not_scan_scan :
    (scan (scan "\u00a0On a wrote:").content).hadQuotes = true ∧
      (scan (scan "On a\nb wrote:\u00a0").content).hadQuotes = true := by
  decide

end Scan

end MailQuote
