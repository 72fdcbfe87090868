import Mathlib.Data.List.DropRight
import MailQuote.Text

namespace MailQuote.Text

private theorem trimStart_append {first : Char} (visible : isBlank first = false)
    (before rest : List Char) :
    ∃ lead, trimStart (before ++ first :: rest) = lead ++ first :: rest := by
  induction before with
  | nil =>
      refine ⟨[], ?_⟩
      rw [List.nil_append, trimStart, List.dropWhile_cons, visible]
      rfl
  | cons c before ih =>
      cases blank : isBlank c with
      | true =>
          rw [List.cons_append, trimStart, List.dropWhile_cons, if_pos blank]
          exact ih
      | false =>
          refine ⟨c :: before, ?_⟩
          rw [List.cons_append, trimStart, List.dropWhile_cons, blank]
          rfl

theorem trimEnd_append {last : Char} (visible : isBlank last = false)
    (before rest : List Char) :
    ∃ trail, trimEnd (before ++ last :: rest) = before ++ last :: trail := by
  obtain ⟨lead, equality⟩ := trimStart_append visible rest.reverse before.reverse
  refine ⟨lead.reverse, ?_⟩
  rw [trimStart] at equality
  rw [trimEnd, List.reverse_append, List.reverse_cons, List.append_assoc,
    List.singleton_append, equality]
  simp

theorem trimStart_isSuffix (text : List Char) : trimStart text <:+ text :=
  List.dropWhile_suffix isBlank

theorem trimEnd_isPrefix (text : List Char) : trimEnd text <+: text :=
  List.rdropWhile_prefix isBlank text

theorem trim_isInfix (text : List Char) : trim text <:+: text :=
  (trimEnd_isPrefix _).isInfix.trans (trimStart_isSuffix text).isInfix

/-- A text without the white space before it is empty or begins with what is none. -/
theorem trimStart_cases (text : List Char) :
    trimStart text = [] ∨
      ∃ first rest, trimStart text = first :: rest ∧ isBlank first = false := by
  induction text with
  | nil => exact .inl rfl
  | cons c rest ih =>
      rw [trimStart, List.dropWhile_cons]
      split
      · exact ih
      · next visible => exact .inr ⟨c, rest, rfl, Bool.eq_false_iff.mpr visible⟩

theorem trim_trim (text : List Char) : trim (trim text) = trim text := by
  have again : trimEnd (trim text) = trim text := List.rdropWhile_idempotent isBlank _
  rcases trimStart_cases text with none | ⟨first, rest, equality, visible⟩
  · have empty : trim text = [] := by
      rw [trim, none]
      rfl
    rw [empty]
    rfl
  · obtain ⟨trail, equality'⟩ := trimEnd_append visible [] rest
    have begins : trim text = first :: trail := by
      rw [trim, equality]
      exact equality'
    have kept : trimStart (trim text) = trim text := by
      rw [begins, trimStart, List.dropWhile_cons, visible]
      rfl
    exact (congrArg trimEnd kept).trans again

theorem trim_of_allBlank {text : List Char} (blank : allBlank text = true) :
    trim text = [] := by
  have none : trimStart text = [] :=
    List.dropWhile_eq_nil_iff.mpr (List.all_eq_true.mp blank)
  rw [trim, none]
  rfl

/-- What begins and ends with no white space stays whole. -/
theorem isInfix_trim {first last : Char} (visible : isBlank first = false)
    (visible' : isBlank last = false) (before inner after : List Char) :
    (first :: inner) ++ [last] <:+: trim (before ++ (first :: inner) ++ last :: after) := by
  obtain ⟨lead, equality⟩ := trimStart_append visible before (inner ++ last :: after)
  obtain ⟨trail, equality'⟩ := trimEnd_append visible' (lead ++ first :: inner) after
  have whole : trim (before ++ (first :: inner) ++ last :: after) =
      lead ++ ((first :: inner) ++ [last]) ++ trail := by
    rw [List.append_assoc, List.cons_append, trim, equality]
    simpa using equality'
  rw [whole]
  exact ⟨lead, trail, rfl⟩

/-- Whether a text is empty or ends with what is no white space. -/
def EndsVisibly (text : List Char) : Prop :=
  ∀ c ∈ text.getLast?, Text.isBlank c = false

theorem EndsVisibly.of_isSuffix {part whole : List Char} (visible : EndsVisibly whole)
    (suffix : part <:+ whole) : EndsVisibly part := by
  obtain ⟨before, rfl⟩ := suffix
  intro c known
  apply visible
  rw [List.getLast?_append, Option.mem_def.mp known]
  rfl

private theorem endsVisibly_trimEnd (text : List Char) : EndsVisibly (trimEnd text) := by
  intro c known
  obtain ⟨some, rfl⟩ := List.mem_getLast?_eq_getLast known
  exact Bool.eq_false_iff.mpr (List.rdropWhile_last_not isBlank _ some)

theorem endsVisibly_trim (text : List Char) : EndsVisibly (trim text) :=
  endsVisibly_trimEnd (trimStart text)

theorem trimStart_append_of_allBlank {before : List Char} (blank : allBlank before = true)
    (rest : List Char) : trimStart (before ++ rest) = trimStart rest :=
  List.dropWhile_append_of_pos (List.all_eq_true.mp blank)

theorem trimStart_append_of_visible {before : List Char} (visible : allBlank before = false)
    (rest : List Char) : trimStart (before ++ rest) = trimStart before ++ rest := by
  have some : ¬ (before.dropWhile isBlank).isEmpty = true := by
    rw [List.isEmpty_iff, List.dropWhile_eq_nil_iff, ← List.all_eq_true]
    exact Bool.eq_false_iff.mp visible
  rw [trimStart, List.dropWhile_append, if_neg some]
  rfl

theorem trimEnd_append_of_allBlank (text : List Char) {after : List Char}
    (blank : allBlank after = true) : trimEnd (text ++ after) = trimEnd text := by
  rw [trimEnd, List.reverse_append,
    List.dropWhile_append_of_pos (List.all_eq_true.mp (List.all_reverse.trans blank))]
  rfl

theorem trimEnd_concat_of_visible (before : List Char) {last : Char}
    (visible : isBlank last = false) : trimEnd (before ++ [last]) = before ++ [last] :=
  List.rdropWhile_concat_neg isBlank before last (Bool.eq_false_iff.mp visible)

theorem takeWhile_append_of_visible {before : List Char} (visible : allBlank before = false)
    (rest : List Char) : (before ++ rest).takeWhile isBlank = before.takeWhile isBlank := by
  have more : (before.takeWhile isBlank).length ≠ before.length := fun same => by
    have all := (List.takeWhile_prefix isBlank).eq_of_length same
    exact Bool.eq_false_iff.mp visible (all ▸ List.all_takeWhile)
  rw [List.takeWhile_append, if_neg more]

theorem exists_trail (text : List Char) :
    ∃ trail, text.takeWhile isBlank ++ (trim text ++ trail) = text := by
  obtain ⟨trail, whole⟩ := trimEnd_isPrefix (trimStart text)
  refine ⟨trail, ?_⟩
  rw [trim, whole]
  exact List.takeWhile_append_dropWhile

theorem exists_visible {text : List Char} (visible : allBlank text = false) :
    ∃ gap c rest, text = gap ++ c :: rest ∧ allBlank gap = true ∧ isBlank c = false := by
  refine ⟨text.takeWhile isBlank, ?_⟩
  rcases trimStart_cases text with none | ⟨c, rest, equality, first⟩
  · have all := List.all_eq_true.mpr (List.dropWhile_eq_nil_iff.mp none)
    exact absurd all (Bool.eq_false_iff.mp visible)
  · refine ⟨c, rest, ?_, List.all_takeWhile, first⟩
    rw [← equality]
    exact List.takeWhile_append_dropWhile.symm

/-- The characters of white space. -/
def blanks : List Char :=
  ([0x09, 0x0A, 0x0B, 0x0C, 0x0D, 0x20, 0x85, 0xA0, 0x1680, 0x2000, 0x2001, 0x2002, 0x2003,
    0x2004, 0x2005, 0x2006, 0x2007, 0x2008, 0x2009, 0x200A, 0x2028, 0x2029, 0x202F, 0x205F,
    0x3000] : List Nat).map Char.ofNat

theorem mem_blanks {c : Char} (blank : isBlank c = true) : c ∈ blanks := by
  rw [← Char.ofNat_toNat c]
  refine List.mem_map_of_mem ?_
  simp only [isBlank, Bool.or_eq_true, Bool.and_eq_true, decide_eq_true_eq,
    beq_iff_eq] at blank
  simp only [List.mem_cons, List.not_mem_nil, or_false]
  omega

theorem trimEnd_append_of_visible {text : List Char} (visible : allBlank text = false)
    (before : List Char) : trimEnd (before ++ text) = before ++ trimEnd text := by
  have reversed := trimStart_append_of_visible (List.all_reverse.trans visible) before.reverse
  rw [trimStart] at reversed
  rw [trimEnd, List.reverse_append, reversed, List.reverse_append, List.reverse_reverse]
  rfl

/-- White space after a text that ends visibly is that after what follows it. -/
theorem trimEnd_append_of_endsVisibly {before : List Char} (visible : EndsVisibly before)
    (text : List Char) : trimEnd (before ++ text) = before ++ trimEnd text := by
  cases blank : allBlank text with
  | false => exact trimEnd_append_of_visible blank before
  | true =>
      have none : trimEnd text = [] := by
        rw [← List.nil_append text, trimEnd_append_of_allBlank [] blank]
        rfl
      rw [trimEnd_append_of_allBlank before blank, none, List.append_nil]
      rcases List.eq_nil_or_concat' before with rfl | ⟨others, last, rfl⟩
      · rfl
      · exact trimEnd_concat_of_visible others (visible last (by simp))

theorem byteSize_append (first second : List Char) :
    byteSize (first ++ second) = byteSize first + byteSize second := by
  induction first with
  | nil => exact (Nat.zero_add _).symm
  | cons c rest ih => rw [List.cons_append, byteSize, byteSize, ih, Nat.add_assoc]

theorem eq_nil_of_byteSize {text : List Char} (none : byteSize text = 0) : text = [] := by
  cases text with
  | nil => rfl
  | cons c rest => exact absurd none (Nat.ne_of_gt (Nat.add_pos_left c.utf8Size_pos _))

/-- Of two beginnings of a text the one with fewer bytes is a beginning of the other. -/
theorem isPrefix_of_byteSize_le {first second text : List Char} (isPrefix : first <+: text)
    (isPrefix' : second <+: text) (le : byteSize first ≤ byteSize second) :
    first <+: second := by
  rcases List.prefix_or_prefix_of_prefix isPrefix isPrefix' with shorter | ⟨more, rfl⟩
  · exact shorter
  · rw [byteSize_append] at le
    have none : more = [] := eq_nil_of_byteSize (by omega)
    simp only [none, List.append_nil, List.prefix_refl]

theorem takeBytes?_byteSize (before after : List Char) :
    takeBytes? (byteSize before) (before ++ after) = some before := by
  induction before with
  | nil => simp [byteSize, takeBytes?]
  | cons c rest ih =>
      have positive := c.utf8Size_pos
      obtain ⟨size, equality⟩ : ∃ size, byteSize (c :: rest) = size + 1 :=
        Nat.exists_eq_add_one.mpr (Nat.add_pos_left positive _)
      have left : size + 1 - c.utf8Size = byteSize rest := by
        rw [← equality, byteSize, Nat.add_sub_cancel_left]
      have fits : c.utf8Size ≤ size + 1 := by
        rw [← equality, byteSize]
        exact Nat.le_add_right _ _
      rw [equality, List.cons_append, takeBytes?, if_pos fits, left, ih]
      rfl

theorem takeBytes?_isPrefix {size : Nat} {text taken : List Char}
    (known : takeBytes? size text = some taken) : taken <+: text := by
  induction text generalizing size taken with
  | nil =>
      cases size with
      | zero =>
          cases known
          exact List.nil_prefix
      | succ => cases known
  | cons c rest ih =>
      cases size with
      | zero =>
          cases known
          exact List.nil_prefix
      | succ size =>
          rw [takeBytes?] at known
          split at known
          · obtain ⟨others, known', rfl⟩ := Option.map_eq_some_iff.mp known
            exact List.cons_prefix_cons.mpr ⟨rfl, ih known'⟩
          · cases known

private theorem lines_ne_nil (text : List Char) : lines text ≠ [] := by
  cases text with
  | nil => nofun
  | cons c rest =>
      rw [lines]
      split
      · nofun
      · split
        · nofun
        · nofun

theorem unlines_cons {line : List Char} {others : List (List Char)} (some : others ≠ []) :
    unlines (line :: others) = line ++ '\n' :: unlines others := by
  cases others with
  | nil => exact absurd rfl some
  | cons => rfl

theorem unlines_lines (text : List Char) : unlines (lines text) = text := by
  induction text with
  | nil => rfl
  | cons c rest ih =>
      rw [lines]
      split
      · next feed => rw [unlines_cons (lines_ne_nil rest), ih, feed, List.nil_append]
      · cases known : lines rest with
        | nil => exact absurd known (lines_ne_nil rest)
        | cons line others =>
            rw [known] at ih
            rw [← ih]
            cases others with
            | nil => rfl
            | cons => rfl

theorem lines_of_not_mem {line : List Char} (single : '\n' ∉ line) : lines line = [line] := by
  induction line with
  | nil => rfl
  | cons c rest ih =>
      obtain ⟨different, others⟩ := not_or.mp (mt List.mem_cons.mpr single)
      rw [lines, if_neg (Ne.symm different), ih others]

theorem lines_append_line (before : List Char) {line : List Char} (single : '\n' ∉ line) :
    lines (before ++ '\n' :: line) = lines before ++ [line] := by
  induction before with
  | nil => exact (if_pos rfl).trans (congrArg ([] :: ·) (lines_of_not_mem single))
  | cons c rest ih =>
      rw [List.cons_append, lines, lines, ih]
      split
      · rfl
      · cases known : lines rest with
        | nil => exact absurd known (lines_ne_nil rest)
        | cons => rfl

theorem not_mem_of_mem_lines {text line : List Char} (member : line ∈ lines text) :
    '\n' ∉ line := by
  induction text generalizing line with
  | nil =>
      rw [List.mem_singleton.mp member]
      nofun
  | cons c rest ih =>
      rw [lines] at member
      split at member
      · rcases List.mem_cons.mp member with rfl | later
        · nofun
        · exact ih later
      · next different =>
          cases known : lines rest with
          | nil => exact absurd known (lines_ne_nil rest)
          | cons first others =>
              rw [known] at member ih
              rcases List.mem_cons.mp member with rfl | later
              · exact not_or.mpr ⟨Ne.symm different, ih (.head _)⟩ ∘ List.mem_cons.mp
              · exact ih (.tail _ later)

/-- Lines with the line feed after each. -/
def closed (above : List (List Char)) : List Char :=
  above.flatMap fun line => line ++ ['\n']

theorem unlines_append (above : List (List Char)) {others : List (List Char)}
    (some : others ≠ []) : unlines (above ++ others) = closed above ++ unlines others := by
  induction above with
  | nil => rfl
  | cons line above ih =>
      rw [List.cons_append, unlines_cons (List.append_ne_nil_of_right_ne_nil above some), ih]
      simp [closed]

private theorem unlines_isPrefix (above : List (List Char)) (line : List Char)
    (below : List (List Char)) :
    unlines (above ++ [line]) <+: unlines (above ++ line :: below) := by
  rw [unlines_append above (List.cons_ne_nil line []),
    unlines_append above (List.cons_ne_nil line below)]
  apply (List.prefix_append_right_inj _).mpr
  cases below with
  | nil => exact List.prefix_refl _
  | cons => exact List.prefix_append _ _

theorem placeLines_append (start : Nat) (above others : List (List Char)) :
    placeLines start (above ++ others) =
      placeLines start above ++ placeLines (start + byteSize (closed above)) others := by
  induction above generalizing start with
  | nil => rfl
  | cons line above ih =>
      have bytes : byteSize (closed (line :: above)) =
          byteSize line + 1 + byteSize (closed above) := by
        rw [closed, List.flatMap_cons, byteSize_append, byteSize_append]
        rfl
      rw [List.cons_append, placeLines, ih, placeLines, bytes, List.cons_append,
        ← Nat.add_assoc, ← Nat.add_assoc]

theorem map_snd_placeLines (start : Nat) (lines : List (List Char)) :
    (placeLines start lines).map Prod.snd = lines := by
  induction lines generalizing start with
  | nil => rfl
  | cons line others ih => rw [placeLines, List.map_cons, ih]

/-- Cutting a text where a line ends leaves the lines up to that one. -/
theorem takeBytes?_line {text : List Char} {above below : List (List Char)}
    {line : List Char} (split : lines text = above ++ line :: below) :
    takeBytes? (byteSize (closed above) + byteSize line) text =
      some (unlines (above ++ [line])) := by
  have whole := unlines_lines text
  rw [split] at whole
  obtain ⟨rest, equality⟩ := unlines_isPrefix above line below
  have bytes : byteSize (unlines (above ++ [line])) =
      byteSize (closed above) + byteSize line := by
    rw [unlines_append above (List.cons_ne_nil line []), byteSize_append]
    rfl
  rw [← whole, ← equality, ← bytes, takeBytes?_byteSize]

/-- A text with a carriage return before each line feed. -/
def crlf (text : List Char) : List Char :=
  text.flatMap fun c => if c = '\n' then ['\r', '\n'] else [c]

variable {text : List Char}

theorem crlf_feed (rest : List Char) : crlf ('\n' :: rest) = '\r' :: '\n' :: crlf rest := rfl

theorem crlf_cons {c : Char} (other : c ≠ '\n') (rest : List Char) :
    crlf (c :: rest) = c :: crlf rest := by
  rw [crlf, List.flatMap_cons, if_neg other]
  rfl

theorem crlf_append (before after : List Char) :
    crlf (before ++ after) = crlf before ++ crlf after :=
  List.flatMap_append

theorem crlf_of_not_mem (single : '\n' ∉ text) : crlf text = text := by
  induction text with
  | nil => rfl
  | cons c rest ih =>
      obtain ⟨other, others⟩ := not_or.mp (mt List.mem_cons.mpr single)
      rw [crlf_cons (Ne.symm other), ih others]

theorem crlf_isPrefix {before after : List Char} (isPrefix : before <+: after) :
    crlf before <+: crlf after := by
  obtain ⟨rest, rfl⟩ := isPrefix
  rw [crlf_append]
  exact List.prefix_append _ _

private theorem crlf_ne_nil (some : text ≠ []) : crlf text ≠ [] := by
  obtain ⟨c, rest, rfl⟩ := List.exists_cons_of_ne_nil some
  by_cases feed : c = '\n'
  · rw [feed]
    exact List.cons_ne_nil _ _
  · rw [crlf_cons feed]
    exact List.cons_ne_nil _ _

/-- Of two beginnings of a text, the one that is the shorter with carriage returns is the
shorter without them. -/
theorem isPrefix_of_crlf {first second : List Char} (isPrefix : first <+: text)
    (isPrefix' : second <+: text) (shorter : crlf first <+: crlf second) : first <+: second := by
  rcases List.prefix_or_prefix_of_prefix isPrefix isPrefix' with known | ⟨more, rfl⟩
  · exact known
  · rw [crlf_append] at shorter
    have none : crlf more = [] := by
      have length := shorter.length_le
      rw [List.length_append] at length
      exact List.eq_nil_of_length_eq_zero (by omega)
    have empty : more = [] := Decidable.byContradiction fun some => crlf_ne_nil some none
    simp only [empty, List.append_nil, List.prefix_refl]

theorem mem_crlf {c : Char} (member : c ∈ crlf text) :
    c ∈ text ∨ c = '\r' ∧ '\n' ∈ text := by
  obtain ⟨d, known, inside⟩ := List.mem_flatMap.mp member
  split at inside
  · next feed =>
      obtain rfl := feed
      rcases List.mem_cons.mp inside with rfl | inside
      · exact .inr ⟨rfl, known⟩
      · exact .inl (List.mem_singleton.mp inside ▸ known)
  · exact .inl (List.mem_singleton.mp inside ▸ known)

theorem getLast?_crlf (text : List Char) : (crlf text).getLast? = text.getLast? := by
  rcases List.eq_nil_or_concat text with rfl | ⟨front, last, rfl⟩
  · rfl
  · rw [List.concat_eq_append, crlf_append, List.getLast?_append, List.getLast?_concat]
    by_cases feed : last = '\n'
    · rw [feed]
      rfl
    · rw [crlf_cons feed]
      rfl

/-- Where a text with such line ends can be cut: where it is cut without them, or between
the two characters of one. -/
theorem exists_split_of_crlf {front back : List Char} (whole : front ++ back = crlf text) :
    (∃ before after, before ++ after = text ∧ front = crlf before ∧ back = crlf after) ∨
      ∃ before after, before ++ '\n' :: after = text ∧ front = crlf before ++ ['\r'] ∧
        back = '\n' :: crlf after := by
  induction text generalizing front with
  | nil =>
      obtain ⟨rfl, rfl⟩ := List.append_eq_nil_iff.mp whole
      exact .inl ⟨[], [], rfl, rfl, rfl⟩
  | cons c rest ih =>
      cases front with
      | nil => exact .inl ⟨[], c :: rest, rfl, rfl, whole⟩
      | cons d front =>
          by_cases feed : c = '\n'
          · rw [feed, crlf_feed, List.cons_append, List.cons.injEq] at whole
            obtain ⟨rfl, whole⟩ := whole
            cases front with
            | nil => exact .inr ⟨[], rest, by rw [feed]; rfl, rfl, whole⟩
            | cons e front =>
                rw [List.cons_append, List.cons.injEq] at whole
                obtain ⟨rfl, whole⟩ := whole
                rcases ih whole with ⟨before, after, rfl, rfl, rfl⟩ | ⟨before, after, rfl, rfl, rfl⟩
                · exact .inl ⟨'\n' :: before, after, by rw [feed]; rfl, rfl, rfl⟩
                · exact .inr ⟨'\n' :: before, after, by rw [feed]; rfl, rfl, rfl⟩
          · rw [crlf_cons feed, List.cons_append, List.cons.injEq] at whole
            obtain ⟨rfl, whole⟩ := whole
            rcases ih whole with ⟨before, after, rfl, rfl, rfl⟩ | ⟨before, after, rfl, rfl, rfl⟩
            · exact .inl ⟨d :: before, after, rfl, (crlf_cons feed before).symm, rfl⟩
            · refine .inr ⟨d :: before, after, rfl, ?_, rfl⟩
              rw [crlf_cons feed, List.cons_append]

section Trim

private theorem allBlank_crlf (blank : allBlank text = true) : allBlank (crlf text) = true := by
  apply List.all_eq_true.mpr
  intro c member
  rcases mem_crlf member with known | ⟨rfl, -⟩
  · exact List.all_eq_true.mp blank c known
  · rfl

private theorem trimStart_crlf (text : List Char) :
    trimStart (crlf text) = crlf (trimStart text) := by
  induction text with
  | nil => rfl
  | cons c rest ih =>
      by_cases feed : c = '\n'
      · rw [feed, crlf_feed]
        exact ih
      · rw [crlf_cons feed, trimStart, trimStart, List.dropWhile_cons, List.dropWhile_cons]
        split
        · exact ih
        · rw [crlf_cons feed]

private theorem trimEnd_of_endsVisibly (visible : EndsVisibly text) : trimEnd text = text :=
  List.rdropWhile_eq_self_iff.mpr fun some =>
    Bool.eq_false_iff.mp (visible _ (List.getLast?_eq_some_getLast some))

private theorem exists_trimEnd (text : List Char) :
    ∃ trail, trimEnd text ++ trail = text ∧ allBlank trail = true :=
  ⟨text.rtakeWhile isBlank, List.rdropWhile_append_rtakeWhile,
    List.all_eq_true.mpr fun _ member => List.mem_rtakeWhile_imp member⟩

private theorem trimEnd_crlf (text : List Char) : trimEnd (crlf text) = crlf (trimEnd text) := by
  obtain ⟨trail, whole, blank⟩ := exists_trimEnd text
  have visible : EndsVisibly (crlf (trimEnd text)) := by
    rw [EndsVisibly, getLast?_crlf]
    exact endsVisibly_trimEnd text
  conv => lhs; rw [← whole, crlf_append]
  rw [trimEnd_append_of_allBlank _ (allBlank_crlf blank), trimEnd_of_endsVisibly visible]

theorem trim_crlf (text : List Char) : trim (crlf text) = crlf (trim text) := by
  rw [trim, trimStart_crlf, trimEnd_crlf]
  rfl

theorem trim_append_of_allBlank (text : List Char) {after : List Char}
    (blank : allBlank after = true) : trim (text ++ after) = trim text := by
  cases none : allBlank text with
  | true =>
      have all : allBlank (text ++ after) = true := by
        rw [allBlank, List.all_append]
        exact Bool.and_eq_true_iff.mpr ⟨none, blank⟩
      rw [trim_of_allBlank none, trim_of_allBlank all]
  | false =>
      rw [trim, trimStart_append_of_visible none, trimEnd_append_of_allBlank _ blank]
      rfl

end Trim

section Lines

/-- The lines of a text whose line feeds get carriage returns: all but the last one end with
one. -/
def closeLines : List (List Char) → List (List Char)
  | [] => []
  | [line] => [line]
  | line :: others => (line ++ ['\r']) :: closeLines others

private theorem closeLines_cons {line : List Char} {others : List (List Char)}
    (some : others ≠ []) :
    closeLines (line :: others) = (line ++ ['\r']) :: closeLines others := by
  cases others with
  | nil => exact absurd rfl some
  | cons => rfl

theorem lines_crlf (text : List Char) : lines (crlf text) = closeLines (lines text) := by
  induction text with
  | nil => rfl
  | cons c rest ih =>
      by_cases feed : c = '\n'
      · rw [feed, crlf_feed]
        rw [lines, if_neg (by decide), lines, if_pos rfl, ih, lines, if_pos rfl,
          closeLines_cons (lines_ne_nil rest)]
        rfl
      · rw [crlf_cons feed, lines, if_neg feed, lines, if_neg feed, ih]
        cases known : lines rest with
        | nil => exact absurd known (lines_ne_nil rest)
        | cons line others => cases others <;> rfl

theorem closeLines_append (above : List (List Char)) {others : List (List Char)}
    (some : others ≠ []) :
    closeLines (above ++ others) = above.map (· ++ ['\r']) ++ closeLines others := by
  induction above with
  | nil => rfl
  | cons line above ih =>
      rw [List.cons_append, closeLines_cons (List.append_ne_nil_of_right_ne_nil above some), ih]
      rfl

/-- The first line keeps what it has, and gets at most a carriage return. -/
theorem exists_closeLines_cons (line : List Char) (others : List (List Char)) :
    ∃ turn, allBlank turn = true ∧
      closeLines (line :: others) = (line ++ turn) :: closeLines others := by
  cases others with
  | nil => exact ⟨[], rfl, by rw [List.append_nil]; rfl⟩
  | cons => exact ⟨['\r'], rfl, rfl⟩

theorem exists_of_mem_closeLines {lines : List (List Char)} {line : List Char}
    (member : line ∈ closeLines lines) :
    ∃ other ∈ lines, ∃ turn, allBlank turn = true ∧ line = other ++ turn := by
  induction lines with
  | nil => cases member
  | cons first others ih =>
      obtain ⟨turn, blank, equality⟩ := exists_closeLines_cons first others
      rw [equality] at member
      rcases List.mem_cons.mp member with rfl | later
      · exact ⟨first, .head _, turn, blank, rfl⟩
      · obtain ⟨other, known, split⟩ := ih later
        exact ⟨other, .tail _ known, split⟩

theorem unlines_closeLines {lines : List (List Char)}
    (single : ∀ line ∈ lines, '\n' ∉ line) : unlines (closeLines lines) = crlf (unlines lines) := by
  induction lines with
  | nil => rfl
  | cons line others ih =>
      obtain ⟨first, rest⟩ := List.forall_mem_cons.mp single
      cases others with
      | nil => exact (crlf_of_not_mem first).symm
      | cons second others =>
          have some : closeLines (second :: others) ≠ [] := by
            obtain ⟨turn, -, equality⟩ := exists_closeLines_cons second others
            rw [equality]
            exact List.cons_ne_nil _ _
          rw [closeLines_cons (List.cons_ne_nil second others), unlines_cons some,
            unlines_cons (List.cons_ne_nil second others), ih rest, crlf_append, crlf_feed,
            crlf_of_not_mem first, List.append_assoc]
          rfl

end Lines

end MailQuote.Text
