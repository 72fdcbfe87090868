import MailQuote.Proofs.Scan

namespace MailQuote

namespace Text

private theorem byteSize_eq_size (text : List Char) : byteSize text = text.utf8Encode.size := by
  induction text with
  | nil => rfl
  | cons c rest ih =>
      rw [byteSize, List.utf8Encode_cons, ByteArray.size_append, ← ih, List.utf8Encode_singleton]
      simp

private theorem byteSize_toList (text : String) : byteSize text.toList = text.utf8ByteSize := by
  rw [byteSize_eq_size, String.utf8Encode_toList, String.size_toByteArray]

/-- Whether a piece is what a text has in its bytes from one position up to another, both
of which are between two characters. -/
structure IsSlice (text : String) (start stop : Nat) (piece : List Char) : Prop where
  stop_eq : stop = start + byteSize piece
  within : stop ≤ text.utf8ByteSize
  opens : String.Pos.Raw.IsValid text ⟨start⟩
  closes : String.Pos.Raw.IsValid text ⟨stop⟩
  bytes : text.toByteArray.extract start stop = piece.utf8Encode

private theorem isValid_byteSize {text : String} {before after : List Char}
    (split : text.toList = before ++ after) :
    String.Pos.Raw.IsValid text ⟨byteSize before⟩ := by
  apply String.Pos.Raw.isValid_iff_exists_append.mpr
  refine ⟨String.ofList before, String.ofList after, ?_, ?_⟩
  · rw [← String.ofList_append, ← split, String.ofList_toList]
  · rw [String.Pos.Raw.ext_iff, String.byteIdx_rawEndPos, ← byteSize_toList,
      String.toList_ofList]

private theorem isSlice_of_split {text : String} {before piece after : List Char}
    (split : text.toList = before ++ (piece ++ after)) :
    IsSlice text (byteSize before) (byteSize before + byteSize piece) piece := by
  have size : text.utf8ByteSize = byteSize before + (byteSize piece + byteSize after) := by
    rw [← byteSize_append, ← byteSize_append, ← split, byteSize_toList]
  refine ⟨rfl, ?within, isValid_byteSize split, ?closes, ?bytes⟩
  case within => omega
  case closes =>
    rw [← byteSize_append]
    exact isValid_byteSize (split.trans (List.append_assoc before piece after).symm)
  case bytes =>
    have shifted : (before.utf8Encode ++ (piece.utf8Encode ++ after.utf8Encode)).extract
        (before.utf8Encode.size + 0) (before.utf8Encode.size + piece.utf8Encode.size) =
          piece.utf8Encode.extract 0 piece.utf8Encode.size := by
      rw [ByteArray.extract_append_size_add, ByteArray.extract_append_size_left]
    rw [Nat.add_zero] at shifted
    rw [← String.utf8Encode_toList, split, List.utf8Encode_append, List.utf8Encode_append,
      byteSize_eq_size, byteSize_eq_size, shifted, ByteArray.extract_zero_size]

private theorem byteSize_of_takeBytes? {size : Nat} {text taken : List Char}
    (known : takeBytes? size text = some taken) : byteSize taken = size := by
  induction text generalizing size taken with
  | nil =>
      cases size with
      | zero =>
          cases known
          rfl
      | succ => cases known
  | cons c rest ih =>
      cases size with
      | zero =>
          cases known
          rfl
      | succ size =>
          rw [takeBytes?] at known
          split at known
          · next fits =>
              obtain ⟨others, known', rfl⟩ := Option.map_eq_some_iff.mp known
              rw [byteSize, ih known', Nat.add_sub_cancel' fits]
          · cases known

private theorem isSlice_of_takeBytes? {text : String} {size : Nat} {opening : List Char}
    (taken : takeBytes? size text.toList = some opening) : IsSlice text 0 size opening := by
  obtain ⟨rest, split⟩ := takeBytes?_isPrefix taken
  have slice := @isSlice_of_split text [] opening rest split.symm
  rwa [byteSize_of_takeBytes? taken, byteSize, Nat.zero_add] at slice

/-- The position of a line is behind those of the lines before it and the line feeds
between them. -/
theorem exists_split_of_mem_placeLines {start position : Nat} {lines : List (List Char)}
    {line : List Char} (member : (position, line) ∈ placeLines start lines) :
    ∃ before after, unlines lines = before ++ (line ++ after) ∧
      position = start + byteSize before := by
  induction lines generalizing start with
  | nil => cases member
  | cons first others ih =>
      cases member with
      | head =>
          cases others with
          | nil => exact ⟨[], [], (List.append_nil line).symm, rfl⟩
          | cons second others => exact ⟨[], _, rfl, rfl⟩
      | tail _ later =>
          have some : others ≠ [] := by
            rintro rfl
            cases later
          obtain ⟨before, after, split, rfl⟩ := ih later
          refine ⟨first ++ '\n' :: before, after, ?_, ?_⟩
          · rw [unlines_cons some, split, List.append_assoc]
            rfl
          · have feed : byteSize ('\n' :: before) = 1 + byteSize before := rfl
            rw [byteSize_append, feed]
            omega

private theorem pairwise_placeLines (start : Nat) (lines : List (List Char)) :
    (placeLines start lines).Pairwise fun first second => first.1 < second.1 := by
  induction lines generalizing start with
  | nil => exact .nil
  | cons first others ih =>
      apply List.pairwise_cons.mpr
      refine ⟨fun later member => ?_, ih _⟩
      obtain ⟨before, -, -, position⟩ := exists_split_of_mem_placeLines member
      omega

private theorem lines_append_feed {line : List Char} (single : '\n' ∉ line) (rest : List Char) :
    lines (line ++ '\n' :: rest) = line :: lines rest := by
  induction line with
  | nil => rfl
  | cons c others ih =>
      obtain ⟨different, single⟩ := not_or.mp (mt List.mem_cons.mpr single)
      rw [List.cons_append, lines, if_neg (Ne.symm different), ih single]

private theorem lines_unlines {lines : List (List Char)} (some : lines ≠ [])
    (single : ∀ line ∈ lines, '\n' ∉ line) : Text.lines (unlines lines) = lines := by
  induction lines with
  | nil => exact absurd rfl some
  | cons line others ih =>
      obtain ⟨first, rest⟩ := List.forall_mem_cons.mp single
      cases others with
      | nil => exact lines_of_not_mem first
      | cons second others =>
          have more := List.cons_ne_nil second others
          rw [unlines_cons more, lines_append_feed first, ih more rest]

end Text

namespace Scan

private theorem takeBytes?_keptBytes (text : List Char) :
    Text.takeBytes? (keptBytes text) text = some (stripTail text).1 := by
  have whole := Text.takeBytes?_byteSize text []
  rw [List.append_nil] at whole
  have cuts : ∃ kept, Text.takeBytes? (keptBytes text) text = some kept := by
    rw [keptBytes]
    split
    · next start line last =>
        have member := List.mem_reverse.mp (List.mem_of_find?_eq_some last)
        obtain ⟨before, after, split, position⟩ := Text.exists_split_of_mem_placeLines member
        rw [Text.unlines_lines, ← List.append_assoc] at split
        refine ⟨before ++ line, ?_⟩
        rw [position, Nat.zero_add, ← Text.byteSize_append, split, Text.takeBytes?_byteSize]
    · split
      · cases text with
        | nil => exact ⟨_, rfl⟩
        | cons c rest => exact ⟨_, rfl⟩
      · exact ⟨text, whole⟩
  obtain ⟨kept, taken⟩ := cuts
  rw [stripTail, taken, Option.getD_some]

/-- What is left without the quoted end has no quoted end. -/
theorem stripTail_stripTail (text : List Char) :
    stripTail (stripTail text).1 = ((stripTail text).1, false) := by
  by_cases last : ∃ index, IsLastKept (Text.lines text) index
  · obtain ⟨index, last⟩ := last
    obtain ⟨line, split, -, kept, tail⟩ := last.exists_split
    have single : ∀ other ∈ (Text.lines text).take index ++ [line], '\n' ∉ other := by
      intro other member
      have known : other ∈ Text.lines text := by
        rw [split]
        rcases List.mem_append.mp member with above | own
        · exact List.mem_append_left _ above
        · exact List.mem_append_right _ (List.mem_singleton.mp own ▸ .head _)
      exact Text.not_mem_of_mem_lines known
    have lines := Text.lines_unlines (List.concat_ne_nil _ _) single
    rw [stripTail_of_split split kept tail, stripTail_of_split lines kept nofun]
    rfl
  · have all := forall_inTail (not_exists.mp last)
    have none : lastKept? text = none := by
      apply List.find?_eq_none.mpr
      intro placed member
      simp [all placed.2 (line_mem member)]
    have taken := takeBytes?_keptBytes text
    cases quoted : hasQuotedTail text with
    | true =>
        rw [keptBytes, none, quoted] at taken
        have empty := Text.eq_nil_of_byteSize (Text.byteSize_of_takeBytes? taken)
        rw [empty]
        rfl
    | false =>
        rw [keptBytes, none, quoted] at taken
        have whole := Text.takeBytes?_byteSize text []
        rw [List.append_nil] at whole
        have same : (stripTail text).1 = text := Option.some.inj (taken.symm.trans whole)
        rw [same]
        exact Prod.ext same quoted

/-- The lines of a text are slices of its bytes at increasing positions, and together with
the line feeds between them they are the text. The quoted end and what follows a marker
are cut off between two characters, and what is left of a text has no quoted end. -/
theorem slices_exact (text : String) :
    let source := text.toList
    let placed := Text.placedLines source
    (∀ entry ∈ placed, '\n' ∉ entry.2 ∧
      Text.IsSlice text entry.1 (entry.1 + Text.byteSize entry.2) entry.2) ∧
    placed.Pairwise (fun first second => first.1 < second.1) ∧
    Text.unlines (placed.map Prod.snd) = source ∧
    (Text.takeBytes? (keptBytes source) source = some (stripTail source).1 ∧
      Text.IsSlice text 0 (keptBytes source) (stripTail source).1) ∧
    (∀ marker found, Marker.earliest? source = some (marker, found) →
      Text.takeBytes? found.start source = some (cutAtMarker source).1 ∧
        Text.IsSlice text 0 found.start (cutAtMarker source).1) ∧
    (stripTail source).1 <+: source ∧
    stripTail (stripTail source).1 = ((stripTail source).1, false) := by
  intro source placed
  refine ⟨?lines, ?increasing, ?whole, ?tail, ?marker, ?isPrefix, ?idempotent⟩
  case lines =>
    rintro ⟨position, line⟩ member
    constructor
    · have known : line ∈ Text.lines source := line_mem (List.mem_reverse.mpr member)
      exact Text.not_mem_of_mem_lines known
    · obtain ⟨before, after, split, rfl⟩ := Text.exists_split_of_mem_placeLines member
      rw [Text.unlines_lines] at split
      rw [Nat.zero_add]
      exact Text.isSlice_of_split split
  case increasing => exact Text.pairwise_placeLines 0 (Text.lines source)
  case whole =>
    have same : placed.map Prod.snd = Text.lines source := Text.map_snd_placeLines 0 _
    rw [same, Text.unlines_lines]
  case tail =>
    have taken := takeBytes?_keptBytes source
    exact ⟨taken, Text.isSlice_of_takeBytes? taken⟩
  case marker =>
    intro marker found earliest
    have taken := takeBytes?_cutAtMarker earliest
    exact ⟨taken, Text.isSlice_of_takeBytes? taken⟩
  case isPrefix => exact stripTail_isPrefix source
  case idempotent => exact stripTail_stripTail source

theorem slices_exact_sample :
    let text := "né\n> old\nOn Monday, a wrote:"
    (10, "On Monday, a wrote:".toList) ∈ Text.placedLines text.toList ∧
      ∃ marker found, Marker.earliest? text.toList = some (marker, found) ∧
        found.start = 10 ∧
        Text.takeBytes? found.start text.toList = some (cutAtMarker text.toList).1 ∧
        Text.IsSlice text 0 10 (cutAtMarker text.toList).1 := by
  intro text
  have position : (Marker.earliest? text.toList).map (·.2.start) = some 10 := by decide
  obtain ⟨⟨marker, found⟩, earliest, start⟩ := Option.map_eq_some_iff.mp position
  obtain ⟨-, -, -, -, cut, -⟩ := slices_exact text
  obtain ⟨taken, slice⟩ := cut marker found earliest
  exact ⟨by decide, marker, found, earliest, start, taken, start ▸ slice⟩

end Scan

end MailQuote
