import MailQuote.Pattern

namespace MailQuote

namespace Cursor

theorem getLast?_or (c : Char) (before : List Char) (previous : Option Char) :
    (c :: before).getLast?.or previous = before.getLast?.or (some c) := by
  rw [List.getLast?_cons]
  cases before.getLast? <;> rfl

theorem exists_taken {holds : Char → Bool} {previous : Option Char} {text : List Char}
    {reached : Cursor} (member : reached ∈ beyond holds previous text) :
    ∃ taken, taken ++ reached.rest = text ∧ reached.previous = taken.getLast?.or previous ∧
      ∀ c ∈ taken, holds c = true := by
  induction text generalizing previous with
  | nil =>
      obtain rfl := List.mem_singleton.mp member
      exact ⟨[], rfl, rfl, nofun⟩
  | cons c rest ih =>
      rw [beyond] at member
      split at member
      · next held =>
          rcases List.mem_append.mp member with farther | here
          · obtain ⟨taken, whole, place, all⟩ := ih farther
            refine ⟨c :: taken, congrArg (c :: ·) whole, ?_, List.forall_mem_cons.mpr ⟨held, all⟩⟩
            rw [place, getLast?_or]
          · obtain rfl := List.mem_singleton.mp here
            exact ⟨[], rfl, rfl, nofun⟩
      · obtain rfl := List.mem_singleton.mp member
        exact ⟨[], rfl, rfl, nofun⟩

private theorem beyond_isSuffix {holds : Char → Bool} {previous : Option Char} {text : List Char}
    {reached : Cursor} (member : reached ∈ beyond holds previous text) :
    reached.rest <:+ text := by
  obtain ⟨taken, whole, -⟩ := exists_taken member
  exact ⟨taken, whole⟩

theorem self_mem_beyond (holds : Char → Bool) (previous : Option Char) (text : List Char) :
    ⟨previous, text⟩ ∈ beyond holds previous text := by
  cases text with
  | nil => exact .head _
  | cons c rest =>
      rw [beyond]
      split
      · exact List.mem_append_right _ (.head _)
      · exact .head _

theorem dropWhile_mem_beyond (holds : Char → Bool) (previous : Option Char)
    (text : List Char) :
    ∃ place, ⟨place, text.dropWhile holds⟩ ∈ beyond holds previous text := by
  induction text generalizing previous with
  | nil => exact ⟨previous, .head _⟩
  | cons c rest ih =>
      rw [beyond, List.dropWhile_cons]
      split
      · obtain ⟨place, known⟩ := ih (some c)
        exact ⟨place, List.mem_append_left _ known⟩
      · exact ⟨previous, .head _⟩

private theorem exists_beyond_append {holds : Char → Bool} {previous : Option Char}
    {text : List Char} {reached : Cursor} (member : reached ∈ beyond holds previous text)
    (other : Option Char) (after : List Char) :
    ∃ place, ⟨place, reached.rest ++ after⟩ ∈ beyond holds other (text ++ after) ∧
      (other = previous → place = reached.previous) := by
  induction text generalizing previous other with
  | nil =>
      rw [beyond, List.mem_singleton] at member
      rw [member]
      exact ⟨other, self_mem_beyond holds other after, id⟩
  | cons c rest ih =>
      have here := self_mem_beyond holds other (c :: (rest ++ after))
      rw [beyond] at member
      split at member
      · next held =>
          rcases List.mem_append.mp member with farther | stays
          · obtain ⟨place, known, same⟩ := ih farther (some c)
            refine ⟨place, ?_, fun _ => same rfl⟩
            rw [List.cons_append, beyond, if_pos held]
            exact List.mem_append_left _ known
          · rw [List.mem_singleton.mp stays]
            exact ⟨other, here, id⟩
      · rw [List.mem_singleton.mp member]
        exact ⟨other, here, id⟩

private theorem isSuffix_of_mem_all {previous : Option Char} {text : List Char} {cursor : Cursor}
    (member : cursor ∈ Cursor.all previous text) : cursor.rest <:+ text := by
  induction text generalizing previous with
  | nil =>
      obtain rfl := List.mem_singleton.mp member
      exact List.suffix_refl _
  | cons c rest ih =>
      rcases List.mem_cons.mp member with rfl | later
      · exact List.suffix_refl _
      · exact (ih later).trans (List.suffix_cons c rest)

private theorem exists_mem_all (previous : Option Char) (before text : List Char) :
    ∃ other, ⟨other, text⟩ ∈ Cursor.all previous (before ++ text) := by
  induction before generalizing previous with
  | nil =>
      obtain ⟨others, equality⟩ := Cursor.all_eq_cons previous text
      exact ⟨previous, by rw [List.nil_append, equality]; exact .head _⟩
  | cons c before ih =>
      obtain ⟨other, known⟩ := ih (some c)
      exact ⟨other, .tail _ known⟩

end Cursor

namespace Pattern

theorem ends_isSuffix {pattern : Pattern} {cursor reached : Cursor}
    (member : reached ∈ pattern.ends cursor) : reached.rest <:+ cursor.rest := by
  induction pattern generalizing cursor reached with
  | empty =>
      obtain rfl := List.mem_singleton.mp member
      exact List.suffix_refl _
  | lineStart =>
      rw [ends, List.mem_ite_nil_right, List.mem_singleton] at member
      obtain ⟨-, rfl⟩ := member
      exact List.suffix_refl _
  | lineEnd =>
      rw [ends, List.mem_ite_nil_right, List.mem_singleton] at member
      obtain ⟨-, rfl⟩ := member
      exact List.suffix_refl _
  | one holds =>
      rw [ends] at member
      split at member
      · cases member
      · next c rest equality =>
          rw [List.mem_ite_nil_right, List.mem_singleton] at member
          rw [member.2, equality]
          exact List.suffix_cons c rest
  | star holds => exact Cursor.beyond_isSuffix member
  | seq first second ihFirst ihSecond =>
      obtain ⟨between, known, member⟩ := List.mem_flatMap.mp member
      exact (ihSecond member).trans (ihFirst known)
  | alt first second ihFirst ihSecond =>
      rcases List.mem_append.mp member with known | known
      · exact ihFirst known
      · exact ihSecond known

private theorem matched_append_of_matchAt? {pattern : Pattern} {cursor : Cursor} {found : Match}
    (matched : pattern.matchAt? cursor = some found) :
    found.before = [] ∧ found.matched ++ found.after = cursor.rest := by
  obtain ⟨reached, first, rfl⟩ := Option.map_eq_some_iff.mp matched
  obtain ⟨taken, equality⟩ := ends_isSuffix (List.mem_of_head? first)
  refine ⟨rfl, ?_⟩
  simp [Match.leaving, ← equality]

private theorem append_of_leftmost? {pattern : Pattern} {previous : Option Char}
    {text : List Char} {found : Match} (leftmost : pattern.leftmost? previous text = some found) :
    found.before ++ (found.matched ++ found.after) = text := by
  induction text generalizing previous found with
  | nil =>
      obtain ⟨before, equality⟩ := matched_append_of_matchAt? leftmost
      rw [before, equality]
      rfl
  | cons c rest ih =>
      rw [leftmost?] at leftmost
      split at leftmost
      · next matched =>
          cases leftmost
          obtain ⟨before, equality⟩ := matched_append_of_matchAt? matched
          rw [before, equality]
          rfl
      · obtain ⟨later, behind, rfl⟩ := Option.map_eq_some_iff.mp leftmost
        exact congrArg (c :: ·) (ih behind)

theorem append_of_find? {pattern : Pattern} {text : List Char} {found : Match}
    (first : pattern.find? text = some found) :
    found.before ++ (found.matched ++ found.after) = text := by
  rw [find?_eq_leftmost?] at first
  exact append_of_leftmost? first

private theorem isSome_leftmost? (pattern : Pattern) (previous : Option Char) (text : List Char) :
    (pattern.leftmost? previous text).isSome = true ↔
      ∃ cursor ∈ Cursor.all previous text, pattern.ends cursor ≠ [] := by
  have isSome_matchAt? (cursor : Cursor) :
      (pattern.matchAt? cursor).isSome = true ↔ pattern.ends cursor ≠ [] := by
    rw [matchAt?, Option.isSome_map, List.isSome_head?]
  induction text generalizing previous with
  | nil => simp [leftmost?, Cursor.all, isSome_matchAt?]
  | cons c rest ih =>
      have here := isSome_matchAt? ⟨previous, c :: rest⟩
      have later := ih (some c)
      rw [leftmost?, Cursor.all]
      simp only [List.mem_cons, exists_eq_or_imp, ← here, ← later]
      cases pattern.matchAt? ⟨previous, c :: rest⟩ with
      | none => simp
      | some found => simp

private theorem isSome_find? (pattern : Pattern) (text : List Char) :
    (pattern.find? text).isSome = true ↔
      ∃ cursor ∈ Cursor.all none text, pattern.ends cursor ≠ [] := by
  rw [find?_eq_leftmost?]
  exact isSome_leftmost? pattern none text

/-- Whether a pattern asks nothing of what stands around a match. -/
def isFree : Pattern → Bool
  | .empty => true
  | .lineStart => false
  | .lineEnd => false
  | .one _ => true
  | .star _ => true
  | .seq first second => first.isFree && second.isFree
  | .alt first second => first.isFree && second.isFree

/-- Whether a pattern asks nothing of what stands before a match. -/
def isFreeBefore : Pattern → Bool
  | .lineStart => false
  | .seq first second => first.isFreeBefore && second.isFreeBefore
  | .alt first second => first.isFreeBefore && second.isFreeBefore
  | _ => true

/-- Whether a pattern asks nothing of what stands after a match. -/
def isFreeAfter : Pattern → Bool
  | .lineEnd => false
  | .seq first second => first.isFreeAfter && second.isFreeAfter
  | .alt first second => first.isFreeAfter && second.isFreeAfter
  | _ => true

theorem isFree_iff {pattern : Pattern} :
    pattern.isFree = true ↔ pattern.isFreeBefore = true ∧ pattern.isFreeAfter = true := by
  induction pattern with
  | seq first second ihFirst ihSecond =>
      simp only [isFree, isFreeBefore, isFreeAfter, Bool.and_eq_true, ihFirst, ihSecond]
      exact and_and_and_comm
  | alt first second ihFirst ihSecond =>
      simp only [isFree, isFreeBefore, isFreeAfter, Bool.and_eq_true, ihFirst, ihSecond]
      exact and_and_and_comm
  | _ => simp [isFree, isFreeBefore, isFreeAfter]

theorem isFreeBefore_of_isFree {pattern : Pattern} (free : pattern.isFree = true) :
    pattern.isFreeBefore = true :=
  (isFree_iff.mp free).1

/-- A match in a part of a text is one in the whole if the pattern asks nothing of what
stands before it or the same stands there, and if it asks nothing of what stands after it,
or the match does not reach the end of the part, or a line ends there. -/
theorem exists_end_extended {pattern : Pattern} {cursor reached : Cursor}
    (member : reached ∈ pattern.ends cursor) (other : Option Char) (after : List Char)
    (front : pattern.isFreeBefore = true ∨ other = cursor.previous)
    (back : pattern.isFreeAfter = true ∨ reached.rest ≠ [] ∨
      Cursor.atLineEnd ⟨other, after⟩ = true) :
    ∃ place, ⟨place, reached.rest ++ after⟩ ∈ pattern.ends ⟨other, cursor.rest ++ after⟩ ∧
      (other = cursor.previous → place = reached.previous) := by
  induction pattern generalizing cursor reached other with
  | empty =>
      rw [List.mem_singleton.mp member]
      exact ⟨other, .head _, id⟩
  | lineStart =>
      rw [ends, List.mem_ite_nil_right, List.mem_singleton] at member
      obtain ⟨atStart, rfl⟩ := member
      obtain rfl := front.resolve_left Bool.false_ne_true
      refine ⟨_, ?_, fun _ => rfl⟩
      rw [ends, List.mem_ite_nil_right]
      exact ⟨atStart, .head _⟩
  | lineEnd =>
      rw [ends, List.mem_ite_nil_right, List.mem_singleton] at member
      obtain ⟨atEnd, rfl⟩ := member
      refine ⟨other, ?_, id⟩
      rw [ends, List.mem_ite_nil_right]
      refine ⟨?_, .head _⟩
      obtain ⟨previous, rest⟩ := reached
      cases rest with
      | nil => exact (back.resolve_left Bool.false_ne_true).resolve_left (absurd rfl)
      | cons => exact atEnd
  | one holds =>
      rw [ends] at member
      split at member
      · cases member
      · next c rest equality =>
          rw [List.mem_ite_nil_right, List.mem_singleton] at member
          obtain ⟨held, rfl⟩ := member
          refine ⟨some c, ?_, fun _ => rfl⟩
          rw [equality, List.cons_append]
          exact List.mem_ite_nil_right.mpr ⟨held, .head _⟩
  | star holds => exact Cursor.exists_beyond_append member other after
  | seq first second ihFirst ihSecond =>
      simp only [isFreeBefore, isFreeAfter, Bool.and_eq_true] at front back
      obtain ⟨between, known, member⟩ := List.mem_flatMap.mp member
      have more (rest : reached.rest ≠ []) : between.rest ≠ [] := fun none =>
        rest (List.suffix_nil.mp (none ▸ ends_isSuffix member))
      obtain ⟨place, known', same⟩ :=
        ihFirst known other (front.imp_left And.left) (back.imp And.left (Or.imp_left more))
      obtain ⟨place', member', same'⟩ :=
        ihSecond member place (front.imp And.right same) (back.imp_left And.right)
      exact ⟨place', List.mem_flatMap.mpr ⟨_, known', member'⟩, fun equality =>
        same' (same equality)⟩
  | alt first second ihFirst ihSecond =>
      simp only [isFreeBefore, isFreeAfter, Bool.and_eq_true] at front back
      rcases List.mem_append.mp member with known | known
      · obtain ⟨place, member', same⟩ :=
          ihFirst known other (front.imp_left And.left) (back.imp_left And.left)
        exact ⟨place, List.mem_append_left _ member', same⟩
      · obtain ⟨place, member', same⟩ :=
          ihSecond known other (front.imp_left And.right) (back.imp_left And.right)
        exact ⟨place, List.mem_append_right _ member', same⟩

/-- What occurs in a part of a text occurs in the whole. -/
theorem isSome_find?_of_isInfix {pattern : Pattern} (free : pattern.isFree = true)
    {part whole : List Char} (isPart : part <:+: whole)
    (found : (pattern.find? part).isSome = true) :
    (pattern.find? whole).isSome = true := by
  rw [isSome_find?] at found ⊢
  obtain ⟨cursor, known, some⟩ := found
  obtain ⟨reached, member⟩ := List.exists_mem_of_ne_nil _ some
  obtain ⟨before, after, rfl⟩ := isPart
  obtain ⟨earlier, rfl⟩ := Cursor.isSuffix_of_mem_all known
  obtain ⟨other, place⟩ :=
    Cursor.exists_mem_all none (before ++ earlier) (cursor.rest ++ after)
  obtain ⟨isFreeBefore, isFreeAfter⟩ := isFree_iff.mp free
  obtain ⟨_, member', -⟩ :=
    exists_end_extended member other after (.inl isFreeBefore) (.inl isFreeAfter)
  refine ⟨⟨other, cursor.rest ++ after⟩, ?_, List.ne_nil_of_mem member'⟩
  simpa only [List.append_assoc] using place

theorem isFree_sequence {patterns : List Pattern}
    (free : ∀ pattern ∈ patterns, pattern.isFree = true) :
    (sequence patterns).isFree = true := by
  induction patterns with
  | nil => rfl
  | cons first others ih =>
      have freeFirst := free first (.head _)
      have freeOthers := ih fun pattern member => free pattern (.tail _ member)
      cases others with
      | nil => exact freeFirst
      | cons second others => exact Bool.and_eq_true_iff.mpr ⟨freeFirst, freeOthers⟩

theorem isFree_phrase (text : String) : (phrase text).isFree = true := by
  apply isFree_sequence
  intro pattern member
  obtain ⟨c, -, rfl⟩ := List.mem_map.mp member
  rfl

theorem isFree_atLeast (count : Nat) (holds : Char → Bool) :
    (atLeast count holds).isFree = true := by
  induction count with
  | zero => rfl
  | succ count ih => exact Bool.and_eq_true_iff.mpr ⟨rfl, ih⟩

/-- Whether a text is cut around a match of a pattern, be it a preferred one or not. -/
structure OccursIn (pattern : Pattern) (text : List Char) (found : Match) : Prop where
  whole : found.before ++ (found.matched ++ found.after) = text
  reaches : ∃ place, ⟨place, found.after⟩ ∈
    pattern.ends ⟨found.before.getLast?, found.matched ++ found.after⟩

section Leftmost

variable {pattern : Pattern} {previous : Option Char}

private theorem exists_matchAt? {cursor reached : Cursor} (member : reached ∈ pattern.ends cursor) :
    ∃ found, pattern.matchAt? cursor = some found ∧ found.before = [] := by
  rw [matchAt?]
  cases known : pattern.ends cursor with
  | nil => exact absurd known (List.ne_nil_of_mem member)
  | cons first others => exact ⟨_, rfl, rfl⟩

private theorem leftmost?_of_matchAt? {text : List Char} {found : Match}
    (matched : pattern.matchAt? ⟨previous, text⟩ = some found) :
    pattern.leftmost? previous text = some found := by
  cases text with
  | nil => exact matched
  | cons c rest => rw [leftmost?, matched]

private theorem exists_leftmost? {before rest : List Char} {reached : Cursor}
    (member : reached ∈ pattern.ends ⟨before.getLast?.or previous, rest⟩) :
    ∃ first, pattern.leftmost? previous (before ++ rest) = some first ∧
      first.before <+: before := by
  induction before generalizing previous with
  | nil =>
      obtain ⟨first, matched, atOnce⟩ := exists_matchAt? member
      exact ⟨first, leftmost?_of_matchAt? matched, atOnce ▸ List.nil_prefix⟩
  | cons c before ih =>
      rw [Cursor.getLast?_or] at member
      obtain ⟨later, known, earlier⟩ := ih member
      cases here : pattern.matchAt? ⟨previous, c :: (before ++ rest)⟩ with
      | some first =>
          refine ⟨first, leftmost?_of_matchAt? here, ?_⟩
          rw [(matched_append_of_matchAt? here).1]
          exact List.nil_prefix
      | none =>
          refine ⟨later.behind c, ?_, (List.prefix_cons_inj c).mpr earlier⟩
          rw [List.cons_append, leftmost?, here, known]
          rfl

private theorem exists_end_of_leftmost? {text : List Char} {found : Match}
    (leftmost : pattern.leftmost? previous text = some found) :
    ∃ place, ⟨place, found.after⟩ ∈
      pattern.ends ⟨found.before.getLast?.or previous, found.matched ++ found.after⟩ := by
  have atOnce {text : List Char} {previous : Option Char} {found : Match}
      (matched : pattern.matchAt? ⟨previous, text⟩ = some found) :
      ∃ place, ⟨place, found.after⟩ ∈
        pattern.ends ⟨found.before.getLast?.or previous, found.matched ++ found.after⟩ := by
    obtain ⟨before, whole⟩ := matched_append_of_matchAt? matched
    rw [before, whole]
    obtain ⟨reached, first, rfl⟩ := Option.map_eq_some_iff.mp matched
    exact ⟨reached.previous, List.mem_of_head? first⟩
  induction text generalizing previous found with
  | nil => exact atOnce leftmost
  | cons c rest ih =>
      rw [leftmost?] at leftmost
      split at leftmost
      · next matched =>
          cases leftmost
          exact atOnce matched
      · obtain ⟨later, known, rfl⟩ := Option.map_eq_some_iff.mp leftmost
        obtain ⟨place, member⟩ := ih known
        refine ⟨place, ?_⟩
        rw [Match.behind, Cursor.getLast?_or]
        exact member

theorem occursIn_of_find? {text : List Char} {found : Match}
    (first : pattern.find? text = some found) : pattern.OccursIn text found := by
  refine ⟨append_of_find? first, ?_⟩
  rw [find?_eq_leftmost?] at first
  simpa only [Option.or_none] using exists_end_of_leftmost? first

theorem exists_find?_of_mem_ends {before rest : List Char} {reached : Cursor}
    (member : reached ∈ pattern.ends ⟨before.getLast?, rest⟩) :
    ∃ first, pattern.find? (before ++ rest) = some first ∧ first.before <+: before := by
  rw [← Option.or_none (o := before.getLast?)] at member
  rw [find?_eq_leftmost?]
  exact exists_leftmost? member

end Leftmost

/-- Whether every match of a pattern takes a character that is none of the given ones. -/
def takesBeyond (given : List Char) : Pattern → Bool
  | .one holds => given.all fun c => !holds c
  | .seq first second => first.takesBeyond given || second.takesBeyond given
  | .alt first second => first.takesBeyond given && second.takesBeyond given
  | _ => false

private theorem ends_nil_of_takesBeyond {given : List Char} {pattern : Pattern}
    (takes : pattern.takesBeyond given = true) {text : List Char}
    (only : ∀ c ∈ text, c ∈ given) (previous : Option Char) :
    pattern.ends ⟨previous, text⟩ = [] := by
  induction pattern generalizing previous text with
  | one holds =>
      cases text with
      | nil => rfl
      | cons c rest =>
          have refused := List.all_eq_true.mp takes c (only c (.head _))
          rw [Bool.not_eq_true'] at refused
          simp only [ends, refused, Bool.false_eq_true, if_false]
  | seq first second ihFirst ihSecond =>
      apply List.flatMap_eq_nil_iff.mpr
      intro reached member
      rcases Bool.or_eq_true_iff.mp takes with takes | takes
      · rw [ihFirst takes only] at member
        cases member
      · have part : reached.rest ⊆ text := (ends_isSuffix member).subset
        exact ihSecond takes (fun c inside => only c (part inside)) reached.previous
  | alt first second ihFirst ihSecond =>
      obtain ⟨takesFirst, takesSecond⟩ := Bool.and_eq_true_iff.mp takes
      rw [ends, ihFirst takesFirst only, ihSecond takesSecond only]
      rfl
  | _ => cases takes

theorem OccursIn.exists_beyond {pattern : Pattern} {text : List Char} {found : Match}
    (occurs : pattern.OccursIn text found) {given : List Char}
    (takes : pattern.takesBeyond given = true) :
    ∃ c ∈ found.matched ++ found.after, c ∉ given := by
  obtain ⟨-, place, member⟩ := occurs
  refine Classical.byContradiction fun none => ?_
  have only : ∀ c ∈ found.matched ++ found.after, c ∈ given := by simpa using none
  rw [ends_nil_of_takesBeyond takes only] at member
  cases member

/-- Whether all characters that a pattern can take are of a class. -/
def TakesOnly (holds : Char → Bool) : Pattern → Prop
  | .one allows => ∀ c, allows c = true → holds c = true
  | .star allows => ∀ c, allows c = true → holds c = true
  | .seq first second => first.TakesOnly holds ∧ second.TakesOnly holds
  | .alt first second => first.TakesOnly holds ∧ second.TakesOnly holds
  | _ => True

theorem exists_taken_of_takesOnly {holds : Char → Bool} {pattern : Pattern}
    (only : pattern.TakesOnly holds) {cursor reached : Cursor}
    (member : reached ∈ pattern.ends cursor) :
    ∃ taken, taken ++ reached.rest = cursor.rest ∧ ∀ c ∈ taken, holds c = true := by
  induction pattern generalizing cursor reached with
  | empty =>
      rw [List.mem_singleton.mp member]
      exact ⟨[], rfl, nofun⟩
  | lineStart =>
      rw [ends, List.mem_ite_nil_right, List.mem_singleton] at member
      exact ⟨[], by rw [member.2]; rfl, nofun⟩
  | lineEnd =>
      rw [ends, List.mem_ite_nil_right, List.mem_singleton] at member
      exact ⟨[], by rw [member.2]; rfl, nofun⟩
  | one allows =>
      rw [ends] at member
      split at member
      · cases member
      · next c rest equality =>
          rw [List.mem_ite_nil_right, List.mem_singleton] at member
          obtain ⟨allowed, rfl⟩ := member
          refine ⟨[c], equality.symm, fun d known => ?_⟩
          rw [List.mem_singleton.mp known]
          exact only c allowed
  | star allows =>
      obtain ⟨taken, whole, -, allowed⟩ := Cursor.exists_taken member
      exact ⟨taken, whole, fun c known => only c (allowed c known)⟩
  | seq first second ihFirst ihSecond =>
      obtain ⟨between, known, member⟩ := List.mem_flatMap.mp member
      obtain ⟨taken, whole, held⟩ := ihFirst only.1 known
      obtain ⟨taken', whole', held'⟩ := ihSecond only.2 member
      refine ⟨taken ++ taken', ?_, List.forall_mem_append.mpr ⟨held, held'⟩⟩
      rw [List.append_assoc, whole', whole]
  | alt first second ihFirst ihSecond =>
      rcases List.mem_append.mp member with known | known
      · exact ihFirst only.1 known
      · exact ihSecond only.2 known

private theorem exists_end_elsewhere {pattern : Pattern} (free : pattern.isFreeBefore = true)
    {cursor reached : Cursor} (member : reached ∈ pattern.ends cursor)
    (other : Option Char) :
    ∃ place, ⟨place, reached.rest⟩ ∈ pattern.ends ⟨other, cursor.rest⟩ := by
  obtain ⟨place, known, -⟩ :=
    exists_end_extended member other [] (.inl free) (.inr (.inr rfl))
  rw [List.append_nil, List.append_nil] at known
  exact ⟨place, known⟩

/-- Whether a match of a pattern may begin with one more character of a class. -/
def Absorbs (pattern : Pattern) (holds : Char → Bool) : Prop :=
  ∀ c, holds c = true → ∀ cursor, ∀ reached ∈ pattern.ends cursor, ∀ other,
    ∃ place, ⟨place, reached.rest⟩ ∈ pattern.ends ⟨other, c :: cursor.rest⟩

section Absorbs

variable {holds allows : Char → Bool}

theorem absorbs_star (allowed : ∀ c, holds c = true → allows c = true) :
    (star allows).Absorbs holds := by
  intro c held cursor reached member other
  obtain ⟨place, known⟩ := exists_end_elsewhere rfl member (some c)
  refine ⟨place, ?_⟩
  rw [ends, Cursor.beyond, if_pos (allowed c held)]
  exact List.mem_append_left _ known

theorem absorbs_plus (allowed : ∀ c, holds c = true → allows c = true) :
    (plus allows).Absorbs holds := by
  intro c held ⟨previous, rest⟩ reached member other
  obtain ⟨between, known, member⟩ := List.mem_flatMap.mp member
  cases rest with
  | nil => cases known
  | cons d rest =>
      obtain ⟨allowed', here⟩ := List.mem_ite_nil_right.mp known
      obtain rfl := List.mem_singleton.mp here
      refine ⟨reached.previous, List.mem_flatMap.mpr ⟨⟨some c, d :: rest⟩, ?_, ?_⟩⟩
      · exact List.mem_ite_nil_right.mpr ⟨allowed c held, .head _⟩
      · rw [ends, Cursor.beyond, if_pos allowed']
        exact List.mem_append_left _ member

theorem Absorbs.seq {first second : Pattern} (absorbs : first.Absorbs holds)
    (free : second.isFreeBefore = true) : (seq first second).Absorbs holds := by
  intro c held cursor reached member other
  obtain ⟨between, known, member⟩ := List.mem_flatMap.mp member
  obtain ⟨place, known'⟩ := absorbs c held cursor between known other
  obtain ⟨place', member'⟩ := exists_end_elsewhere free member place
  exact ⟨place', List.mem_flatMap.mpr ⟨_, known', member'⟩⟩

theorem Absorbs.exists_end {pattern : Pattern} (absorbs : pattern.Absorbs holds)
    (free : pattern.isFreeBefore = true) {cursor reached : Cursor}
    (member : reached ∈ pattern.ends cursor) {fill : List Char}
    (held : ∀ c ∈ fill, holds c = true) (other : Option Char) :
    ∃ place, ⟨place, reached.rest⟩ ∈ pattern.ends ⟨other, fill ++ cursor.rest⟩ := by
  induction fill generalizing other with
  | nil => exact exists_end_elsewhere free member other
  | cons c fill ih =>
      obtain ⟨first, others⟩ := List.forall_mem_cons.mp held
      obtain ⟨place, known⟩ := ih others (some c)
      exact absorbs c first _ _ known other

end Absorbs

private theorem ends_sequence_cons (first : Pattern) (others : List Pattern) (cursor : Cursor) :
    (sequence (first :: others)).ends cursor =
      (first.ends cursor).flatMap (sequence others).ends := by
  cases others with
  | nil => exact (List.flatMap_singleton' _).symm
  | cons => rfl

theorem ends_sequence_append (first second : List Pattern) (cursor : Cursor) :
    (sequence (first ++ second)).ends cursor =
      ((sequence first).ends cursor).flatMap (sequence second).ends := by
  induction first generalizing cursor with
  | nil => exact (List.append_nil _).symm
  | cons pattern others ih =>
      rw [List.cons_append, ends_sequence_cons, ends_sequence_cons, List.flatMap_assoc]
      exact congrArg (List.flatMap · _) (funext ih)

end Pattern

end MailQuote
