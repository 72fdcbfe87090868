import MailQuote.Text

namespace MailQuote

/-- A pattern of text. Repetition takes as many characters as it can before it
tries fewer, and of two alternatives the first is tried first. -/
inductive Pattern where
  /-- matches the empty text -/
  | empty
  /-- matches the empty text at the beginning of a line -/
  | lineStart
  /-- matches the empty text at the end of a line -/
  | lineEnd
  /-- matches one character of a class -/
  | one (holds : Char → Bool)
  /-- matches any number of characters of a class -/
  | star (holds : Char → Bool)
  | seq (first second : Pattern)
  | alt (first second : Pattern)

/-- A place in a text: the character before it and the text after it. -/
structure Cursor where
  previous : Option Char
  rest : List Char
deriving DecidableEq

def Cursor.atLineStart (cursor : Cursor) : Bool :=
  match cursor.previous with
  | none => true
  | some c => c == '\n'

def Cursor.atLineEnd (cursor : Cursor) : Bool :=
  match cursor.rest with
  | [] => true
  | c :: _ => c == '\n'

/-- The places reached by passing characters of a class, the farthest first. -/
def Cursor.beyond (holds : Char → Bool) : Option Char → List Char → List Cursor
  | previous, [] => [⟨previous, []⟩]
  | previous, c :: rest =>
      if holds c then
        Cursor.beyond holds (some c) rest ++ [⟨previous, c :: rest⟩]
      else [⟨previous, c :: rest⟩]

/-- The places where a match that starts at the cursor can end, the preferred
one first. -/
def Pattern.ends : Pattern → Cursor → List Cursor
  | .empty, cursor => [cursor]
  | .lineStart, cursor => if cursor.atLineStart then [cursor] else []
  | .lineEnd, cursor => if cursor.atLineEnd then [cursor] else []
  | .one holds, cursor =>
      match cursor.rest with
      | [] => []
      | c :: rest => if holds c then [⟨some c, rest⟩] else []
  | .star holds, cursor => Cursor.beyond holds cursor.previous cursor.rest
  | .seq first second, cursor => (first.ends cursor).flatMap second.ends
  | .alt first second, cursor => first.ends cursor ++ second.ends cursor

/-- A text cut into what precedes a match, the match, and what follows it. -/
structure Match where
  before : List Char
  matched : List Char
  after : List Char
deriving DecidableEq

def Match.start (found : Match) : Nat :=
  Text.byteSize found.before

def Match.stop (found : Match) : Nat :=
  found.start + Text.byteSize found.matched

/-- The match that starts at the beginning of a text and leaves `rest`. -/
def Match.leaving (text rest : List Char) : Match :=
  ⟨[], text.take (text.length - rest.length), rest⟩

def Match.behind (c : Char) (found : Match) : Match :=
  { found with before := c :: found.before }

def Pattern.matchAt? (pattern : Pattern) (cursor : Cursor) : Option Match :=
  (pattern.ends cursor).head?.map fun reached => Match.leaving cursor.rest reached.rest

/-- The leftmost match in what follows the character `previous`. -/
def Pattern.leftmost? (pattern : Pattern) :
    (previous : Option Char) → List Char → Option Match
  | previous, [] => pattern.matchAt? ⟨previous, []⟩
  | previous, c :: rest =>
      match pattern.matchAt? ⟨previous, c :: rest⟩ with
      | some found => some found
      | none => (pattern.leftmost? (some c) rest).map (Match.behind c)

namespace Pattern

def char (c : Char) : Pattern :=
  .one (· == c)

def letter (c : Char) : Pattern :=
  .one (Text.sameLetter c)

def plus (holds : Char → Bool) : Pattern :=
  .seq (.one holds) (.star holds)

def atLeast : (count : Nat) → (holds : Char → Bool) → Pattern
  | 0, holds => .star holds
  | count + 1, holds => .seq (.one holds) (atLeast count holds)

def optional (pattern : Pattern) : Pattern :=
  .alt pattern .empty

def sequence : List Pattern → Pattern
  | [] => .empty
  | [pattern] => pattern
  | pattern :: others => .seq pattern (sequence others)

def literal (text : String) : Pattern :=
  sequence (text.toList.map char)

def phrase (text : String) : Pattern :=
  sequence (text.toList.map letter)

end Pattern

/-- The places of a text that follows the character `previous`, from left to
right. -/
def Cursor.all : (previous : Option Char) → List Char → List Cursor
  | previous, [] => [⟨previous, []⟩]
  | previous, c :: rest => ⟨previous, c :: rest⟩ :: Cursor.all (some c) rest

namespace Pattern

/-- Where a search arrives from each place after one character of a class. A
goal says where it arrives from the place beyond that character. -/
def afterOne (holds : Char → Bool) :
    List Cursor → (goals : List (Option Cursor)) → List (Option Cursor)
  | cursor :: cursors, _ :: goals =>
      (match cursor.rest with
        | c :: _ => if holds c then goals.head?.join else none
        | [] => none) :: afterOne holds cursors goals
  | _, _ => []

/-- Where a search arrives from each place after as many characters of a class
as its goals allow. -/
def afterMany (holds : Char → Bool) :
    List Cursor → (goals : List (Option Cursor)) → List (Option Cursor)
  | cursor :: cursors, goal :: goals =>
      let later := afterMany holds cursors goals
      (match cursor.rest with
        | c :: _ => if holds c then later.head?.join.or goal else goal
        | [] => goal) :: later
  | _, _ => []

/-- Where a search arrives from the places at which a condition holds. -/
def gated (holds : Cursor → Bool) (cursors : List Cursor)
    (goals : List (Option Cursor)) : List (Option Cursor) :=
  List.zipWith (fun cursor goal => if holds cursor then goal else none) cursors goals

/-- Where a search for the pattern arrives from each place of a text, when the
goals say where it arrives from each place at which the pattern ends. -/
def arrivals : Pattern → List Cursor → (goals : List (Option Cursor)) →
    List (Option Cursor)
  | .empty, _, goals => goals
  | .lineStart, cursors, goals => gated Cursor.atLineStart cursors goals
  | .lineEnd, cursors, goals => gated Cursor.atLineEnd cursors goals
  | .one holds, cursors, goals => afterOne holds cursors goals
  | .star holds, cursors, goals => afterMany holds cursors goals
  | .seq first second, cursors, goals =>
      first.arrivals cursors (second.arrivals cursors goals)
  | .alt first second, cursors, goals =>
      List.zipWith Option.or (first.arrivals cursors goals) (second.arrivals cursors goals)

end Pattern

/-- The match from the first place of a text from which a search arrives. -/
def Match.first? : List Char → (arrivals : List (Option Cursor)) → Option Match
  | text, some reached :: _ => some (Match.leaving text reached.rest)
  | c :: text, none :: arrivals => (Match.first? text arrivals).map (Match.behind c)
  | _, _ => none

def Pattern.find? (pattern : Pattern) (text : List Char) : Option Match :=
  let cursors := Cursor.all none text
  Match.first? text (pattern.arrivals cursors (cursors.map some))

/-! The search agrees with the ends of the pattern. -/

theorem Cursor.all_eq_cons (previous : Option Char) (text : List Char) :
    ∃ others, Cursor.all previous text = ⟨previous, text⟩ :: others := by
  cases text with
  | nil => exact ⟨[], rfl⟩
  | cons c rest => exact ⟨Cursor.all (some c) rest, rfl⟩

private theorem Cursor.head?_map_all (previous : Option Char) (text : List Char)
    (f : Cursor → β) :
    ((Cursor.all previous text).map f).head? = some (f ⟨previous, text⟩) := by
  obtain ⟨others, h⟩ := Cursor.all_eq_cons previous text
  rw [h]
  rfl

private theorem Pattern.afterOne_all (holds : Char → Bool) (previous : Option Char)
    (text : List Char) (goal : Cursor → Option Cursor) :
    afterOne holds (Cursor.all previous text) ((Cursor.all previous text).map goal) =
      (Cursor.all previous text).map
        fun cursor => ((Pattern.one holds).ends cursor).findSome? goal := by
  induction text generalizing previous with
  | nil => simp [Cursor.all, afterOne, Pattern.ends]
  | cons c rest ih =>
      simp only [Cursor.all, List.map_cons, afterOne, ih, Cursor.head?_map_all,
        Pattern.ends, Option.join_some]
      split <;> simp

private theorem Pattern.afterMany_all (holds : Char → Bool) (previous : Option Char)
    (text : List Char) (goal : Cursor → Option Cursor) :
    afterMany holds (Cursor.all previous text) ((Cursor.all previous text).map goal) =
      (Cursor.all previous text).map
        fun cursor => ((Pattern.star holds).ends cursor).findSome? goal := by
  induction text generalizing previous with
  | nil => simp [Cursor.all, afterMany, Pattern.ends, Cursor.beyond]
  | cons c rest ih =>
      simp only [Cursor.all, List.map_cons, afterMany, ih, Cursor.head?_map_all,
        Pattern.ends, Option.join_some, Cursor.beyond]
      split <;> simp [List.findSome?_append]

private theorem Pattern.zipWith_map_all (cursors : List Cursor) (f : β → γ → δ)
    (first : Cursor → β) (second : Cursor → γ) :
    List.zipWith f (cursors.map first) (cursors.map second) =
      cursors.map fun cursor => f (first cursor) (second cursor) := by
  induction cursors with
  | nil => rfl
  | cons cursor cursors ih => simp [ih]

private theorem Pattern.gated_all (holds : Cursor → Bool) (cursors : List Cursor)
    (goal : Cursor → Option Cursor) :
    gated holds cursors (cursors.map goal) =
      cursors.map fun cursor => (if holds cursor then [cursor] else []).findSome? goal := by
  induction cursors with
  | nil => rfl
  | cons cursor cursors ih =>
      simp only [gated, List.map_cons, List.zipWith_cons_cons] at ih ⊢
      rw [ih]
      split <;> simp

private theorem Pattern.findSome?_flatMap (cursors : List Cursor) (f : Cursor → List Cursor)
    (goal : Cursor → Option Cursor) :
    (cursors.flatMap f).findSome? goal =
      cursors.findSome? fun cursor => (f cursor).findSome? goal := by
  induction cursors with
  | nil => rfl
  | cons cursor cursors ih =>
      simp only [List.flatMap_cons, List.findSome?_append, ih, List.findSome?_cons]
      cases (f cursor).findSome? goal <;> rfl

private theorem Pattern.arrivals_all (pattern : Pattern) (previous : Option Char)
    (text : List Char) (goal : Cursor → Option Cursor) :
    pattern.arrivals (Cursor.all previous text) ((Cursor.all previous text).map goal) =
      (Cursor.all previous text).map fun cursor => (pattern.ends cursor).findSome? goal := by
  induction pattern generalizing goal with
  | empty => simp [arrivals, Pattern.ends]
  | lineStart => exact gated_all _ _ _
  | lineEnd => exact gated_all _ _ _
  | one holds => exact afterOne_all _ _ _ _
  | star holds => exact afterMany_all _ _ _ _
  | seq first second ihFirst ihSecond =>
      simp only [arrivals, ihSecond, ihFirst, Pattern.ends, findSome?_flatMap]
  | alt first second ihFirst ihSecond =>
      simp only [arrivals, ihFirst, ihSecond, zipWith_map_all, Pattern.ends,
        List.findSome?_append]

private theorem Pattern.findSome?_some (cursors : List Cursor) :
    cursors.findSome? some = cursors.head? := by
  cases cursors <;> rfl

private theorem Pattern.first?_all (pattern : Pattern) (previous : Option Char)
    (text : List Char) :
    Match.first? text
        ((Cursor.all previous text).map fun cursor => (pattern.ends cursor).head?) =
      pattern.leftmost? previous text := by
  induction text generalizing previous with
  | nil =>
      simp only [Cursor.all, List.map_cons, List.map_nil, Pattern.leftmost?,
        Pattern.matchAt?]
      cases (pattern.ends ⟨previous, []⟩).head? <;> rfl
  | cons c rest ih =>
      simp only [Cursor.all, List.map_cons, Pattern.leftmost?, Pattern.matchAt?]
      cases (pattern.ends ⟨previous, c :: rest⟩).head? with
      | none => simp [Match.first?, ih]
      | some reached => rfl

theorem Pattern.find?_eq_leftmost? (pattern : Pattern) (text : List Char) :
    pattern.find? text = pattern.leftmost? none text := by
  simp only [Pattern.find?, arrivals_all, findSome?_some, first?_all]

end MailQuote
