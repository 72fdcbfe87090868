import Mathlib.Data.List.Basic
import MailQuote.Bodies.Data
import MailQuote.Options.Data

namespace MailQuote

namespace Json

section Strings

/-- Characters that are written as a backslash and one more character. -/
def shortened : List Char :=
  ['"', '\\', '\x08', '\x0c', '\n', '\r', '\t']

/-- What a character of a written string is read as. -/
private def Piece.ofChar (c : Char) : Piece :=
  if c < ' ' ∧ c ∉ shortened then .unit c.toNat else .char c

private theorem escape_shortened {c : Char} (member : c ∈ shortened) :
    ∃ e, escape c = ['\\', e] ∧ escaped? e = some c := by
  simp only [shortened, List.mem_cons, List.not_mem_nil, or_false] at member
  rcases member with rfl | rfl | rfl | rfl | rfl | rfl | rfl <;> exact ⟨_, rfl, rfl⟩

private theorem escape_of_not_shortened {c : Char} (apart : c ∉ shortened) :
    escape c = if c < ' ' then ['\\', 'u', '0', '0'] ++ hexPair c.toNat else [c] := by
  simp only [shortened, List.mem_cons, List.not_mem_nil, or_false, not_or] at apart
  simp [escape, apart]

private theorem unit?_hexPair {value : Nat} (bound : value < 32) :
    unit? '0' '0' (Nat.digitChar (value / 16)) (Nat.digitChar (value % 16)) = some value := by
  revert value
  decide

private theorem readPieces_unit {first second third fourth : Char} {value : Nat}
    (known : unit? first second third fourth = some value) (rest : List Char) :
    readPieces ('\\' :: 'u' :: first :: second :: third :: fourth :: rest) =
      (readPieces rest).map fun (pieces, after) => (.unit value :: pieces, after) := by
  rw [readPieces.eq_def]
  simp only [known]
  cases readPieces rest <;> rfl

private theorem readPieces_escaped {e c : Char} (known : escaped? e = some c) (rest : List Char) :
    readPieces ('\\' :: e :: rest) =
      (readPieces rest).map fun (pieces, after) => (.char c :: pieces, after) := by
  rw [readPieces.eq_def]
  split
  · contradiction
  · next equality => simp at equality
  · next equality =>
      simp only [List.cons.injEq, true_and] at equality
      rw [equality.1] at known
      cases known
  · next equality =>
      cases equality
      rw [known]
      cases readPieces rest <;> rfl
  · next other equality =>
      cases equality
      exact (other e rest rfl rfl).elim

private theorem readPieces_plain {c : Char} (notQuote : c ≠ '"') (notEscape : c ≠ '\\')
    (visible : ¬ c < ' ') (rest : List Char) :
    readPieces (c :: rest) =
      (readPieces rest).map fun (pieces, after) => (.char c :: pieces, after) := by
  rw [readPieces.eq_def]
  split
  · contradiction
  · next equality => exact absurd (List.cons.inj equality).1 notQuote
  · next equality => exact absurd (List.cons.inj equality).1 notEscape
  · next equality => exact absurd (List.cons.inj equality).1 notEscape
  · next equality =>
      cases equality
      rw [if_neg visible]
      cases readPieces rest <;> rfl

private theorem readPieces_escape (c : Char) (rest : List Char) :
    readPieces (escape c ++ rest) =
      (readPieces rest).map fun (pieces, after) => (.ofChar c :: pieces, after) := by
  by_cases member : c ∈ shortened
  · obtain ⟨e, written, known⟩ := escape_shortened member
    rw [written, Piece.ofChar, if_neg fun both => both.2 member]
    exact readPieces_escaped known rest
  · rw [escape_of_not_shortened member, Piece.ofChar]
    by_cases control : c < ' '
    · rw [if_pos control, if_pos ⟨control, member⟩]
      exact readPieces_unit (unit?_hexPair control) rest
    · rw [if_neg control, if_neg fun both => control both.1]
      refine readPieces_plain ?_ ?_ control rest
      · exact fun same => member (same ▸ by decide)
      · exact fun same => member (same ▸ by decide)

private theorem joinPieces_ofChar (c : Char) (pieces : List Piece) :
    joinPieces (.ofChar c :: pieces) = (joinPieces pieces).map (c :: ·) := by
  rw [Piece.ofChar]
  split
  · next control =>
      have low : c.toNat < 32 := control.1
      have notHigh : isHigh c.toNat = false := by
        rw [isHigh, Bool.and_eq_false_iff, decide_eq_false_iff_not]
        omega
      have notLow : isLow c.toNat = false := by
        rw [isLow, Bool.and_eq_false_iff, decide_eq_false_iff_not]
        omega
      have single : joinPieces (.unit c.toNat :: pieces) =
          (joinPieces pieces).map (Char.ofNat c.toNat :: ·) := by
        cases pieces with
        | nil => simp [joinPieces, notHigh, notLow]
        | cons piece others => cases piece <;> simp [joinPieces, notHigh, notLow]
      rw [single, Char.ofNat_toNat]
  · rfl

private theorem readPieces_flatMap_escape (text rest : List Char) :
    readPieces (text.flatMap escape ++ '"' :: rest) = some (text.map .ofChar, rest) := by
  induction text with
  | nil => rfl
  | cons c others ih =>
      rw [List.flatMap_cons, List.append_assoc, readPieces_escape, ih]
      rfl

private theorem joinPieces_map_ofChar (text : List Char) :
    joinPieces (text.map .ofChar) = some text := by
  induction text with
  | nil => rfl
  | cons c others ih =>
      rw [List.map_cons, joinPieces_ofChar, ih]
      rfl

private theorem readString_quote (text : String) (rest : List Char) :
    ∃ body, quote text.toList ++ rest = '"' :: body ∧
      readString body = some (some text, rest) := by
  refine ⟨text.toList.flatMap escape ++ '"' :: rest, ?_, ?_⟩
  · simp [quote]
  · rw [readString, readPieces_flatMap_escape, Option.map_some]
    simp only [joinPieces_map_ofChar, Option.map_some, String.ofList_toList]

end Strings

section Numbers

/-- Whether nothing at the beginning of a text can belong to a number before it. -/
private def EndsNumber (rest : List Char) : Prop :=
  ∀ c ∈ rest.head?, c.isDigit = false ∧ c ∉ ['.', 'e', 'E']

private theorem head_toDigits_ne_zero {count : Nat} (positive : 0 < count) :
    (Nat.toDigits 10 count).head? ≠ some '0' := by
  induction count using Nat.strongRecOn with
  | ind count ih =>
      by_cases small : count < 10
      · have digits : ∀ digit < 10, 0 < digit → [digit.digitChar].head? ≠ some '0' := by decide
        rw [Nat.toDigits_of_lt_base small]
        exact digits count small positive
      · have le : 10 ≤ count := Nat.le_of_not_lt small
        rw [Nat.toDigits_of_base_le (by decide) le,
          List.head?_append_of_ne_nil _ Nat.toDigits_ne_nil]
        exact ih _ (Nat.div_lt_self positive (by decide)) (Nat.div_pos le (by decide))

private theorem digitsValue_toDigits (count : Nat) :
    digitsValue (Nat.toDigits 10 count) = count := by
  have value := @Nat.ofDigitChars_ten_toDigits count
  rw [Nat.ofDigitChars_eq_foldl] at value
  simpa only [digitsValue, digitValue, Nat.mul_comm] using value

private theorem takeWhile_isDigit {digits rest : List Char} (all : ∀ c ∈ digits, c.isDigit = true)
    (ends : EndsNumber rest) :
    (digits ++ rest).takeWhile Char.isDigit = digits ∧
      (digits ++ rest).dropWhile Char.isDigit = rest := by
  rw [List.takeWhile_append_of_pos all, List.dropWhile_append_of_pos all]
  cases rest with
  | nil => simp
  | cons c others =>
      have other := (ends c rfl).1
      rw [List.takeWhile_cons, List.dropWhile_cons, other]
      simp

private theorem readWhole_toDigits (count : Nat) {rest : List Char} (ends : EndsNumber rest) :
    readWhole (Nat.toDigits 10 count ++ rest) = some (Nat.toDigits 10 count, rest) := by
  have all : ∀ c ∈ Nat.toDigits 10 count, c.isDigit = true := fun c member =>
    Nat.isDigit_of_mem_toDigits (by decide) (by decide) member
  obtain ⟨taken, dropped⟩ := takeWhile_isDigit all ends
  rw [readWhole, taken, dropped]
  split
  · next none => exact absurd none Nat.toDigits_ne_nil
  · next zero =>
      rcases Nat.eq_zero_or_pos count with rfl | positive
      · rw [Nat.toDigits_zero] at zero
        cases zero
      · exact absurd (congrArg List.head? zero) (head_toDigits_ne_zero positive)
  · rfl

private theorem readNumber_toDigits (count : Nat) {rest : List Char} (ends : EndsNumber rest) :
    readNumber false (Nat.toDigits 10 count ++ rest) =
      some (⟨false, Nat.toDigits 10 count, none, none⟩, rest) := by
  have fraction : readFraction rest = some (none, rest) := by
    cases rest with
    | nil => rfl
    | cons c others =>
        have other := (ends c rfl).2
        rw [readFraction.eq_def]
        split
        · next equality => simp [(List.cons.inj equality).1] at other
        · rfl
  have exponent : readExponent rest = some (none, rest) := by
    cases rest with
    | nil => rfl
    | cons c others =>
        have other := (ends c rfl).2
        have notMark : ¬ (c = 'e' ∨ c = 'E') := by
          rintro (rfl | rfl) <;> simp at other
        simp only [readExponent, if_neg notMark]
  rw [readNumber, readWhole_toDigits count ends]
  simp [fraction, exponent]

private theorem quantity_nat {count : Nat} (small : count < 0x10000000000000000) :
    Number.quantity ⟨false, Nat.toDigits 10 count, none, none⟩ = .integer count := by
  simp [Number.quantity, digitsValue_toDigits, small]

end Numbers

section Values

mutual
/-- Whether a value is made up of records of the values that fields have. -/
def Value.IsPlain : Value → Prop
  | .null => True
  | .bool _ => True
  | .number value => ∃ count, value = ⟨false, Nat.toDigits 10 count, none, none⟩
  | .string value => value.isSome = true
  | .object members => members.IsPlain
  | .array _ => False
  | .broken => False

def Members.IsPlain : Members → Prop
  | .done => True
  | .stray _ => False
  | .cons key value tail => key.isSome = true ∧ value.IsPlain ∧ tail.IsPlain
end

private theorem skipSpace_of_not_isSpace {c : Char} (visible : isSpace c = false)
    (rest : List Char) :
    skipSpace (c :: rest) = c :: rest := by
  rw [skipSpace, List.dropWhile_cons, visible]
  rfl

private theorem readValue_toDigits (count : Nat) {rest : List Char} (ends : EndsNumber rest)
    (fuel : Nat) :
    readValue (fuel + 1) (Nat.toDigits 10 count ++ rest) =
      (.number ⟨false, Nat.toDigits 10 count, none, none⟩, rest) := by
  have read : readNumeral false (Nat.toDigits 10 count ++ rest) =
      (.number ⟨false, Nat.toDigits 10 count, none, none⟩, rest) := by
    rw [readNumeral, readNumber_toDigits count ends]
  have digit : ∀ c ∈ Nat.toDigits 10 count, c.isDigit = true := fun c member =>
    Nat.isDigit_of_mem_toDigits (by decide) (by decide) member
  obtain ⟨c, others, digits⟩ := List.exists_cons_of_ne_nil (@Nat.toDigits_ne_nil count 10)
  have isDigit : c.isDigit = true := digit c (digits ▸ .head _)
  have other {d : Char} (noDigit : d.isDigit = false) : c ≠ d := by
    rintro rfl
    rw [isDigit] at noDigit
    cases noDigit
  have visible : isSpace c = false := by
    have blank : c ≠ ' ' ∧ c ≠ '\n' ∧ c ≠ '\t' ∧ c ≠ '\r' :=
      ⟨other rfl, other rfl, other rfl, other rfl⟩
    simpa [isSpace, and_assoc] using blank
  rw [digits, List.cons_append] at read ⊢
  rw [readValue, skipSpace_of_not_isSpace visible]
  split
  · next equality => cases equality
  · next equality => exact absurd (List.cons.inj equality).1 (other rfl)
  · next equality => exact absurd (List.cons.inj equality).1 (other rfl)
  · next equality => exact absurd (List.cons.inj equality).1 (other rfl)
  · next equality => exact absurd (List.cons.inj equality).1 (other rfl)
  · next equality => exact absurd (List.cons.inj equality).1 (other rfl)
  · next equality => exact absurd (List.cons.inj equality).1 (other rfl)
  · next equality => exact absurd (List.cons.inj equality).1 (other rfl)
  · exact read

private theorem Members.write_cons (key : Option String) (value : Value) (tail : Members) :
    ∃ body, (Members.cons key value tail).write = '"' :: body := by
  cases tail with
  | done => exact ⟨_, rfl⟩
  | stray => exact ⟨_, rfl⟩
  | cons => exact ⟨_, rfl⟩

mutual
private theorem readValue_write :
    (value : Value) → value.IsPlain → ∀ {fuel : Nat} {rest : List Char},
    value.write.length < fuel → EndsNumber rest →
      readValue fuel (value.write ++ rest) = (value, rest)
  | .null, _, fuel + 1, rest, enough, _ => rfl
  | .bool true, _, fuel + 1, rest, enough, _ => rfl
  | .bool false, _, fuel + 1, rest, enough, _ => rfl
  | .number _, ⟨count, rfl⟩, fuel + 1, rest, _, ends => by
      have written : (Value.number ⟨false, Nat.toDigits 10 count, none, none⟩).write =
          Nat.toDigits 10 count := by
        simp [Value.write, Number.write]
      rw [written]
      exact readValue_toDigits count ends fuel
  | .string (some text), _, fuel + 1, rest, _, _ => by
      obtain ⟨body, written, read⟩ := readString_quote text rest
      rw [Value.write, Option.getD_some, written, readValue,
        skipSpace_of_not_isSpace (by decide)]
      simp only [read]
  | .object .done, _, fuel + 1, rest, _, _ => rfl
  | .object (.cons key value tail), plain, fuel + 1, rest, enough, _ => by
      obtain ⟨body, begins⟩ := Members.write_cons key value tail
      have read : readMembers fuel ((Members.cons key value tail).write ++ rest) =
          (.cons key value tail, rest) :=
        readMembers_write (.cons key value tail) plain nofun (Nat.lt_of_succ_lt_succ enough)
      have quoteMark : isSpace '"' = false := rfl
      rw [begins, List.cons_append] at read
      rw [Value.write, begins, List.cons_append, readValue, skipSpace_of_not_isSpace rfl]
      simp only [List.cons_append, skipSpace_of_not_isSpace quoteMark]
      split
      · next equality => cases equality
      · rw [read]

private theorem readMembers_write : (members : Members) → members.IsPlain → members ≠ .done →
    ∀ {fuel : Nat} {rest : List Char}, members.write.length < fuel →
      readMembers fuel (members.write ++ rest) = (members, rest)
  | .done, _, notDone, _, _, _ => absurd rfl notDone
  | .cons (some key) value .done, ⟨_, plain, _⟩, _, fuel + 1, rest, enough => by
      obtain ⟨body, written, readKey⟩ :=
        readString_quote key (':' :: (value.write ++ '\x7d' :: rest))
      have whole : (Members.cons (some key) value .done).write ++ rest =
          quote key.toList ++ ':' :: (value.write ++ '\x7d' :: rest) := by
        simp [Members.write]
      have read : readValue fuel (value.write ++ '\x7d' :: rest) = (value, '\x7d' :: rest) := by
        apply readValue_write value plain
        · simp only [Members.write, List.length_append, List.length_cons] at enough
          omega
        · rintro c ⟨⟩
          decide
      rw [whole, written, readMembers]
      simp only [readKey, skipSpace_of_not_isSpace (show isSpace ':' = false from rfl), read,
        skipSpace_of_not_isSpace (show isSpace '\x7d' = false from rfl)]
  | .cons (some key) value (.cons key' value' tail), ⟨_, plain, plain'⟩, _, fuel + 1, rest,
      enough => by
      let tail' := Members.cons key' value' tail
      obtain ⟨body, begins⟩ := Members.write_cons key' value' tail
      obtain ⟨body', written, readKey⟩ :=
        readString_quote key (':' :: (value.write ++ ',' :: (tail'.write ++ rest)))
      have whole : (Members.cons (some key) value tail').write ++ rest =
          quote key.toList ++ ':' :: (value.write ++ ',' :: (tail'.write ++ rest)) := by
        simp [Members.write, tail']
      have size : value.write.length + tail'.write.length < fuel := by
        change (quote key.toList ++ ':' :: value.write ++ ',' :: tail'.write).length < _ at enough
        simp only [List.length_append, List.length_cons] at enough
        omega
      have read : readValue fuel (value.write ++ ',' :: (tail'.write ++ rest)) =
          (value, ',' :: (tail'.write ++ rest)) := by
        apply readValue_write value plain (Nat.lt_of_le_of_lt (Nat.le_add_right _ _) size)
        rintro c ⟨⟩
        decide
      have readTail : readMembers fuel (tail'.write ++ rest) = (tail', rest) :=
        readMembers_write tail' plain' nofun (Nat.lt_of_le_of_lt (Nat.le_add_left _ _) size)
      have skipTail : skipSpace (tail'.write ++ rest) = tail'.write ++ rest := by
        rw [begins]
        exact skipSpace_of_not_isSpace rfl _
      rw [whole, written, readMembers]
      simp only [readKey, skipSpace_of_not_isSpace (show isSpace ':' = false from rfl), read,
        skipSpace_of_not_isSpace (show isSpace ',' = false from rfl), skipTail, readTail, tail']
end

mutual
private theorem Value.isWhole_of_isPlain : (value : Value) → value.IsPlain → value.isWhole = true
  | .null, _ => rfl
  | .bool _, _ => rfl
  | .number _, _ => rfl
  | .string _, _ => rfl
  | .object members, plain => members.isWhole_of_isPlain plain

private theorem Members.isWhole_of_isPlain :
    (members : Members) → members.IsPlain → members.isWhole = true
  | .done, _ => rfl
  | .cons _ value tail, ⟨_, plain, plain'⟩ => by
      rw [Members.isWhole, value.isWhole_of_isPlain plain, tail.isWhole_of_isPlain plain']
      rfl
end

private theorem ofText_write {value : Value} (plain : value.IsPlain) :
    Source.ofText value.write = ⟨value, true⟩ := by
  have enough : value.write.length < 2 * value.write.length + 2 := by omega
  have read : readValue _ (value.write ++ []) = (value, []) :=
    readValue_write value plain enough nofun
  rw [List.append_nil] at read
  rw [Source.ofText, read]
  rfl

private theorem parse?_render {value : Value} (plain : value.IsPlain) :
    parse? value.render = some value := by
  have source : Source.ofText value.render.toList = ⟨value, true⟩ := by
    rw [Value.render, String.toList_ofList, ofText_write plain]
  simp only [parse?, source, value.isWhole_of_isPlain plain, Bool.and_self, if_true]

/-- What is read of a text depends on its value only, whatever white space stands between
the tokens and however the characters of its strings are written. -/
theorem read_of_parse? {text : String} {value : Value} (parsed : parse? text = some value)
    (decode : Value → Except Fault α) : Json.read decode text = decode value := by
  rw [parse?] at parsed
  split at parsed
  · next whole =>
      obtain ⟨ended, -⟩ := Bool.and_eq_true_iff.mp whole
      cases parsed
      rw [Json.read, ended]
      cases decode (Source.ofText text.toList).value <;> rfl
  · cases parsed

private theorem isWhole_of_parse? {text : String} {value : Value}
    (parsed : parse? text = some value) :
    value.isWhole = true := by
  rw [parse?] at parsed
  split at parsed
  · next whole =>
      cases parsed
      exact (Bool.and_eq_true_iff.mp whole).2
  · cases parsed

private theorem Members.isPlain_ofList {members : List (String × Value)}
    (plain : ∀ member ∈ members, member.2.IsPlain) : (Members.ofList members).IsPlain := by
  induction members with
  | nil => trivial
  | cons first others ih =>
      obtain ⟨here, there⟩ := List.forall_mem_cons.mp plain
      exact ⟨rfl, here, ih there⟩

private theorem Members.isWhole_of_mem {members : List (String × Value)}
    (whole : (Members.ofList members).isWhole = true) {member : String × Value}
    (isMember : member ∈ members) : member.2.isWhole = true := by
  induction isMember with
  | head => exact (Bool.and_eq_true_iff.mp whole).1
  | tail _ _ ih => exact ih (Bool.and_eq_true_iff.mp whole).2

end Values

end Json

open Json

private theorem Mode.toNamed_name (mode : Mode) :
    Value.toNamed Mode.table (.text mode.name) = .ok mode := by
  cases mode <;> rfl

private theorem Method.toNamed_name (method : Method) :
    Value.toNamed Method.table (.text method.name) = .ok method := by
  cases method <;> rfl

private theorem Depth.isPlain_toValue (depth : Depth) : depth.toValue.IsPlain := by
  cases depth with
  | levels max => exact ⟨max.toNat, rfl⟩
  | infinite => rfl

private theorem Depth.ofValue_toValue (depth : Depth) :
    Depth.ofValue depth.toValue = .ok depth := by
  cases depth with
  | levels max =>
      have small : max.toNat < 0x100000000 := max.toNat_lt
      have quantity := quantity_nat (Nat.lt_trans small (by decide))
      have small' : (max.toNat : Int) < 0x100000000 := Int.ofNat_lt.mpr small
      simp [Depth.toValue, Value.nat, Depth.ofValue, Value.isSound, Number.inRange, quantity,
        Value.nesting, small']
  | infinite => rfl

namespace Options

/-- The fields of options. -/
inductive Field where
  | mode
  | ignoreFirstForward
  | depth
  | label
deriving DecidableEq

/-- A member of an object that options are read from: a field, or something else. -/
inductive Entry where
  | known (field : Field)
  | other (key : String) (value : Value)

def Field.key : Field → String
  | .mode => "mode"
  | .ignoreFirstForward => "ignore_first_forward"
  | .depth => "depth"
  | .label => "label"

def Field.value (options : Options) : Field → Value
  | .mode => .text options.mode.name
  | .ignoreFirstForward => .bool options.ignoreFirstForward
  | .depth => options.depth.toValue
  | .label => .text options.label

def Entry.member (options : Options) : Entry → String × Value
  | .known field => (field.key, field.value options)
  | .other key value => (key, value)

def Entry.field? : Entry → Option Field
  | .known field => some field
  | .other .. => none

/-- Whether a member is passed over where options are read. -/
structure IsPassedOver (key : String) (value : Value) : Prop where
  apart : ∀ field : Field, key ≠ field.key
  whole : value.isWhole = true

/-- The default options with given fields of other options. -/
def only (options : Options) (fields : List Field) : Options :=
  let default : Options := {}
  { mode := if .mode ∈ fields then options.mode else default.mode
    ignoreFirstForward :=
      if .ignoreFirstForward ∈ fields then options.ignoreFirstForward
      else default.ignoreFirstForward
    depth := if .depth ∈ fields then options.depth else default.depth
    label := if .label ∈ fields then options.label else default.label }

/-- What has been read after given fields of options. -/
def Draft.only (options : Options) (fields : List Field) : Draft where
  mode := if .mode ∈ fields then some options.mode else none
  ignoreFirstForward :=
    if .ignoreFirstForward ∈ fields then some options.ignoreFirstForward else none
  depth := if .depth ∈ fields then some options.depth else none
  label := if .label ∈ fields then some options.label else none

section Reading

variable {options : Options} {fields : List Field}

private theorem getD_ite (condition : Prop) [Decidable condition] (value default : α) :
    (if condition then some value else none).getD default =
      if condition then value else default := by
  split <;> rfl

private theorem Draft.finish_only (options : Options) (fields : List Field) :
    (Draft.only options fields).finish = options.only fields := by
  simp only [Draft.finish, Draft.only, Options.only, getD_ite]

private theorem Draft.only_congr {others : List Field}
    (same : ∀ field, field ∈ fields ↔ field ∈ others) :
    Draft.only options fields = Draft.only options others := by
  simp only [Draft.only, same]

private theorem Draft.read_field {field : Field} (new : field ∉ fields) :
    (Draft.only options fields).read field.key (field.value options) =
      .ok (Draft.only options (field :: fields)) := by
  cases field with
  | mode =>
      have read := Mode.toNamed_name options.mode
      simp [Draft.read, Field.key, Field.value, Draft.only, once, new, read, Except.map]
  | ignoreFirstForward =>
      simp [Draft.read, Field.key, Field.value, Draft.only, once, new, Value.toBool, Except.map]
  | depth =>
      have read := Depth.ofValue_toValue options.depth
      simp [Draft.read, Field.key, Field.value, Draft.only, once, new, read, Except.map]
  | label =>
      simp [Draft.read, Field.key, Field.value, Draft.only, once, new, Value.text, Value.toText,
        Except.map]

private theorem Field.isPlain_value (field : Field) (options : Options) :
    (field.value options).IsPlain := by
  cases field with
  | mode => rfl
  | ignoreFirstForward => trivial
  | depth => exact options.depth.isPlain_toValue
  | label => rfl

private theorem IsPassedOver.read {key : String} {value : Value} (passed : IsPassedOver key value)
    (draft : Draft) : draft.read key value = .ok draft := by
  have mode : key ≠ "mode" := passed.apart .mode
  have ignoreFirstForward : key ≠ "ignore_first_forward" := passed.apart .ignoreFirstForward
  have depth : key ≠ "depth" := passed.apart .depth
  have label : key ≠ "label" := passed.apart .label
  rw [Draft.read, if_neg mode, if_neg ignoreFirstForward, if_neg depth, if_neg label, ignored,
    if_pos passed.whole]

/-- Reading members one after another adds the fields among them. -/
theorem Draft.read_entries {entries : List Entry}
    (once : (entries.filterMap Entry.field?).Nodup)
    (new : ∀ field ∈ entries.filterMap Entry.field?, field ∉ fields)
    (others : ∀ key value, .other key value ∈ entries → IsPassedOver key value) :
    (Members.ofList (entries.map (Entry.member options))).read Draft.read
        (Draft.only options fields) =
      .ok (Draft.only options (entries.filterMap Entry.field? ++ fields)) := by
  induction entries generalizing fields with
  | nil => rfl
  | cons first entries ih =>
      have later : ∀ key value, .other key value ∈ entries → IsPassedOver key value :=
        fun key value member => others key value (.tail _ member)
      cases first with
      | known field =>
          have known : Entry.field? (.known field) = some field := rfl
          rw [List.filterMap_cons_some known] at once new ⊢
          obtain ⟨unseen, once⟩ := List.nodup_cons.mp once
          obtain ⟨newField, new⟩ := List.forall_mem_cons.mp new
          have new' : ∀ other ∈ entries.filterMap Entry.field?, other ∉ field :: fields := by
            intro other member
            rw [List.mem_cons, not_or]
            exact ⟨fun same => unseen (same ▸ member), new other member⟩
          simp only [List.map_cons, Entry.member, Members.ofList, Members.read,
            Draft.read_field newField, ih once new' later]
          apply congrArg Except.ok
          apply Draft.only_congr
          intro other
          simp only [List.cons_append, List.mem_cons, List.mem_append]
          exact or_left_comm
      | other key value =>
          rw [List.filterMap_cons_none rfl] at once new ⊢
          have passed : IsPassedOver key value := others key value (.head _)
          simp only [List.map_cons, Entry.member, Members.ofList, Members.read, passed.read,
            ih once new later]

private theorem ofValue_entries {entries : List Entry}
    (once : (entries.filterMap Entry.field?).Nodup)
    (others : ∀ key value, .other key value ∈ entries → IsPassedOver key value) :
    Options.ofValue (.record (entries.map (Entry.member options))) =
      .ok (options.only (entries.filterMap Entry.field?)) := by
  have start : Draft.only options [] = {} := rfl
  have read := @Draft.read_entries options [] entries once (fun _ _ => List.not_mem_nil) others
  rw [start, List.append_nil] at read
  rw [Value.record, Options.ofValue, read, ← Draft.finish_only]
  rfl

private theorem isPlain_entries {entries : List Entry}
    (plain : ∀ key value, .other key value ∈ entries → value.IsPlain) :
    (Value.record (entries.map (Entry.member options))).IsPlain := by
  apply Members.isPlain_ofList
  intro member isMember
  obtain ⟨entry, known, rfl⟩ := List.mem_map.mp isMember
  cases entry with
  | known field => exact field.isPlain_value options
  | other key value => exact plain key value known

/-- The members that options are written as. -/
private def written : List Entry :=
  [.known .mode, .known .ignoreFirstForward, .known .depth, .known .label]

private theorem toValue_eq (options : Options) :
    options.toValue = .record (written.map (Entry.member options)) := rfl

private theorem only_written (options : Options) :
    options.only (written.filterMap Entry.field?) = options := rfl

end Reading

end Options

namespace Outcome

private theorem isPlain_toValue (outcome : Outcome) : outcome.toValue.IsPlain := by
  apply Members.isPlain_ofList
  simp only [List.forall_mem_cons, List.not_mem_nil, IsEmpty.forall_iff, implies_true, and_true]
  refine ⟨rfl, trivial, ?_⟩
  cases outcome.method with
  | none => trivial
  | some method => rfl

private theorem toOption_method (method : Option Method) :
    Value.toOption (Value.toNamed Method.table) (Method.optionToValue method) = .ok method := by
  cases method with
  | none => rfl
  | some method =>
      have read := Method.toNamed_name method
      rw [Method.optionToValue]
      change (Value.toNamed Method.table (.text method.name)).map some = _
      rw [read]
      rfl

private theorem ofValue_toValue (outcome : Outcome) :
    Outcome.ofValue outcome.toValue = .ok outcome := by
  have method := toOption_method outcome.method
  simp [Outcome.toValue, Value.record, Members.ofList, Outcome.ofValue, Members.read, Draft.read,
    once, method, Value.text, Value.toText, Value.toBool, Except.map, Draft.finish]

private theorem isPlain_optionToValue (outcome : Option Outcome) :
    (Outcome.optionToValue outcome).IsPlain := by
  cases outcome with
  | none => trivial
  | some outcome => exact outcome.isPlain_toValue

private theorem toOption_optionToValue (outcome : Option Outcome) :
    Value.toOption Outcome.ofValue (Outcome.optionToValue outcome) = .ok outcome := by
  cases outcome with
  | none => rfl
  | some outcome =>
      change (Outcome.ofValue outcome.toValue).map some = _
      rw [ofValue_toValue]
      rfl

end Outcome

namespace Bodies

private theorem isPlain_toValue (bodies : Bodies) : bodies.toValue.IsPlain := by
  apply Members.isPlain_ofList
  simp only [List.forall_mem_cons, List.not_mem_nil, IsEmpty.forall_iff, implies_true, and_true]
  exact ⟨Outcome.isPlain_optionToValue _, Outcome.isPlain_optionToValue _⟩

private theorem ofValue_toValue (bodies : Bodies) : Bodies.ofValue bodies.toValue = .ok bodies := by
  have html := Outcome.toOption_optionToValue bodies.html
  have text := Outcome.toOption_optionToValue bodies.text
  simp [Bodies.toValue, Value.record, Members.ofList, Bodies.ofValue, Members.read, Draft.read,
    once, html, text, Except.map, Draft.finish]

end Bodies

namespace Options

private theorem ofJson_entries {options : Options} {entries : List Entry}
    (once : (entries.filterMap Entry.field?).Nodup)
    (apart : ∀ key value, .other key value ∈ entries → ∀ field : Field, key ≠ field.key)
    {text : String} (parsed : parse? text = some (.record (entries.map (Entry.member options)))) :
    Options.ofJson text = .ok (options.only (entries.filterMap Entry.field?)) := by
  rw [Options.ofJson, read_of_parse? parsed]
  refine ofValue_entries once fun key value member => ⟨apart key value member, ?_⟩
  exact Members.isWhole_of_mem (isWhole_of_parse? parsed) (List.mem_map_of_mem member)

private theorem ofJson_toJson (options : Options) :
    Options.ofJson options.toJson = .ok options := by
  have plain := @isPlain_entries options written (by simp [written])
  have read := ofJson_entries (by decide) (by simp [written]) (parse?_render plain)
  rw [only_written, ← toValue_eq] at read
  exact read

end Options

/-- Options are read from any JSON text of an object that holds some of their fields, each
once, in any order and among members that are none of them: the other fields have their
default values. In particular every record is read back from its own JSON form. -/
theorem Options.ofJson_exact (options : Options) {entries : List Entry}
    (once : (entries.filterMap Entry.field?).Nodup)
    (apart : ∀ key value, .other key value ∈ entries → ∀ field : Field, key ≠ field.key) :
    let value := Value.record (entries.map (Entry.member options))
    let fields := entries.filterMap Entry.field?
    (∀ text, parse? text = some value → Options.ofJson text = .ok (options.only fields)) ∧
      ((∀ key value, .other key value ∈ entries → value.IsPlain) →
        Options.ofJson value.render = .ok (options.only fields)) ∧
      Options.ofJson options.toJson = .ok options ∧
      (∀ outcome : Outcome, Outcome.ofJson outcome.toJson = .ok outcome) ∧
      ∀ bodies : Bodies, Bodies.ofJson bodies.toJson = .ok bodies := by
  intro value fields
  refine ⟨?text, ?rendered, options.ofJson_toJson, ?outcome, ?bodies⟩
  case text => exact fun text parsed => ofJson_entries once apart parsed
  case rendered =>
    intro plain
    exact ofJson_entries once apart (parse?_render (isPlain_entries plain))
  case outcome =>
    intro outcome
    rw [Outcome.ofJson, Outcome.toJson, read_of_parse? (parse?_render outcome.isPlain_toValue)]
    exact outcome.ofValue_toValue
  case bodies =>
    intro bodies
    rw [Bodies.ofJson, Bodies.toJson, read_of_parse? (parse?_render bodies.isPlain_toValue)]
    exact bodies.ofValue_toValue

theorem Options.ofJson_exact_sample :
    let options : Options := { mode := .wrap, depth := .levels 2, label := "\"é\n" }
    let text := "\x7b\"label\":\"\\\"é\\n\",\"note\":null,\"depth\":2\x7d"
    Options.ofJson text = .ok { depth := .levels 2, label := "\"é\n" } ∧
      Options.ofJson options.toJson = .ok options := by
  intro options text
  let entries : List Entry := [.known .label, .other "note" .null, .known .depth]
  have once : (entries.filterMap Entry.field?).Nodup := by decide
  have other : ∀ key value, .other key value ∈ entries → key = "note" ∧ value = .null := by
    intro key value member
    simpa [entries] using member
  have apart : ∀ key value, .other key value ∈ entries → ∀ field : Field, key ≠ field.key := by
    intro key value member field
    rw [(other key value member).1]
    cases field <;> decide
  have plain : ∀ key value, .other key value ∈ entries → value.IsPlain := by
    intro key value member
    rw [(other key value member).2]
    trivial
  have rendered : (Value.record (entries.map (Entry.member options))).render = text := by
    decide
  obtain ⟨-, read, whole, -⟩ := Options.ofJson_exact options once apart
  exact ⟨rendered ▸ read plain, whole⟩

end MailQuote
