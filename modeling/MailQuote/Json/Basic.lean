namespace MailQuote

namespace Json

/-- A number as it is written: a whole part, and a fraction and an exponent if
they are given. -/
structure Number where
  negative : Bool
  whole : List Char
  fraction : Option (List Char)
  exponent : Option Int
deriving DecidableEq, Repr

mutual
inductive Value where
  | null
  | bool (value : Bool)
  | number (value : Number)
  /-- a string, or none if it has half of a surrogate pair in it -/
  | string (value : Option String)
  | array (items : Items)
  | object (members : Members)
  /-- the text breaks off in the value -/
  | broken

inductive Items where
  | done
  /-- the text breaks off between two elements -/
  | broken
  | cons (head : Value) (tail : Items)

/-- The members of an object, in the order of the text. -/
inductive Members where
  | done
  /-- something other than a member stands where a member should -/
  | stray (found : Value)
  | cons (key : Option String) (value : Value) (tail : Members)
end

def Items.ofList : List Value → Items
  | [] => .done
  | value :: others => .cons value (Items.ofList others)

def Members.ofList : List (String × Value) → Members
  | [] => .done
  | (key, value) :: others => .cons (some key) value (Members.ofList others)

namespace Value

def text (value : String) : Value :=
  .string (some value)

def nat (value : Nat) : Value :=
  .number ⟨false, Nat.toDigits 10 value, none, none⟩

def list (values : List Value) : Value :=
  .array (.ofList values)

def record (members : List (String × Value)) : Value :=
  .object (.ofList members)

end Value

mutual
def Value.isWhole : Value → Bool
  | .array items => items.isWhole
  | .object members => members.isWhole
  | .broken => false
  | _ => true

def Items.isWhole : Items → Bool
  | .done => true
  | .broken => false
  | .cons head tail => head.isWhole && tail.isWhole

def Members.isWhole : Members → Bool
  | .done => true
  | .stray _ => false
  | .cons _ value tail => value.isWhole && tail.isWhole
end

mutual
def Value.nesting : Value → Nat
  | .array items => items.nesting + 1
  | .object members => members.nesting + 1
  | _ => 0

def Items.nesting : Items → Nat
  | .cons head tail => max head.nesting tail.nesting
  | _ => 0

def Members.nesting : Members → Nat
  | .cons _ value tail => max value.nesting tail.nesting
  | _ => 0
end

/-- The hexadecimal digits of a number below 256, two of them. -/
def hexPair (value : Nat) : List Char :=
  [Nat.digitChar (value / 16), Nat.digitChar (value % 16)]

/-- A character inside a string: quotes, backslashes and control characters are
escaped. -/
def escape (c : Char) : List Char :=
  if c = '"' then ['\\', '"']
  else if c = '\\' then ['\\', '\\']
  else if c = '\x08' then ['\\', 'b']
  else if c = '\x0c' then ['\\', 'f']
  else if c = '\n' then ['\\', 'n']
  else if c = '\r' then ['\\', 'r']
  else if c = '\t' then ['\\', 't']
  else if c < ' ' then ['\\', 'u', '0', '0'] ++ hexPair c.toNat
  else [c]

def quote (text : List Char) : List Char :=
  '"' :: text.flatMap escape ++ ['"']

def Number.write (number : Number) : List Char :=
  (if number.negative then ['-'] else []) ++ number.whole ++
    (match number.fraction with
    | some digits => '.' :: digits
    | none => []) ++
    (match number.exponent with
    | some power => 'e' :: (toString power).toList
    | none => [])

mutual
def Value.write : Value → List Char
  | .null => ['n', 'u', 'l', 'l']
  | .bool true => ['t', 'r', 'u', 'e']
  | .bool false => ['f', 'a', 'l', 's', 'e']
  | .number value => value.write
  | .string value => quote (value.getD "").toList
  | .array items => '[' :: items.write
  | .object members => '\x7b' :: members.write
  | .broken => []

def Items.write : Items → List Char
  | .done => [']']
  | .broken => []
  | .cons head .done => head.write ++ [']']
  | .cons head tail => head.write ++ ',' :: tail.write

def Members.write : Members → List Char
  | .done => ['\x7d']
  | .stray _ => []
  | .cons key value .done =>
      quote (key.getD "").toList ++ ':' :: value.write ++ ['\x7d']
  | .cons key value tail =>
      quote (key.getD "").toList ++ ':' :: value.write ++ ',' :: tail.write
end

def Value.render (value : Value) : String :=
  String.ofList value.write

end Json

/-! The shortest decimal that reads back as a given double. A finite double is
a multiple of a power of two; the reals that round to it form an interval, and
on the grids of one, two, … seventeen digits the first grid with a point in
the interval gives the digits. -/

namespace Decimal

structure Ratio where
  num : Nat
  den : Nat

def Ratio.scaled (num : Nat) (exponent : Int) : Ratio :=
  if exponent < 0 then ⟨num, Nat.pow 2 exponent.natAbs⟩
  else ⟨num * Nat.pow 2 exponent.natAbs, 1⟩

def Ratio.lt (first second : Ratio) : Bool :=
  first.num * second.den < second.num * first.den

def Ratio.decimal (digits : Nat) (exponent : Int) : Ratio :=
  if exponent < 0 then ⟨digits, Nat.pow 10 exponent.natAbs⟩
  else ⟨digits * Nat.pow 10 exponent.natAbs, 1⟩

/-- A finite double other than zero: its value `mantissa · 2^exponent`, and the
bounds of the reals that round to it. -/
structure Binary where
  mantissa : Nat
  exponent : Int
  lower : Ratio
  upper : Ratio

/-- The number of fractions that the bits of a double tell apart. -/
def fractionSize : Nat := 0x10000000000000

def signBit : Nat := 0x8000000000000000

def Binary.ofBits (bits : Nat) : Binary :=
  let field : Nat := bits / fractionSize % 0x800
  let fraction : Nat := bits % fractionSize
  let mantissa : Nat := if field = 0 then fraction else fraction + fractionSize
  let exponent : Int := Int.ofNat (if field = 0 then 1 else field) - 1075
  let below := if fraction = 0 ∧ 1 < field then (4 * mantissa - 1, exponent - 2)
    else (2 * mantissa - 1, exponent - 1)
  ⟨mantissa, exponent, .scaled below.1 below.2, .scaled (2 * mantissa + 1) (exponent - 1)⟩

def Binary.holds (double : Binary) (value : Ratio) : Bool :=
  if double.mantissa % 2 = 0 then
    !value.lt double.lower && !double.upper.lt value
  else double.lower.lt value && value.lt double.upper

/-- The multiples of `10^exponent` next below and above the double that round
to it, the nearer first. -/
def Binary.hits (double : Binary) (exponent : Int) : List Nat :=
  let value := Ratio.scaled double.mantissa double.exponent
  let unit := Ratio.decimal 1 exponent
  let num := value.num * unit.den
  let den := value.den * unit.num
  let down := num / den
  let nearer := if 2 * (num % den) ≤ den then [down, down + 1] else [down + 1, down]
  nearer.filter fun digits => digits ≠ 0 && double.holds (.decimal digits exponent)

/-- The greatest exponent of ten whose power does not exceed the double. -/
def Binary.magnitude (double : Binary) : Int :=
  let value := Ratio.scaled double.mantissa double.exponent
  let guess : Int := (Nat.toDigits 10 value.num).length - (Nat.toDigits 10 value.den).length
  if value.lt (.decimal 1 guess) then guess - 1 else guess

/-- The digits and the exponent of ten of the first grid, from the given
exponent downwards, that has a point which rounds to the double. -/
def Binary.search (double : Binary) : (fuel : Nat) → (exponent : Int) → Nat × Int
  | 0, exponent => (0, exponent)
  | fuel + 1, exponent =>
      match double.hits exponent with
      | digits :: _ => (digits, exponent)
      | [] => double.search fuel (exponent - 1)

/-- The fewest digits, and the exponent of ten of the last of them, that read
back as the double. -/
def Binary.shortest (double : Binary) : Nat × Int :=
  double.search 20 (double.magnitude + 1)

/-- Digits without trailing zeros, and the exponent of ten of the last one. -/
def strip (digits : List Char) (exponent : Int) : List Char × Int :=
  let kept := (digits.reverse.dropWhile (· == '0')).reverse
  (kept, exponent + (digits.length - kept.length : Nat))

/-- The text of digits with a point or an exponent. Positions from `10^-5` to
below `10^16` are written out, with a digit on each side of the point. -/
def layout (digits : List Char) (exponent : Int) : List Char :=
  let point := exponent + digits.length
  if 0 ≤ exponent ∧ point ≤ 16 then
    digits ++ List.replicate exponent.toNat '0' ++ ['.', '0']
  else if 0 < point ∧ point ≤ 16 then
    digits.take point.toNat ++ '.' :: digits.drop point.toNat
  else if -5 < point ∧ point ≤ 0 then
    ['0', '.'] ++ List.replicate point.natAbs '0' ++ digits
  else
    let power := (toString (point - 1)).toList
    match digits with
    | [single] => single :: 'e' :: power
    | first :: others => first :: '.' :: others ++ 'e' :: power
    | [] => []

def text (value : Float) : String :=
  let bits := value.toBits.toNat
  let sign := if signBit ≤ bits then ['-'] else []
  let magnitude := bits % signBit
  if magnitude = 0 then String.ofList (sign ++ ['0', '.', '0'])
  else
    let (digits, exponent) := (Binary.ofBits magnitude).shortest
    let (kept, last) := strip (Nat.toDigits 10 digits) exponent
    String.ofList (sign ++ layout kept last)

end Decimal

namespace Json

inductive Quantity where
  | integer (value : Int)
  | float (value : Float)
  /-- too large for a double -/
  | excessive

def digitValue (c : Char) : Nat :=
  c.toNat - '0'.toNat

def digitsValue (digits : List Char) : Nat :=
  digits.foldl (fun value c => value * 10 + digitValue c) 0

/-- The value of leading digits, as many as fit into 64 bits, and the number of
digits left over. -/
def significand : (value : Nat) → List Char → Nat × Nat
  | value, [] => (value, 0)
  | value, c :: rest =>
      let next := value * 10 + digitValue c
      if next < 0x10000000000000000 then significand next rest else (value, rest.length + 1)

def powerOfTen (exponent : Nat) : Float :=
  Float.ofScientific 1 false exponent

/-- A double divided by `10^exponent`, in steps of at most 308 powers. -/
def lower : (steps : Nat) → Float → (exponent : Nat) → Float
  | 0, _, _ => 0.0
  | steps + 1, value, exponent =>
      if exponent ≤ 308 then value / powerOfTen exponent
      else lower steps (value / powerOfTen 308) (exponent - 308)

/-- The double `significand · 10^exponent`, if there is one. -/
def scale? (significand : Nat) (exponent : Int) : Option Float :=
  let value := Float.ofNat significand
  if significand = 0 then some 0.0
  else if exponent < 0 then some (lower 4 value exponent.natAbs)
  else if 308 < exponent then none
  else
    let product := value * powerOfTen exponent.toNat
    if product.isInf then none else some product

/-- The double that a written number stands for, its sign apart. -/
def Number.magnitude? (number : Number) : Option Float :=
  let (whole, surplus) := significand 0 number.whole
  let (value, unread) := significand whole (number.fraction.getD [])
  let scale : Int := surplus + unread - (number.fraction.getD []).length
  scale? value (scale + number.exponent.getD 0)

def Number.quantity (number : Number) : Quantity :=
  let value := digitsValue number.whole
  let plain := number.fraction.isNone && number.exponent.isNone
  if plain && !number.negative && value < 0x10000000000000000 then .integer value
  else if plain && number.negative && 0 < value && value ≤ 0x8000000000000000 then
    .integer (-value)
  else
    match number.magnitude? with
    | none => .excessive
    | some magnitude => .float (if number.negative then -magnitude else magnitude)

def Number.inRange (number : Number) : Bool :=
  match number.quantity with
  | .excessive => false
  | _ => true

mutual
/-- Whether a value can be taken over as it is: its text does not break off,
its strings are whole, and its numbers are not too large. -/
def Value.isSound : Value → Bool
  | .number value => value.inRange
  | .string value => value.isSome
  | .array items => items.isSound
  | .object members => members.isSound
  | .broken => false
  | _ => true

def Items.isSound : Items → Bool
  | .done => true
  | .broken => false
  | .cons head tail => head.isSound && tail.isSound

def Members.isSound : Members → Bool
  | .done => true
  | .stray _ => false
  | .cons key value tail => key.isSome && value.isSound && tail.isSound
end

end Json

end MailQuote
