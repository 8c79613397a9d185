import NativeFinder.ReadError
import NativeFinder.Text.Base64
import NativeFinder.Value

/-!
# Scalars of YAML

A scalar is of a **kind**, which its tag says, or, without a tag and without quotes, the form in
which it is written. YAML 1.1 is generous there: `yes` and `Off` are truth values, `010` is eight,
`1:30` is ninety, `2024-01-01` is a day, and the empty scalar is `null`; yet `1e3` is a text, since
an exponent needs a point before it and a sign in it.

`Kind.ofPlain` tells the kind by the form. Since it says which texts read as something else, it
also tells the writer which ones need quotes. `Kind.value` reads a scalar of a kind.
-/

namespace NativeFinder

namespace Yaml

/-- The kinds of nodes. -/
inductive Kind where
  | null
  | bool
  | int
  | float
  | binary
  | timestamp
  | text
  /-- The key whose value is merged into its table. -/
  | merge
  /-- The key of what a table stands for where a scalar is wanted. -/
  | default
  | list
  | table
  | set
  /-- A list of pairs. -/
  | pairs
  /-- A kind that is not known. -/
  | other
deriving DecidableEq, Inhabited

namespace Scalar

/-! ### Words -/

/-- The words for `true`. -/
def trueWords : List Text :=
  ["yes", "Yes", "YES", "true", "True", "TRUE", "on", "On", "ON"]

/-- The words for `false`. -/
def falseWords : List Text :=
  ["no", "No", "NO", "false", "False", "FALSE", "off", "Off", "OFF"]

/-- The words for nothing. -/
def nullWords : List Text := ["", "~", "null", "Null", "NULL"]

/-- The words for infinity. -/
def infinityWords : List Text := [".inf", ".Inf", ".INF"]

/-- The words for the value that is no number. -/
def nanWords : List Text := [".nan", ".NaN", ".NAN"]

/-! ### Digits -/

/-- Whether a text holds only digits below `base` and underscores. -/
def isDigitRun (base : Nat) (s : Text) : Bool :=
  s.all fun c => c == '_' || (c.isDigit && c.toNat - '0'.toNat < base)

/-- Whether a text begins with a digit and goes on with digits and underscores. -/
def isNumeral (s : Text) : Bool := (s.head?.any Char.isDigit) && isDigitRun 10 s

/-- Whether a text is a decimal numeral without a leading zero. -/
def isDecimal (s : Text) : Bool := s == ['0'] || (isNumeral s && s.head? != some '0')

/-- The text without underscores. -/
def dropUnderscores (s : Text) : Text := s.filter (· != '_')

/-- The value of a hexadecimal digit. -/
def hexDigit? (c : Char) : Option Nat :=
  if c.isDigit then some (c.toNat - '0'.toNat)
  else if 'a' ≤ c && c ≤ 'f' then some (c.toNat - 'a'.toNat + 10)
  else if 'A' ≤ c && c ≤ 'F' then some (c.toNat - 'A'.toNat + 10)
  else none

/-- The number that digits write in a base. -/
def ofDigits (base : Nat) (s : Text) : Nat :=
  s.foldl (fun n c => base * n + (hexDigit? c).getD 0) 0

/-- Whether a text is a part of a numeral in base sixty: one digit, or two below sixty. -/
def isSixtieth (s : Text) : Bool :=
  match s with
  | [c] => c.isDigit
  | [c, d] => '0' ≤ c && c ≤ '5' && d.isDigit
  | _ => false

/-- The first part of a numeral in base sixty, which has at least two. -/
def firstOfSixties? (s : Text) : Option Text :=
  match s.splitOn ':' with
  | first :: part :: parts => if (part :: parts).all isSixtieth then some first else none
  | _ => none

/-- The number that parts write in base sixty. -/
def ofSixties (parts : List Rat) : Rat := parts.foldl (fun n part => 60 * n + part) 0

/-! ### Integers -/

/-- Whether a text has the form of an integer. -/
def isInt (s : Text) : Bool :=
  let (_, s) := Numeral.splitSign s
  isDecimal s ||
    match s with
    | '0' :: 'b' :: digits => !digits.isEmpty && isDigitRun 2 digits
    | '0' :: 'x' :: digits =>
      !digits.isEmpty && digits.all fun c => c == '_' || (hexDigit? c).isSome
    | '0' :: digits => isDigitRun 8 digits
    | s => (firstOfSixties? s).any isDecimal

/-- Reads digits in a base other than ten. -/
def inBase (base : Nat) (s : Text) : Except ReadError Int :=
  if !s.isEmpty && s.all (fun c => (hexDigit? c).any (· < base)) then .ok (ofDigits base s)
  else
    .error (.value ("invalid literal for int() with base " ++ Text.ofNat base ++ ": " ++ s.quoted))

/-- Reads digits in base ten. -/
def decimal (s : Text) : Except ReadError Int := (Numeral.parseInt s).mapError .numeral

/-- Reads an integer. -/
def int (s : Text) : Except ReadError Int :=
  let (negative, s) := Numeral.splitSign (dropUnderscores s)
  let magnitude : Except ReadError Int :=
    match s with
    | [] => .error .malformed
    | '0' :: 'b' :: digits => inBase 2 digits
    | '0' :: 'x' :: digits => inBase 16 digits
    | '0' :: 'o' :: digits | '0' :: 'O' :: digits => inBase 8 digits
    | '0' :: digits => inBase 8 ('0' :: digits)
    | s => do
      let parts ← (Text.splitOn ':' s).mapM decimal
      .ok (parts.foldl (fun n part => 60 * n + part) 0)
  magnitude.map fun n => if negative then -n else n

/-! ### Numbers of double precision -/

/-- Whether a text is an exponent with its sign, or empty. -/
def isExponent (s : Text) : Bool :=
  match s with
  | [] => true
  | e :: sign :: digits =>
    (e == 'e' || e == 'E') && (sign == '-' || sign == '+') && !digits.isEmpty &&
      digits.all Char.isDigit
  | _ => false

/-- Whether a text is a numeral with a point. Before the point there may be nothing only if a
digit follows it. -/
def isPointed (s : Text) : Bool :=
  match Text.splitFirst? ['.'] s with
  | none => false
  | some (whole, rest) =>
    let (fraction, rest) := rest.span fun c => c == '_' || c.isDigit
    isExponent rest &&
      (isNumeral whole || (whole.isEmpty && fraction.head?.any Char.isDigit))

/-- Whether a text is a numeral in base sixty whose last part has a point. -/
def isPointedSixties (s : Text) : Bool :=
  match Text.splitFirst? ['.'] s with
  | none => false
  | some (before, fraction) => (firstOfSixties? before).any isNumeral && isDigitRun 10 fraction

/-- Whether a text has the form of a number of double precision. A sign stands only before a digit
or a word. -/
def isFloat (s : Text) : Bool :=
  let (_, unsigned) := Numeral.splitSign s
  let isSigned := unsigned.length < s.length
  nanWords.contains s || infinityWords.contains unsigned ||
    (isPointed unsigned && !(isSigned && unsigned.head? == some '.')) || isPointedSixties unsigned

/-- Reads a number of double precision. -/
def float (s : Text) : Except ReadError Binary64 :=
  let (negative, unsigned) := Numeral.splitSign (dropUnderscores s).lowerAscii
  let number? : Option Binary64 :=
    if unsigned = (".inf" : Text) then some (.infinite negative)
    else if unsigned = (".nan" : Text) then some .nan
    else if ':' ∈ unsigned then do
      let parts ← (Text.splitOn ':' unsigned).mapM fun part =>
        (Numeral.parseFloat? part).bind Binary64.toRat?
      some (.ofMagnitude negative (ofSixties parts))
    else Numeral.parseFloat? (if negative then '-' :: unsigned else unsigned)
  match number? with
  | some x => .ok x
  | none =>
    .error (if unsigned.isEmpty then .malformed
      else .value ("could not convert string to float: " ++ unsigned.quoted))

/-! ### Days and moments -/

/-- Reads one or two digits. -/
def shortNumber? (s : Text) : Option (Nat × Text) :=
  let digits := s.takeWhile Char.isDigit
  if digits.length = 1 || digits.length = 2 then
    some (ofDigits 10 digits, s.dropWhile Char.isDigit)
  else none

/-- Reads a character and one or two digits behind it; `exactly` asks for two. -/
def shortNumberBehind? (c : Char) (exactly : Bool) (s : Text) : Option (Nat × Text) :=
  match s with
  | d :: rest =>
    if d = c && (!exactly || (rest.takeWhile Char.isDigit).length = 2) then shortNumber? rest
    else none
  | [] => none

/-- The parts of a day or a moment, as they are written. -/
structure Stamp where
  year : Nat
  month : Nat
  day : Nat
  /-- Whether month and day have two digits each. -/
  isPadded : Bool
  /-- Hour, minute, second, and the digits behind its point. -/
  time : Option (Nat × Nat × Nat × Text)
  /-- The minutes by which the clock is ahead of universal time. -/
  offset : Option Int
deriving Inhabited

namespace Stamp

/-- Whether a character stands between a day and a time, or before the offset of a clock. -/
def isGap (c : Char) : Bool := c == ' ' || c == '\t'

/-- Reads the offset of a clock up to the end. -/
def offset? (s : Text) : Option (Option Int) :=
  match s.dropWhile isGap with
  | [] => if s.isEmpty then some none else none
  | ['Z'] => some (some 0)
  | sign :: rest => do
    let negative ← if sign = '-' then some true else if sign = '+' then some false else none
    let (hours, rest) ← shortNumber? rest
    let (minutes, rest) ← if rest.isEmpty then some (0, rest) else shortNumberBehind? ':' true rest
    let offset : Int := hours * 60 + minutes
    if rest.isEmpty then some (some (if negative then -offset else offset)) else none

/-- Reads the time of a day and the offset of its clock. -/
def time? (s : Text) : Option ((Nat × Nat × Nat × Text) × Option Int) := do
  let (hour, s) ← shortNumber? s
  let (minute, s) ← shortNumberBehind? ':' true s
  let (second, s) ← shortNumberBehind? ':' true s
  let (fraction, s) := match s with
    | '.' :: rest => rest.span Char.isDigit
    | s => ([], s)
  let offset ← offset? s
  some ((hour, minute, second, fraction), offset)

/-- Reads the parts of a day or a moment. -/
def read? (s : Text) : Option Stamp := do
  let year := s.take 4
  if year.length = 4 && year.all Char.isDigit then
    let (month, afterMonth) ← shortNumberBehind? '-' false (s.drop 4)
    let (day, rest) ← shortNumberBehind? '-' false afterMonth
    let stamp : Stamp :=
      { year := ofDigits 10 year, month, day, isPadded := s.length - rest.length == 10
        time := none, offset := none }
    match rest with
    | [] => some stamp
    | c :: after =>
      let behind := if c = 'T' || c = 't' then after else rest.dropWhile isGap
      if c = 'T' || c = 't' || isGap c then
        let (time, offset) ← time? behind
        some { stamp with time := some time, offset }
      else none
  else none

/-- The microseconds that digits behind a point write; only the first six count. -/
def microseconds (digits : Text) : Fin 1000000 :=
  let six := digits.take 6
  Fin.ofNat 1000000 (ofDigits 10 (six ++ List.replicate (6 - six.length) '0'))

/-- The day or moment that there is with the parts. -/
def value (stamp : Stamp) : Except MomentError Value :=
  match stamp.time with
  | none => (Day.of stamp.year stamp.month stamp.day).map .day
  | some (hour, minute, second, fraction) =>
    (Moment.of stamp.year stamp.month stamp.day hour minute second (microseconds fraction)
      stamp.offset).map .moment

end Stamp

/-- Whether a text has the form of a day or a moment. A day by itself has month and day in two
digits each. -/
def isStamp (s : Text) : Bool :=
  (Stamp.read? s).any fun stamp => stamp.isPadded || stamp.time.isSome

end Scalar

namespace Kind

/-- The kind of a scalar without quotes, by its form. -/
def ofPlain (s : Text) : Kind :=
  if (Scalar.trueWords ++ Scalar.falseWords).contains s then bool
  else if Scalar.nullWords.contains s then null
  else if Scalar.isFloat s then float
  else if Scalar.isInt s then int
  else if s = ['<', '<'] then merge
  else if s = ['='] then default
  else if Scalar.isStamp s then timestamp
  else text

/-- The beginning of the tags of the kinds that are known. -/
def tagPrefix : Text := "tag:yaml.org,2002:"

/-- The names of the kinds, as they stand in tags. -/
def names : List (Text × Kind) :=
  [("null", null), ("bool", bool), ("int", int), ("float", float), ("binary", binary),
   ("timestamp", timestamp), ("str", text), ("merge", merge), ("value", default), ("seq", list),
   ("map", table), ("set", set), ("omap", pairs), ("pairs", pairs)]

/-- The kind that a tag names. -/
def ofTag (tag : Text) : Kind :=
  ((Text.dropPrefix? tagPrefix tag).bind fun name => names.lookup name).getD other

/-- The value of a scalar of a kind. -/
def value (kind : Kind) (s : Text) : Except ReadError Value :=
  match kind with
  | null => .ok .null
  | bool =>
    let lower := s.lowerAscii
    if Scalar.trueWords.contains lower then .ok (.bool true)
    else if Scalar.falseWords.contains lower then .ok (.bool false)
    else .error .malformed
  | int => (Scalar.int s).map .int
  | float => (Scalar.float s).map .float
  | binary =>
    match if s.all (·.toNat < 0x80) then Base64.decode? s else none with
    | some b => .ok (.bytes b)
    | none => .error .malformed
  | timestamp =>
    match Scalar.Stamp.read? s with
    | some stamp => stamp.value.mapError fun e => .value e.message
    | none => .error .malformed
  | text => .ok (.text s)
  | merge | default | list | table | set | pairs | other => .error .malformed

end Kind

end Yaml

end NativeFinder
