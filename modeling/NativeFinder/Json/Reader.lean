import NativeFinder.ReadError
import NativeFinder.Value

/-!
# Reading JSON

`Json.parse` reads one JSON value and nothing behind it. Besides the standard it accepts the
words `NaN`, `Infinity` and `-Infinity` for numbers. A number without fraction and exponent
is an integer, any other one a number of double precision. Of members with the same key the
last one counts. A text may hold no raw control characters.

The readers work from the front of the text and give the rest. The nested ones count down a
bound on the number of their calls, which is set to the length of the text.
-/

namespace NativeFinder

namespace Json

/-- The characters between tokens. -/
def isSpace (c : Char) : Bool := c == ' ' || c == '\t' || c == '\n' || c == '\r'

/-- The text without leading spaces. -/
def skipSpaces (s : Text) : Text := s.dropWhile isSpace

/-! ### Texts -/

/-- The value of a hexadecimal digit. -/
def hexDigit? (c : Char) : Option Nat :=
  if '0' ≤ c && c ≤ '9' then some (c.toNat - '0'.toNat)
  else if 'a' ≤ c && c ≤ 'f' then some (c.toNat - 'a'.toNat + 10)
  else if 'A' ≤ c && c ≤ 'F' then some (c.toNat - 'A'.toNat + 10)
  else none

/-- Reads four hexadecimal digits. -/
def readUnit? : Text → Option (Nat × Text)
  | a :: b :: c :: d :: s => do
    let a ← hexDigit? a
    let b ← hexDigit? b
    let c ← hexDigit? c
    let d ← hexDigit? d
    some (((a * 16 + b) * 16 + c) * 16 + d, s)
  | _ => none

/-- Whether a unit opens a pair of units. -/
def isHighUnit (n : Nat) : Bool := 0xD800 ≤ n && n < 0xDC00

/-- Whether a unit closes a pair of units. -/
def isLowUnit (n : Nat) : Bool := 0xDC00 ≤ n && n < 0xE000

/-- The character of a pair of units. -/
def ofUnits (high low : Nat) : Char :=
  Char.ofNat (0x10000 + (high - 0xD800) * 0x400 + (low - 0xDC00))

/-- Reads the units of an escaped character after its mark: one unit, or a pair of them. A
unit that stands alone in half a pair becomes the replacement character. -/
def readEscapedUnits? (s : Text) : Option (Char × Text) := do
  let (high, s) ← readUnit? s
  if isHighUnit high then
    match s with
    | '\\' :: 'u' :: t =>
      match readUnit? t with
      | some (low, rest) =>
        if isLowUnit low then some (ofUnits high low, rest) else some (Char.ofNat 0xFFFD, s)
      | none => none
    | _ => some (Char.ofNat 0xFFFD, s)
  else if isLowUnit high then some (Char.ofNat 0xFFFD, s)
  else some (Char.ofNat high, s)

/-- The character of an escape of one letter. -/
def shortEscape? : Char → Option Char
  | '"' => some '"'
  | '\\' => some '\\'
  | '/' => some '/'
  | 'b' => some '\x08'
  | 'f' => some '\x0c'
  | 'n' => some '\n'
  | 'r' => some '\r'
  | 't' => some '\t'
  | _ => none

/-- Reads the characters of a text up to its closing quote. -/
def readChars? : Nat → Text → Option (Text × Text)
  | 0, _ => none
  | _ + 1, [] => none
  | _ + 1, '"' :: s => some ([], s)
  | fuel + 1, '\\' :: 'u' :: s => do
    let (c, s) ← readEscapedUnits? s
    let (cs, s) ← readChars? fuel s
    some (c :: cs, s)
  | fuel + 1, '\\' :: e :: s => do
    let c ← shortEscape? e
    let (cs, s) ← readChars? fuel s
    some (c :: cs, s)
  | fuel + 1, c :: s => do
    guard (c != '\\' && 0x20 ≤ c.toNat)
    let (cs, s) ← readChars? fuel s
    some (c :: cs, s)

/-! ### Numbers -/

/-- Reads an exponent with its mark, if a complete one is there. -/
def readExponent? : Text → Option (Int × Text)
  | c :: s =>
    if c == 'e' || c == 'E' then
      let (negative, s) := Numeral.splitSign s
      match Text.takeRun? Char.isDigit s with
      | none => none
      | some (digits, s) =>
        let n : Int := Numeral.ofDigits digits
        some (if negative then -n else n, s)
    else none
  | [] => none

/-- Reads a fraction with its point, if a complete one is there. -/
def readFraction? : Text → Option (Text × Text)
  | '.' :: s => Text.takeRun? Char.isDigit s
  | _ => none

/-- Reads the whole part of a number: a zero, or digits that start with no zero. -/
def readWhole? : Text → Option (Text × Text)
  | '0' :: s => some (['0'], s)
  | s => Text.takeRun? Char.isDigit s

/-- Reads the digits of a number after its sign. -/
def readNumber (negative : Bool) (s : Text) : Except ReadError (Value × Text) :=
  match readWhole? s with
  | none => .error .malformed
  | some (whole, s) =>
    match readFraction? s, readExponent? s with
    | none, none =>
      if Numeral.digitLimit < whole.length then .error (.numeral (.tooLong whole.length))
      else
        let n : Int := Numeral.ofDigits whole
        .ok (.int (if negative then -n else n), s)
    | none, some (e, s) =>
      .ok (.float (Numeral.scaled negative (Numeral.ofDigits whole) e), s)
    | some (fraction, s), _ =>
      let (e, s) := (readExponent? s).getD (0, s)
      .ok (.float (Numeral.scaled negative (Numeral.ofDigits (whole ++ fraction))
        (e - fraction.length)), s)

/-! ### Values -/

/-- The values that are words. -/
def words : List (Text × Value) :=
  [("null", .null), ("true", .bool true), ("false", .bool false), ("NaN", .float .nan),
   ("Infinity", .float (.infinite false)), ("-Infinity", .float (.infinite true))]

/-- Reads a value that is a word. -/
def readWord? (s : Text) : Option (Value × Text) :=
  words.findSome? fun (word, value) => (Text.dropPrefix? word s).map fun rest => (value, rest)

mutual

/-- Reads a value from its first character on. -/
def readValue : Nat → Text → Except ReadError (Value × Text)
  | 0, _ => .error .malformed
  | _ + 1, [] => .error .malformed
  | fuel + 1, c :: s =>
    match readWord? (c :: s) with
    | some found => .ok found
    | none =>
      if c = '"' then
        match readChars? (s.length + 1) s with
        | some (text, rest) => .ok (.text text, rest)
        | none => .error .malformed
      else if c = '[' then
        match skipSpaces s with
        | ']' :: rest => .ok (.list [], rest)
        | s => do
          let (items, rest) ← readItems fuel s
          .ok (.list items, rest)
      else if c = '\x7b' then
        match skipSpaces s with
        | '\x7d' :: rest => .ok (.table [], rest)
        | s => do
          let (members, rest) ← readMembers fuel s
          .ok (.table (Table.ofMembers members), rest)
      else if c = '-' then readNumber true s
      else readNumber false (c :: s)

/-- Reads the items of a list up to its bracket. -/
def readItems : Nat → Text → Except ReadError (List Value × Text)
  | 0, _ => .error .malformed
  | fuel + 1, s => do
    let (item, s) ← readValue fuel s
    match skipSpaces s with
    | ',' :: s => do
      let (items, s) ← readItems fuel (skipSpaces s)
      .ok (item :: items, s)
    | ']' :: s => .ok ([item], s)
    | _ => .error .malformed

/-- Reads the members of a table up to its brace. -/
def readMembers : Nat → Text → Except ReadError (List (Key × Value) × Text)
  | 0, _ => .error .malformed
  | fuel + 1, s =>
    match s with
    | '"' :: s =>
      match readChars? (s.length + 1) s with
      | none => .error .malformed
      | some (key, s) =>
        match skipSpaces s with
        | ':' :: s => do
          let (value, s) ← readValue fuel (skipSpaces s)
          match skipSpaces s with
          | ',' :: s => do
            let (members, s) ← readMembers fuel (skipSpaces s)
            .ok ((.text key, value) :: members, s)
          | '\x7d' :: s => .ok ([(.text key, value)], s)
          | _ => .error .malformed
        | _ => .error .malformed
    | _ => .error .malformed

end

/-- Reads a text that is one JSON value with spaces around it. -/
def parse (s : Text) : Except ReadError Value := do
  let (value, rest) ← readValue (s.length + 1) (skipSpaces s)
  if (skipSpaces rest).isEmpty then .ok value else .error .malformed

end Json

end NativeFinder
