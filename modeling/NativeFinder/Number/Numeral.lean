import NativeFinder.Number.Binary64
import NativeFinder.Text.Quoted

/-!
# Reading numerals

What a user may write for a number, in a setting, an option or a command. Blanks around the
numeral are ignored; decimal digits of any script count; a single underscore may stand
between two digits. An integer has an optional sign and at most 4300 digits. A number of
double precision has a sign, digits with an optional point and exponent, or is one of the
words for infinity and for the value that is not a number.
-/

namespace NativeFinder

namespace Numeral

/-- Why a text is no integer. -/
inductive IntError where
  | malformed (text : Text)
  | tooLong (digits : Nat)
deriving DecidableEq

/-- The most digits an integer may be written with. -/
def digitLimit : Nat := 4300

/-- The wording of the errors. -/
def IntError.message : IntError → Text
  | .malformed text => "invalid literal for int() with base 10: " ++ text.quoted
  | .tooLong digits => "Exceeds the limit (" ++ Text.ofNat digitLimit ++
      " digits) for integer string conversion: value has " ++ Text.ofNat digits ++
      " digits; use sys.set_int_max_str_digits() to increase the limit"

/-- Blanks that may stand around a numeral: all but the four ASCII separators. -/
def isMargin (c : Char) : Bool :=
  Character.isBlank c && !(0x1C ≤ c.toNat && c.toNat ≤ 0x1F)

/-- The numeral without the blanks around it. -/
def trimMargin (s : Text) : Text := Text.dropEndWhile isMargin (s.dropWhile isMargin)

/-- The text with every decimal digit in its ASCII form. -/
def plainDigits (s : Text) : Text :=
  s.map fun c => match Character.decimalDigit? c with
    | some d => Nat.digitChar d
    | none => c

/-- Removes the underscores between digits; `none` if one stands elsewhere. The flag says
whether a digit has just been read. -/
def dropUnderscores? : Bool → Text → Option Text
  | _, [] => some []
  | afterDigit, '_' :: c :: s =>
    if afterDigit && c.isDigit then dropUnderscores? false (c :: s) else none
  | _, '_' :: [] => none
  | _, c :: s => (dropUnderscores? c.isDigit s).map (c :: ·)

/-- A sign and the rest of a numeral: `true` after a minus. -/
def splitSign : Text → Bool × Text
  | '-' :: s => (true, s)
  | '+' :: s => (false, s)
  | s => (false, s)

/-- The number that a run of ASCII digits writes in base ten. -/
def ofDigits (s : Text) : Nat := s.foldl (fun n c => 10 * n + (c.toNat - '0'.toNat)) 0

/-- Reads an integer. -/
def parseInt (s : Text) : Except IntError Int :=
  match dropUnderscores? false (plainDigits (trimMargin s)) with
  | none => .error (.malformed s)
  | some t =>
    let (negative, digits) := splitSign t
    if digits.isEmpty || !digits.all Char.isDigit then .error (.malformed s)
    else if digitLimit < digits.length then .error (.tooLong digits.length)
    else .ok (if negative then -(ofDigits digits : Int) else ofDigits digits)

/-- The value of `digits · 10 ^ exponent`, where no more of the exponent is used than the
range of the format needs. -/
def scaled (negative : Bool) (digits : Nat) (exponent : Int) : Binary64 :=
  let size : Int := (Nat.toDigits 10 digits).length
  if digits = 0 then .finite negative 0
  else if 400 < size + exponent then .infinite negative
  else if size + exponent < -400 then .finite negative 0
  else .ofMagnitude negative (digits * power 10 exponent)

/-- Reads an exponent: nothing at all, or `e` with an optional sign and digits. -/
def parseExponent? : Text → Option Int
  | [] => some 0
  | c :: s =>
    if c != 'e' && c != 'E' then none
    else
      let (negative, digits) := splitSign s
      if digits.isEmpty || !digits.all Char.isDigit then none
      else some (if negative then -(ofDigits digits : Int) else ofDigits digits)

/-- Reads digits with an optional point and exponent, without a sign. -/
def parseUnsigned? (negative : Bool) (s : Text) : Option Binary64 :=
  let (whole, rest) := s.span Char.isDigit
  let (fraction, rest) := match rest with
    | '.' :: t => t.span Char.isDigit
    | t => ([], t)
  if whole.isEmpty && fraction.isEmpty then none
  else (parseExponent? rest).map fun e =>
    scaled negative (ofDigits (whole ++ fraction)) (e - fraction.length)

/-- Reads a number of double precision. -/
def parseFloat? (s : Text) : Option Binary64 := do
  let t ← dropUnderscores? false (plainDigits (trimMargin s))
  let (negative, rest) := splitSign t
  let word := rest.lowerAscii
  if word = ("inf" : Text) || word = ("infinity" : Text) then some (.infinite negative)
  else if word = ("nan" : Text) then some .nan
  else parseUnsigned? negative rest

end Numeral

end NativeFinder
