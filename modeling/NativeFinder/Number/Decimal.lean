import NativeFinder.Number.Binary64
import NativeFinder.Text.Basic

/-!
# Decimal texts of numbers

Two ways to write a number in decimal digits: with a fixed number of places, and with the
**fewest digits that read back** as the same number of double precision, of those the ones
closest to the number. The second is found by trying 1, 2, … 17 significant digits and
testing the two neighbours of the number on each decimal grid, in exact arithmetic.
-/

namespace NativeFinder

namespace Decimal

/-- The numeral of `n`, filled with leading zeros to at least `width` digits. -/
def padded (width n : Nat) : Text :=
  let digits := Text.ofNat n
  List.replicate (width - digits.length) '0' ++ digits

/-- The text of a number with exactly `places` digits after the point, a half in the next
place going to the even neighbour. -/
def fixed (places : Nat) (x : Rat) : Text :=
  let unit := Nat.pow 10 places
  let n := (roundHalfEven (x.abs * unit)).toNat
  let sign : Text := if x < 0 then "-" else ""
  sign ++ Text.ofNat (n / unit) ++ "." ++ padded places (n % unit)

/-- The greatest exponent whose power of ten is at most the positive rational `x`. The
number of digits of numerator and denominator gives it up to one. -/
def decimalLog (x : Rat) : Int :=
  let digits (n : Nat) : Int := (Nat.toDigits 10 n).length
  let guess := digits x.num.natAbs - digits x.den
  if power 10 guess ≤ x then guess else guess - 1

/-- A positive number in scientific form: `digits` is read as `d.ddd` times ten to the power
`exponent`. -/
structure Scientific where
  digits : List Char
  exponent : Int
deriving DecidableEq

/-- The neighbours of `x` on the grid of `n` significant digits that read back as `x`, the
closer one first, with a tie going to the even one. -/
def candidate? (x : Rat) (log : Int) (n : Nat) : Option Nat :=
  let unit := power 10 (log - (n : Int) + 1)
  let scaled := x / unit
  let low := scaled.floor.toNat
  let near := (roundHalfEven scaled).toNat
  let far := if near = low then low + 1 else low
  let readsBack (k : Nat) : Bool := Binary64.nearest (k * unit) = x
  if readsBack near then some near
  else if readsBack far then some far
  else none

/-- The shortest digits of `x` among those with `n` to `n + fuel` of them. -/
def shortestFrom (x : Rat) (log : Int) : Nat → Nat → Option (Nat × Nat)
  | 0, _ => none
  | fuel + 1, n =>
    match candidate? x log n with
    | some k => some (k, n)
    | none => shortestFrom x log fuel (n + 1)

/-- The fewest decimal digits that read back as the positive number `x` of the format. -/
def shortest (x : Rat) : Scientific :=
  let log := decimalLog x
  let (k, n) := (shortestFrom x log 17 1).getD ((x / power 10 (log - 16)).floor.toNat, 17)
  let digits := Text.ofNat k
  let exponent := log - (n : Int) + digits.length
  { digits := match Text.dropEndWhile (· == '0') digits with
      | [] => ['0']
      | trimmed => trimmed
    exponent := exponent }

/-- Lays digits out in positional notation, with at least one digit on either side of the
point. -/
def positional (s : Scientific) : Text :=
  if s.exponent < 0 then
    "0." ++ List.replicate (-s.exponent - 1).toNat '0' ++ s.digits
  else
    let whole := s.exponent.toNat + 1
    let fraction := s.digits.drop whole
    s.digits.take whole ++ List.replicate (whole - s.digits.length) '0' ++ "." ++
      (if fraction.isEmpty then ['0'] else fraction)

/-- Lays digits out with an exponent: one digit before the point, no point after a lone
digit, and an exponent with a sign and at least two digits. -/
def exponential (s : Scientific) : Text :=
  let fraction := s.digits.drop 1
  let sign : Text := if s.exponent < 0 then "-" else "+"
  s.digits.take 1 ++ (if fraction.isEmpty then [] else '.' :: fraction) ++
    "e" ++ sign ++ padded 2 s.exponent.natAbs

end Decimal

namespace Binary64

/-- The text of a value: the fewest digits that read back, positional from `1e-04` up to
below `1e+16`. -/
def toText : Binary64 → Text
  | .nan => "nan"
  | .infinite negative => if negative then "-inf" else "inf"
  | .finite negative magnitude =>
    let sign : Text := if negative then "-" else ""
    if magnitude = 0 then sign ++ "0.0"
    else
      let s := Decimal.shortest magnitude
      sign ++ if s.exponent < -4 || 16 ≤ s.exponent then Decimal.exponential s
        else Decimal.positional s

end Binary64

end NativeFinder
