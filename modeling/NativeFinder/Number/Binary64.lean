/-!
# Numbers of double precision

Scores and settings are numbers of the binary format with 53 significant bits. The module
computes them exactly: a finite number is a rational, and an operation is the operation on
rationals followed by `nearest`, which moves a rational to the closest number of the format,
of two equally close ones to the one with the even significand. The grid of the format near
`x` has the spacing `quantum x`: 53 bits below the leading bit of `x`, and never finer than
`2 ^ (-1074)`.

`Binary64` adds what the format has besides rationals: signed zeros, the two infinities and
the value that is not a number.
-/

namespace NativeFinder

/-! ### Rounding to integers -/

/-- The nearest integer, a half going to the even neighbour. -/
def roundHalfEven (x : Rat) : Int :=
  let k := x.floor
  if x - k < 1 / 2 then k
  else if 1 / 2 < x - k then k + 1
  else k + k % 2

/-- The power of a natural number with an integer exponent. -/
def power (base : Nat) : Int → Rat
  | .ofNat n => (Nat.pow base n : Nat)
  | .negSucc n => 1 / (Nat.pow base (n + 1) : Nat)

/-- Rounds to `places` digits after the decimal point, a half going to the even neighbour. -/
def roundPlaces (places : Nat) (x : Rat) : Rat :=
  (roundHalfEven (x * power 10 places) : Rat) / power 10 places

namespace Binary64

/-! ### Rounding to the format -/

/-- The greatest exponent whose power of two is at most the positive rational `x`. -/
def binaryLog (x : Rat) : Int :=
  let guess : Int := (Nat.log2 x.num.natAbs : Int) - (Nat.log2 x.den : Int)
  if power 2 guess ≤ x then guess else guess - 1

/-- The spacing of the format around a positive `x`. -/
def quantum (x : Rat) : Rat := power 2 (max (binaryLog x - 52) (-1074))

/-- The number of the format nearest to `x`, of two the one with the even significand. The
exponent is not limited from above. -/
def nearest (x : Rat) : Rat :=
  if x = 0 then 0
  else
    let q := quantum x.abs
    (roundHalfEven (x / q) : Rat) * q

/-- The least magnitude that is too large for the format. -/
def overflow : Rat := power 2 1024

end Binary64

/-! ### Values of the format -/

/-- A value of double precision. A finite one is a sign and a magnitude, so that zero has
two signs. -/
inductive Binary64 where
  | finite (negative : Bool) (magnitude : Rat)
  | infinite (negative : Bool)
  | nan
deriving DecidableEq, Inhabited

namespace Binary64

/-- The value nearest to a rational magnitude with a sign; infinite where that is too large. -/
def ofMagnitude (negative : Bool) (magnitude : Rat) : Binary64 :=
  let rounded := nearest magnitude
  if overflow ≤ rounded then .infinite negative else .finite negative rounded

/-- The value nearest to a rational. -/
def ofRat (x : Rat) : Binary64 := ofMagnitude (x < 0) x.abs

/-- The rational that a finite value stands for. -/
def toRat? : Binary64 → Option Rat
  | .finite negative magnitude => some (if negative then -magnitude else magnitude)
  | .infinite _ | .nan => none

/-- Whether the value stands for zero, of either sign. -/
def isZero : Binary64 → Bool
  | .finite _ magnitude => magnitude == 0
  | .infinite _ | .nan => false

/-- Whether the value is below a rational bound; a value that is no number is below none. -/
def ltRat (x : Binary64) (bound : Rat) : Bool :=
  match x with
  | .finite negative magnitude => (if negative then -magnitude else magnitude) < bound
  | .infinite negative => negative
  | .nan => false

/-- Whether the value is above a rational bound; a value that is no number is above none. -/
def gtRat (x : Binary64) (bound : Rat) : Bool :=
  match x with
  | .finite negative magnitude => bound < (if negative then -magnitude else magnitude)
  | .infinite negative => !negative
  | .nan => false

end Binary64

end NativeFinder
