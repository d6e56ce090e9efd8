/-!
# Binary floating point numbers

Numbers of an IEEE binary format, held by their bit pattern without the sign. Patterns of one sign
are ordered like the numbers they stand for, so comparison is a comparison of integers. All
arithmetic is exact integer arithmetic followed by one rounding to the nearest pattern, ties to the
even one.

There is no pattern for "not a number": nothing in a page can hold one.
-/

namespace PageBuilder.Numeric

/-- A binary format: the width of its fraction, the exponent of its least positive number
`2 ^ -unitExponent` (the *unit*), and the pattern of infinity. -/
structure BinaryFormat where
  fractionBits : Nat
  unitExponent : Nat
  infinity : Nat
  deriving DecidableEq, Repr

def BinaryFormat.single : BinaryFormat := ⟨23, 149, 0x7F800000⟩

def BinaryFormat.double : BinaryFormat := ⟨52, 1074, 0x7FF0000000000000⟩

/-- A number of the format `F`: a sign and the pattern of the magnitude. -/
structure Binary (F : BinaryFormat) where
  negative : Bool
  magnitude : Nat
  magnitude_le : magnitude ≤ F.infinity
  deriving DecidableEq

/-- Single precision numbers: zoom factors and durations. -/
abbrev Single := Binary .single

/-- Double precision numbers: what the text of a JSON number denotes. -/
abbrev Double := Binary .double

/-- The nearest integer to `n / d`, a tie going to the even neighbour. -/
def roundHalfEven (n d : Nat) : Nat :=
  let q := n / d
  let r := n % d
  if 2 * r < d then q
  else if d < 2 * r then q + 1
  else q + q % 2

namespace Binary

variable {F : BinaryFormat}

/-- The number with the given pattern; patterns beyond infinity stand for infinity. -/
def ofPattern (negative : Bool) (pattern : Nat) : Binary F :=
  ⟨negative, min pattern F.infinity, Nat.min_le_right _ _⟩

def zero : Binary F := ofPattern false 0

instance : Inhabited (Binary F) := ⟨zero⟩

/-- The number nearest to `n / d` units. The quotient is cut to `fractionBits + 1` binary places,
and its pattern is the count of dropped places followed by what is left; that also covers numbers
below the normal range, a carry into the next exponent, and overflow. -/
def round (F : BinaryFormat) (negative : Bool) (n d : Nat) : Binary F :=
  -- Subnormal quotients drop nothing: the subtraction stops at zero.
  let dropped := (n / d).log2 - F.fractionBits
  ofPattern negative (dropped * Nat.pow 2 F.fractionBits + roundHalfEven n (d * Nat.pow 2 dropped))

/-- The number nearest to `n / d`. -/
def ofRatio (F : BinaryFormat) (negative : Bool) (n d : Nat) : Binary F :=
  round F negative (n * Nat.pow 2 F.unitExponent) d

/-- Beyond every finite number. -/
def isInfinite (x : Binary F) : Bool := x.magnitude == F.infinity

/-- Either zero. -/
def isZero (x : Binary F) : Bool := x.magnitude == 0

/-- The significand of a finite number: its magnitude is `significand * 2 ^ exponent` units. -/
def significand (x : Binary F) : Nat :=
  let fraction := x.magnitude % Nat.pow 2 F.fractionBits
  if x.magnitude / Nat.pow 2 F.fractionBits = 0 then fraction
  else Nat.pow 2 F.fractionBits + fraction

/-- The binary exponent of a finite number, in units. -/
def exponent (x : Binary F) : Nat := x.magnitude / Nat.pow 2 F.fractionBits - 1

/-- The magnitude of a finite number in units. -/
def units (x : Binary F) : Nat := x.significand * Nat.pow 2 x.exponent

def signedUnits (x : Binary F) : Int := if x.negative then -(x.units : Int) else x.units

/-- The place of a number in the order of all numbers; both zeros have the same. -/
def rank (x : Binary F) : Int := if x.negative then -(x.magnitude : Int) else x.magnitude

/-- Numbers are equal when they have the same place: `0.0` equals `-0.0`. -/
instance : BEq (Binary F) := ⟨fun x y => x.rank == y.rank⟩

theorem beq_iff {x y : Binary F} : x == y ↔ x.rank = y.rank := by
  show (x.rank == y.rank) = true ↔ _
  exact beq_iff_eq

instance : ReflBEq (Binary F) where
  rfl := beq_iff.2 rfl

/-- The lesser of two numbers, the first of two equal ones. -/
def lesser (x y : Binary F) : Binary F := if y.rank < x.rank then y else x

/-- The greater of two numbers, the first of two equal ones. -/
def greater (x y : Binary F) : Binary F := if x.rank < y.rank then y else x

/-- The number with the other sign. -/
def negate (x : Binary F) : Binary F := { x with negative := !x.negative }

/-- The sum, rounded once. An exact sum of zero is negative only for two negative zeros, and an
infinite first summand absorbs the second. -/
def add (x y : Binary F) : Binary F :=
  if x.isInfinite then x
  else if y.isInfinite then y
  else
    let sum := x.signedUnits + y.signedUnits
    let negative := if sum = 0 then x.negative && y.negative else decide (sum < 0)
    round F negative sum.natAbs 1

/-- The product with a finite number, rounded once. -/
def mul (x y : Binary F) : Binary F :=
  let negative := x.negative != y.negative
  if x.isInfinite || y.isInfinite then ofPattern negative F.infinity
  else round F negative (x.units * y.units) (Nat.pow 2 F.unitExponent)

/-- The quotient by a finite number other than zero, rounded once. -/
def div (x y : Binary F) : Binary F :=
  let negative := x.negative != y.negative
  if x.isInfinite then ofPattern negative F.infinity
  else round F negative (x.units * Nat.pow 2 F.unitExponent) y.units

/-- The nearest integer, a half going away from zero. The sign stays, also on zero. -/
def roundToInteger (x : Binary F) : Binary F :=
  if x.isInfinite then x
  else
    -- Half of `one` is added before the division, which drops the fraction.
    let one := Nat.pow 2 F.unitExponent
    round F x.negative ((2 * x.units + one) / (2 * one) * one) 1

end Binary

end PageBuilder.Numeric
