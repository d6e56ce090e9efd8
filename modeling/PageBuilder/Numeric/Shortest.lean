import PageBuilder.Numeric.Binary

/-!
# Shortest decimals

The decimal with the fewest digits among those that round to a given binary number, and among
several such the nearest one. On the grid of multiples of a power of ten only the two neighbours of
the number need a look, so the grids are tried from the coarsest on, in exact integer arithmetic.
-/

namespace PageBuilder.Numeric

/-- Where a decimal goes that lies exactly between two candidates. -/
inductive TieRule
  | toEven
  | upward
  deriving DecidableEq, Repr

/-- The positive decimal `digits * 10 ^ power`. -/
structure Decimal where
  digits : Nat
  power : Int
  deriving DecidableEq, Repr

/-- The count of decimal digits of a natural number; zero has one. -/
def digitCount (n : Nat) : Nat := (Nat.toDigits 10 n).length

/-- The decimals that round to one binary number. All four fields count quarters of `1 / scale`. -/
structure RoundingInterval where
  value : Nat
  low : Nat
  high : Nat
  /-- Whether the ends still round to the number. -/
  closed : Bool
  scale : Nat

namespace RoundingInterval

/-- The interval around a finite number other than zero: half a place to both sides, but only a
quarter below a power of two, where the places get finer. The ends belong to it when the significand
is even. -/
def of {F : BinaryFormat} (x : Binary F) : RoundingInterval :=
  let place := Nat.pow 2 x.exponent
  let below :=
    if x.significand = Nat.pow 2 F.fractionBits ∧ 0 < x.exponent then place else 2 * place
  { value := 4 * x.significand * place
    low := 4 * x.significand * place - below
    high := 4 * x.significand * place + 2 * place
    closed := x.significand % 2 == 0
    scale := 4 * Nat.pow 2 F.unitExponent }

/-- Whether `n / d` quarters lie in the interval. -/
def contains (i : RoundingInterval) (n d : Nat) : Bool :=
  if i.closed then i.low * d ≤ n && n ≤ i.high * d else i.low * d < n && n < i.high * d

/-- The decimal on the grid of multiples of `10 ^ power` that lies in the interval, if there is one:
of the two neighbours of the number the nearer that does. -/
def onGrid (i : RoundingInterval) (tie : TieRule) (power : Int) : Option Decimal :=
  -- One of the two powers of ten is one, so all comparisons are between integers.
  let up := Nat.pow 10 power.toNat * i.scale
  let down := Nat.pow 10 (-power).toNat
  let floor := i.value * down / up
  let below := i.value * down - floor * up
  let above := (floor + 1) * up - i.value * down
  let floorFits := i.contains (floor * up) down
  let ceilingFits := i.contains ((floor + 1) * up) down
  let ceilingNearer := above < below ||
    (above == below && (tie == .upward || floor % 2 == 1))
  match floorFits, ceilingFits with
  | true, true => some ⟨if ceilingNearer then floor + 1 else floor, power⟩
  | true, false => some ⟨floor, power⟩
  | false, true => some ⟨floor + 1, power⟩
  | false, false => none

/-- The power of ten of the first digit of the number. -/
def leadingPower (i : RoundingInterval) : Int :=
  if i.scale ≤ i.value then (digitCount (i.value / i.scale) : Int) - 1
  else
    -- The least integer whose product with the number reaches one.
    let least := (i.scale + i.value - 1) / i.value
    if least ≤ 1 then 0 else -(digitCount (least - 1) : Int)

/-- The decimal on the first of `count` grids, from the given one on to finer ones, that has one. -/
def search (i : RoundingInterval) (tie : TieRule) : Nat → Int → Option Decimal
  | 0, _ => none
  | count + 1, power =>
    match i.onGrid tie power with
    | some d => some d
    | none => search i tie count (power - 1)

end RoundingInterval

/-- Takes the trailing zeros of the digits into the power, at most `limit` of them. -/
def Decimal.strip (limit : Nat) (d : Decimal) : Decimal :=
  match limit with
  | 0 => d
  | limit + 1 =>
    if d.digits % 10 = 0 then Decimal.strip limit ⟨d.digits / 10, d.power + 1⟩ else d

/-- The shortest decimal of the magnitude of a finite number; zero is `0`. Twenty grids are enough
for both formats: one with nine digits has a point in every interval of a single, one with seventeen
in every interval of a double. -/
def Binary.shortest {F : BinaryFormat} (tie : TieRule) (x : Binary F) : Decimal :=
  if x.isZero then ⟨0, 0⟩
  else
    let interval := RoundingInterval.of x
    match interval.search tie 20 interval.leadingPower with
    | some d => d.strip 20
    | none => ⟨0, 0⟩

end PageBuilder.Numeric
