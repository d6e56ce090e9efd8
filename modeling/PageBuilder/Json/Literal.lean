import PageBuilder.Numeric.Layout

/-!
# JSON numbers

A JSON number is kept as it is written; what it denotes is a separate question. An integer that fits
64 bits denotes that integer. Everything else denotes a double, read in two roundings: the digits
are collected while they fit 64 bits, and the collected number is scaled by one power of ten. A
number beyond the doubles denotes nothing.
-/

namespace PageBuilder.Json

open Numeric

/-- The written form of a JSON number. A literal without fraction has no digits in it. -/
structure Literal where
  negative : Bool
  whole : List Char
  fraction : List Char
  exponent : Option Int
  deriving DecidableEq, Repr

/-- What a JSON number denotes. -/
inductive Number
  /-- An unsigned 64-bit integer. -/
  | natural (n : Nat)
  /-- The 64-bit integer `-n`, with `n` positive. -/
  | negated (n : Nat)
  | float (x : Double)
  deriving DecidableEq

namespace Literal

/-! ## Written form -/

/-- The exponent as it is written: always with its sign. -/
def exponentText (e : Int) : List Char :=
  'e' :: (if e < 0 then '-' else '+') :: decimalDigits e.natAbs

def chars (l : Literal) : List Char :=
  (if l.negative then ['-'] else []) ++ l.whole
    ++ (if l.fraction.isEmpty then [] else '.' :: l.fraction)
    ++ (match l.exponent with
      | none => []
      | some e => exponentText e)

def text (l : Literal) : String := String.ofList l.chars

abbrev natOfDigits (ds : List Char) : Nat := Nat.ofDigitChars 10 ds 0

/-- Reads the exponent after its letter: an optional sign and at least one digit, then nothing. -/
def exponentOfChars? (cs : List Char) : Option Int :=
  let (negative, digits) := match cs with
    | '+' :: rest => (false, rest)
    | '-' :: rest => (true, rest)
    | _ => (false, cs)
  if digits.isEmpty || !digits.all Char.isDigit then none
  else some (if negative then -(natOfDigits digits : Int) else natOfDigits digits)

/-- Reads what follows the digits of the fraction. -/
def tailOfChars? (l : Literal) : List Char → Option Literal
  | [] => some l
  | c :: cs =>
    if c = 'e' ∨ c = 'E' then (exponentOfChars? cs).map fun e => { l with exponent := some e }
    else none

/-- Reads a literal without its sign: digits without a superfluous leading zero, then optionally a
point with at least one digit, then optionally an exponent. -/
def magnitudeOfChars? (negative : Bool) (cs : List Char) : Option Literal :=
  let whole := cs.takeWhile Char.isDigit
  if whole.isEmpty || (whole.head? == some '0' && 1 < whole.length) then none
  else
    match cs.dropWhile Char.isDigit with
    | '.' :: rest =>
      let fraction := rest.takeWhile Char.isDigit
      if fraction.isEmpty then none
      else tailOfChars? ⟨negative, whole, fraction, none⟩ (rest.dropWhile Char.isDigit)
    | rest => tailOfChars? ⟨negative, whole, [], none⟩ rest

def ofChars? : List Char → Option Literal
  | '-' :: cs => magnitudeOfChars? true cs
  | cs => magnitudeOfChars? false cs

/-! ## Meaning -/

/-- The largest unsigned 64-bit integer. -/
def maxWord : Nat := Nat.pow 2 64 - 1

/-- Appends digits to a number as long as the result fits 64 bits; gives the number and the digits
that were left. -/
def absorb (n : Nat) : List Char → Nat × List Char
  | [] => (n, [])
  | c :: cs =>
    let next := n * 10 + (c.toNat - '0'.toNat)
    if next ≤ maxWord then absorb next cs else (n, c :: cs)

def powerOfTen (k : Nat) : Double := Binary.ofRatio .double false (Nat.pow 10 k) 1

/-- Divides by ten to the given power, by at most `10 ^ 308` at a time. -/
def scaleDown (x : Double) (k : Nat) : Double :=
  if k ≤ 308 then x.div (powerOfTen k)
  else if x.isZero then x
  else scaleDown (x.div (powerOfTen 308)) (k - 308)
  termination_by k

/-- Scales a number by a power of ten; nothing when the result is beyond the doubles. -/
def scale (x : Double) (power : Int) : Option Double :=
  if power < 0 then some (scaleDown x (-power).toNat)
  else if power ≤ 308 then
    -- One product is enough: no greater power of ten is a double.
    let y := x.mul (powerOfTen power.toNat)
    if y.isInfinite then none else some y
  else if x.isZero then some x
  else none

/-- The double a literal denotes when it is read as one. -/
def toDouble (l : Literal) : Option Double :=
  -- Digits of the fraction may still fit after some of the whole did not.
  let (n, overflow) := absorb 0 l.whole
  let (m, dropped) := absorb n l.fraction
  let power : Int :=
    overflow.length - (l.fraction.length - dropped.length : Nat) + l.exponent.getD 0
  (scale (Binary.ofRatio .double false m 1) power).map fun x =>
    if l.negative then x.negate else x

/-- What the literal denotes. A negative integer below 64 bits and negative zero are doubles. -/
def value (l : Literal) : Option Number :=
  let n := natOfDigits l.whole
  if l.fraction.isEmpty ∧ l.exponent = none ∧ n ≤ maxWord then
    if !l.negative then some (.natural n)
    else if n ≠ 0 ∧ n ≤ Nat.pow 2 63 then some (.negated n)
    else some (.float (Binary.ofRatio .double true n 1))
  else l.toDouble.map .float

/-! ## Numbers as literals -/

def ofNat (n : Nat) : Literal := ⟨false, decimalDigits n, [], none⟩

/-- Which numbers are written without exponent: those whose leading digit is at a power of ten from
`least` up to, but not including, `limit`. -/
structure PositionalRange where
  least : Int
  limit : Int

/-- Singles are written without exponent from a millionth up to ten trillions. -/
def singleRange : PositionalRange := ⟨-6, 13⟩

/-- Doubles are written without exponent from a hundred-thousandth up to ten quadrillions. -/
def doubleRange : PositionalRange := ⟨-5, 16⟩

/-- The literal of a decimal: with a fraction always, or with one digit before the point and an
exponent. -/
def ofDecimal (range : PositionalRange) (negative : Bool) (d : Decimal) : Literal :=
  let p := d.leadingPower
  if d.digits = 0 ∨ (range.least ≤ p ∧ p < range.limit) then
    let (whole, fraction) := d.parts
    ⟨negative, whole, if fraction.isEmpty then ['0'] else fraction, none⟩
  else
    let digits := decimalDigits d.digits
    ⟨negative, digits.take 1, digits.drop 1, some p⟩

/-- The literal of a finite number: the fewest digits that read back, a tie going to the even digit.
-/
def ofBinary {F : BinaryFormat} (range : PositionalRange) (x : Binary F) : Literal :=
  ofDecimal range x.negative (x.shortest .toEven)

end Literal

def Number.toSingle : Number → Single
  | .natural n => Binary.ofRatio .single false n 1
  | .negated n => Binary.ofRatio .single true n 1
  | .float x =>
    if x.isInfinite then Binary.ofPattern x.negative BinaryFormat.single.infinity
    else Binary.ofRatio .single x.negative x.units (Nat.pow 2 BinaryFormat.double.unitExponent)

end PageBuilder.Json
