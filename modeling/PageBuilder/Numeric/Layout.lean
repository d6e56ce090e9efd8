import PageBuilder.Numeric.Shortest

/-!
# Texts of binary numbers

The plain text of a number, as style sheets and messages show it: the fewest digits that read back,
never an exponent.
-/

namespace PageBuilder.Numeric

/-- The decimal digits of a natural number, the leading one first. -/
abbrev decimalDigits (n : Nat) : List Char := Nat.toDigits 10 n

namespace Decimal

/-- The digits before and after the decimal point; an integer has none after it. -/
def parts (d : Decimal) : List Char × List Char :=
  let digits := decimalDigits d.digits
  if 0 ≤ d.power then (digits ++ List.replicate d.power.toNat '0', [])
  else
    let places := (-d.power).toNat
    if places < digits.length then digits.splitAt (digits.length - places)
    else (['0'], List.replicate (places - digits.length) '0' ++ digits)

/-- A decimal without exponent: `123`, `0.0015`, `4.25`, `700`. -/
def positional (d : Decimal) : List Char :=
  match d.parts with
  | (whole, []) => whole
  | (whole, fraction) => whole ++ '.' :: fraction

/-- The power of ten of the leading digit. -/
def leadingPower (d : Decimal) : Int := d.power + digitCount d.digits - 1

end Decimal

/-- The plain text: never an exponent, no fraction on an integer, a sign on negative zero; a decimal
halfway between two candidates goes up. -/
def Binary.plainText {F : BinaryFormat} (x : Binary F) : String :=
  let sign := if x.negative then "-" else ""
  if x.isInfinite then sign ++ "inf"
  else sign ++ String.ofList (x.shortest .upward).positional

/-- The percentage as a fraction of one, without trailing zeros: `60` gives `0.6`. -/
def fractionOfHundred (percent : Nat) : String :=
  String.ofList (Decimal.strip 2 ⟨percent, -2⟩).positional

end PageBuilder.Numeric
