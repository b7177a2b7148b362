import Stepwise.Binary64.Shortest

/-! # Rounding to decimal digits

Where `shortest` looks for the fewest digits that read back, a precision asks for a fixed number of
them: behind the point (`roundToPlaces`) or altogether (`roundToDigits`). Both round the exact value
of the number once, and a tie goes to the even digit. -/

namespace Stepwise.Binary64

/-- The multiple of `10 ^ place` nearest to `mantissa · 2 ^ exponent`. -/
def roundToGrid (mantissa : Nat) (exponent place : Int) : Decimal :=
  let (numerator, denominator) := scaled mantissa exponent place
  Decimal.ofGridPoint (divideToEven numerator denominator) place

/-- The nearest decimal number with `places` digits behind the point. -/
def roundToPlaces (mantissa : Nat) (exponent : Int) (places : Nat) : Decimal :=
  roundToGrid mantissa exponent (-places)

/-- The nearest decimal number with `count` significant digits. -/
def roundToDigits (mantissa : Nat) (exponent : Int) (count : Nat) : Decimal :=
  if mantissa = 0 then Decimal.ofGridPoint 0 0
  else roundToGrid mantissa exponent (decimalPoint mantissa exponent - count)

end Stepwise.Binary64
