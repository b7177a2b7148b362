/-! # Binary64 numbers

The numbers of the IEEE 754 binary64 format, held exactly: NaN, the two infinities, and the finite
numbers `±mantissa · 2 ^ exponent`. Everything here is integer arithmetic, so each statement about
these numbers is one about integers.

`roundRatio` gives the binary64 number nearest to a ratio of naturals, a tie going to the even
mantissa; it is the only place where rounding happens. The numbers it gives have a mantissa below
`2 ^ 53` and are normalized (`IsNormal`). Comparison (`compare?`, `compareInt?`) is by value, so it
does not depend on how a number is represented; NaN compares with nothing. -/

namespace Stepwise

/-- A number of the binary64 format. -/
inductive Binary64 where
  /-- The result of an undefined operation. -/
  | nan
  /-- Beyond every finite number, on either side. -/
  | infinite (negative : Bool)
  /-- The number `mantissa · 2 ^ exponent`, negated if `negative`; zero keeps its sign. -/
  | finite (negative : Bool) (mantissa : Nat) (exponent : Int)
  deriving DecidableEq, Repr, Inhabited

namespace Binary64

/-! ## Rounding -/

/-- The least exponent of a mantissa. -/
def minExponent : Int := -1074

/-- The greatest exponent of a mantissa. -/
def maxExponent : Int := 971

/-- The mantissa fits 53 bits, and uses all of them unless the exponent is the least one. -/
def IsNormal : Binary64 → Prop
  | finite _ mantissa exponent =>
    mantissa < Nat.pow 2 53 ∧ minExponent ≤ exponent ∧ exponent ≤ maxExponent ∧
      (Nat.pow 2 52 ≤ mantissa ∨ exponent = minExponent)
  | _ => True

/-- Zero with a sign. -/
def zero (negative : Bool) : Binary64 := finite negative 0 minExponent

/-- The quotient of two naturals rounded to the nearest natural, a tie going to the even one. -/
def divideToEven (numerator denominator : Nat) : Nat :=
  let quotient := numerator / denominator
  let twice := 2 * (numerator % denominator)
  if denominator < twice || (denominator == twice && quotient % 2 == 1) then quotient + 1
  else quotient

/-- The natural part of a power of two: `2 ^ e` for a natural `e`, else 1. -/
def powTwo (e : Int) : Nat := Nat.pow 2 e.toNat

/-- The greatest `e` with `2 ^ e ≤ numerator / denominator`, both being positive. -/
def ratioLog2 (numerator denominator : Nat) : Int :=
  let e : Int := (numerator.log2 : Int) - denominator.log2
  if numerator * powTwo (-e) < denominator * powTwo e then e - 1 else e

/-- The binary64 number nearest to `numerator / denominator` with a sign; a tie goes to the even
mantissa, and what is too large becomes infinite. -/
def roundRatio (negative : Bool) (numerator denominator : Nat) : Binary64 :=
  if numerator = 0 then zero negative else
  let exponent := max (ratioLog2 numerator denominator - 52) minExponent
  let mantissa := divideToEven (numerator * powTwo (-exponent)) (denominator * powTwo exponent)
  let (mantissa, exponent) :=
    if mantissa = Nat.pow 2 53 then (Nat.pow 2 52, exponent + 1) else (mantissa, exponent)
  if maxExponent < exponent then infinite negative else finite negative mantissa exponent

/-- The binary64 number nearest to `mantissa · 2 ^ exponent`. -/
def roundDyadic (negative : Bool) (mantissa : Nat) (exponent : Int) : Binary64 :=
  roundRatio negative (mantissa * powTwo exponent) (powTwo (-exponent))

/-- The binary64 number nearest to `mantissa · 10 ^ exponent`. Exponents far outside the range of
the format are decided by the number of digits alone. -/
def roundDecimal (negative : Bool) (mantissa : Nat) (exponent : Int) : Binary64 :=
  if mantissa = 0 then zero negative else
  let magnitude : Int := (Nat.toDigits 10 mantissa).length + exponent
  if 400 < magnitude then infinite negative
  else if magnitude < -400 then zero negative
  else
    roundRatio negative (mantissa * Nat.pow 10 exponent.toNat) (Nat.pow 10 (-exponent).toNat)

/-! ## Integers -/

/-- The binary64 number nearest to an integer; `none` if that is beyond the finite numbers. -/
def ofInt? (n : Int) : Option Binary64 :=
  match roundRatio (n < 0) n.natAbs 1 with
  | infinite _ => none
  | x => some x

/-- The integer of a sign and a magnitude. -/
def signed (negative : Bool) (magnitude : Nat) : Int :=
  if negative then -(magnitude : Int) else magnitude

/-- Whether the number is a whole number. -/
def isWhole : Binary64 → Bool
  | finite _ mantissa exponent => mantissa % powTwo (-exponent) == 0
  | _ => false

/-- The whole part of a finite number: what is behind the point is dropped. -/
def truncate? : Binary64 → Option Int
  | finite negative mantissa exponent =>
    some (signed negative (mantissa * powTwo exponent / powTwo (-exponent)))
  | _ => none

/-- The whole number nearest to a finite number, a tie going to the even one. -/
def round? : Binary64 → Option Int
  | finite negative mantissa exponent =>
    some (signed negative (divideToEven (mantissa * powTwo exponent) (powTwo (-exponent))))
  | _ => none

/-- Neither NaN nor infinite. -/
def isFinite : Binary64 → Bool
  | finite .. => true
  | _ => false

/-- Zero of either sign. -/
def isZero : Binary64 → Bool
  | finite _ mantissa _ => mantissa == 0
  | _ => false

/-! ## Order -/

/-- Compare `m · 2 ^ p` with `n · 2 ^ q`. -/
def compareDyadic (m p n q : Int) : Ordering :=
  let least := min p q
  compare (m * powTwo (p - least)) (n * powTwo (q - least))

/-- How two numbers compare by value; nothing compares with NaN. -/
def compare? : Binary64 → Binary64 → Option Ordering
  | nan, _ | _, nan => none
  | infinite a, infinite b => some (compare b a)
  | infinite negative, finite .. => some (if negative then .lt else .gt)
  | finite .., infinite negative => some (if negative then .gt else .lt)
  | finite a m p, finite b n q => some (compareDyadic (signed a m) p (signed b n) q)

/-- How a number compares by value with an integer. -/
def compareInt? : Binary64 → Int → Option Ordering
  | nan, _ => none
  | infinite negative, _ => some (if negative then .lt else .gt)
  | finite a m p, n => some (compareDyadic (signed a m) p n 0)

/-- The first number is less than the second. -/
def lt (x y : Binary64) : Bool := compare? x y == some .lt

/-- The first number is less than or equal to the second. -/
def le (x y : Binary64) : Bool := compare? x y == some .lt || compare? x y == some .eq

@[simp] theorem compare?_nan_left (x : Binary64) : compare? nan x = none := by
  cases x <;> rfl

@[simp] theorem compare?_nan_right (x : Binary64) : compare? x nan = none := by
  cases x <;> rfl

end Binary64

end Stepwise
