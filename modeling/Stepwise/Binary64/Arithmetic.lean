import Stepwise.Binary64

/-! # Arithmetic on binary64 numbers

Sums, products, quotients and remainders are computed exactly in the integers and rounded once by
`roundRatio`, which is what the format asks for. Only `power`, whose exact value is seldom a ratio,
is handed to the processor through the 64-bit form of the operands (`toBits`, `ofBits`). -/

namespace Stepwise.Binary64

/-- The number with the other sign. -/
def negate : Binary64 → Binary64
  | nan => nan
  | infinite negative => infinite !negative
  | finite negative mantissa exponent => finite (!negative) mantissa exponent

/-- The sum of two numbers. A sum of zero is negative only if both terms are. -/
def add : Binary64 → Binary64 → Binary64
  | nan, _ | _, nan => nan
  | infinite a, infinite b => if a = b then infinite a else nan
  | infinite a, finite .. => infinite a
  | finite .., infinite b => infinite b
  | finite a m p, finite b n q =>
    let least := min p q
    let sum := signed a (m * powTwo (p - least)) + signed b (n * powTwo (q - least))
    if sum = 0 then zero (a && b) else roundDyadic (sum < 0) sum.natAbs least

/-- The difference of two numbers. -/
def sub (x y : Binary64) : Binary64 := add x (negate y)

/-- The product of two numbers. -/
def mul : Binary64 → Binary64 → Binary64
  | nan, _ | _, nan => nan
  | infinite a, infinite b => infinite (a != b)
  | infinite a, finite b n _ => if n = 0 then nan else infinite (a != b)
  | finite a m _, infinite b => if m = 0 then nan else infinite (a != b)
  | finite a m p, finite b n q => roundDyadic (a != b) (m * n) (p + q)

/-- The quotient of two numbers; a quotient by zero is infinite, or NaN for zero by zero. -/
def div : Binary64 → Binary64 → Binary64
  | nan, _ | _, nan => nan
  | infinite _, infinite _ => nan
  | infinite a, finite b _ _ => infinite (a != b)
  | finite a _ _, infinite b => zero (a != b)
  | finite a m p, finite b n q =>
    if n = 0 then (if m = 0 then nan else infinite (a != b))
    else roundRatio (a != b) (m * powTwo (p - q)) (n * powTwo (q - p))

/-- What is left of `x` after taking away `y` a whole number of times, with the sign of `x`. -/
def remainder : Binary64 → Binary64 → Binary64
  | nan, _ | _, nan => nan
  | infinite _, _ => nan
  | x@(finite ..), infinite _ => x
  | finite a m p, finite _ n q =>
    let least := min p q
    if n = 0 then nan
    else roundDyadic a (m * powTwo (p - least) % (n * powTwo (q - least))) least

/-! ## The 64-bit form -/

/-- The 64-bit form of a number: sign, biased exponent, fraction. -/
def toBits : Binary64 → UInt64
  | nan => 0x7ff8000000000000
  | infinite negative => if negative then 0xfff0000000000000 else 0x7ff0000000000000
  | finite negative mantissa exponent =>
    let sign := if negative then Nat.pow 2 63 else 0
    let magnitude :=
      if mantissa < Nat.pow 2 52 then mantissa
      else (exponent - minExponent + 1).toNat * Nat.pow 2 52 + (mantissa - Nat.pow 2 52)
    UInt64.ofNat (sign + magnitude)

/-- The number that a 64-bit form stands for. -/
def ofBits (bits : UInt64) : Binary64 :=
  let negative := bits.toNat / Nat.pow 2 63 == 1
  let biased : Nat := bits.toNat / Nat.pow 2 52 % Nat.pow 2 11
  let fraction : Nat := bits.toNat % Nat.pow 2 52
  if biased = 2047 then (if fraction = 0 then infinite negative else nan)
  else if biased = 0 then finite negative fraction minExponent
  else finite negative (Nat.pow 2 52 + fraction) ((biased : Int) + minExponent - 1)

/-- `x` raised to the power of `y`. -/
def power (x y : Binary64) : Binary64 :=
  ofBits (Float.pow (Float.ofBits x.toBits) (Float.ofBits y.toBits)).toBits

end Stepwise.Binary64
