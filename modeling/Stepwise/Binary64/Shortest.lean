import Stepwise.Binary64
import Stepwise.Text

/-! # The shortest text of a binary64 number

`shortest` finds the fewest decimal digits that read back as the number: it looks at the decimal
grids of one digit, two digits, and so on, and on each at the two grid points next to the number;
the first grid with a point that rounds to the number wins, and of two such points the nearer.
Seventeen digits always suffice.

`toText` lays the digits out: positionally while the point falls at most sixteen places behind the
first digit and at most three zeros before it, otherwise with an exponent of at least two digits. A
whole number keeps `.0`, so that its text is not that of an integer. -/

namespace Stepwise.Binary64

/-! ## Digits -/

/-- A decimal number `0.d₁d₂… · 10 ^ point`. -/
structure Decimal where
  /-- The significant digits. -/
  digits : List Char
  /-- How many digits stand before the decimal point. -/
  point : Int
  deriving DecidableEq, Repr

/-- `mantissa · 2 ^ exponent · 10 ^ (-place)` as a ratio of naturals. -/
def scaled (mantissa : Nat) (exponent place : Int) : Nat × Nat :=
  (mantissa * powTwo exponent * Nat.pow 10 (-place).toNat,
    powTwo (-exponent) * Nat.pow 10 place.toNat)

/-- The number of decimal digits before the point of a positive number; zero or less for a number
below one. -/
def decimalPoint (mantissa : Nat) (exponent : Int) : Int :=
  let least := ((mantissa.log2 : Int) + exponent) * 30103 / 100000
  let fits (k : Int) : Bool :=
    let (numerator, denominator) := scaled mantissa exponent k
    numerator < denominator
  if fits least then least
  else if fits (least + 1) then least + 1
  else if fits (least + 2) then least + 2
  else least + 3

/-- Whether the grid point `point · 10 ^ place` rounds to `mantissa · 2 ^ exponent`: it lies in the
interval half way to the two neighbours, whose ends belong to it for an even mantissa. -/
def readsBack (mantissa : Nat) (exponent : Int) (place : Int) (point : Nat) : Bool :=
  let below := if mantissa = Nat.pow 2 52 && minExponent < exponent then 1 else 2
  let (low, denominator) := scaled (4 * mantissa - below) (exponent - 2) place
  let (high, _) := scaled (4 * mantissa + 2) (exponent - 2) place
  let here := point * denominator
  if mantissa % 2 = 0 then low ≤ here && here ≤ high else low < here && here < high

/-- The grid point nearest to the number among its two neighbours on the grid `10 ^ place`, if one
of them rounds to the number. -/
def gridPoint? (mantissa : Nat) (exponent place : Int) : Option Nat :=
  let (numerator, denominator) := scaled mantissa exponent place
  let floor := numerator / denominator
  let nearest := divideToEven numerator denominator
  let other := if nearest = floor then floor + 1 else floor
  if readsBack mantissa exponent place nearest then some nearest
  else if readsBack mantissa exponent place other then some other
  else none

/-- The digits on the first grid with a hit, starting with `count` digits. -/
def searchGrids (mantissa : Nat) (exponent point : Int) : Nat → Nat → Nat × Int
  | 0, count => ((gridPoint? mantissa exponent (point - count)).getD 0, point - count)
  | fuel + 1, count =>
    match gridPoint? mantissa exponent (point - count) with
    | some n => (n, point - count)
    | none => searchGrids mantissa exponent point fuel (count + 1)

/-- A list without the zeros at its end. -/
def dropEndZeros (ds : List Char) : List Char := (ds.reverse.dropWhile (· == '0')).reverse

/-- The decimal number `n · 10 ^ place`; zero keeps the one digit `0`. -/
def Decimal.ofGridPoint (n : Nat) (place : Int) : Decimal :=
  if n = 0 then ⟨['0'], 1⟩
  else
    let ds := Text.digits 10 n
    ⟨dropEndZeros ds, ds.length + place⟩

/-- The fewest decimal digits that read back as the number `mantissa · 2 ^ exponent`. -/
def shortest (mantissa : Nat) (exponent : Int) : Decimal :=
  if mantissa = 0 then Decimal.ofGridPoint 0 0 else
  let (n, place) := searchGrids mantissa exponent (decimalPoint mantissa exponent) 16 1
  Decimal.ofGridPoint n place

/-! ## Layout -/

/-- An exponent with its sign and at least two digits. -/
def exponentText (e : Int) : List Char :=
  (if e < 0 then '-' else '+') :: Text.padLeft '0' 2 (Text.digits 10 e.natAbs)

/-- Digits with the decimal point in its place, zeros being added for at least one digit before it
and `places` digits behind it. A point with nothing behind it is kept only on demand. -/
def Decimal.positional (places : Nat) (keepPoint : Bool) (d : Decimal) : List Char :=
  let point := d.point.toNat
  let whole := d.digits.take point
  let fraction := List.replicate (-d.point).toNat '0' ++ d.digits.drop point
  (if point = 0 then ['0'] else whole ++ List.replicate (point - whole.length) '0') ++
    (if fraction.isEmpty && places = 0 && !keepPoint then []
    else '.' :: (fraction ++ List.replicate (places - fraction.length) '0'))

/-- Digits with the point behind the first one, and an exponent. -/
def Decimal.scientific (places : Nat) (keepPoint : Bool) (d : Decimal) : List Char :=
  Decimal.positional places keepPoint ⟨d.digits, 1⟩ ++ 'e' :: exponentText (d.point - 1)

/-- The text of a decimal number: positional with at least one digit behind the point, or with an
exponent if it is very large or small. -/
def Decimal.toText (d : Decimal) : List Char :=
  if -4 < d.point && d.point ≤ 16 then d.positional 1 false else d.scientific 0 false

/-- How a format spells the numbers that are not finite. -/
structure Spelling where
  /-- The word for NaN. -/
  nan : String
  /-- The word for infinity. -/
  infinity : String

/-- The text of a number, with the given words for NaN and infinity. -/
def toTextWith (spelling : Spelling) : Binary64 → String
  | nan => spelling.nan
  | infinite negative => (if negative then "-" else "") ++ spelling.infinity
  | finite negative mantissa exponent =>
    (if negative then "-" else "") ++ String.ofList (shortest mantissa exponent).toText

/-- The words `nan` and `inf`. -/
def plainSpelling : Spelling := ⟨"nan", "inf"⟩

/-- The text of a number: the fewest digits that read back as it. -/
def toText (x : Binary64) : String := toTextWith plainSpelling x

end Stepwise.Binary64
