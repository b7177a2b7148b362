import Stepwise.Binary64
import Stepwise.Unicode.Blank
import Stepwise.Unicode.Digit

/-! # Reading binary64 numbers

`ofText?` reads a number that a person wrote: an optional sign, decimal digits of any script with an
optional point and an optional exponent, or one of the words for infinity and NaN in any letter
case. Blanks around the number are skipped, and an underscore may stand between two digits. The
number read is the binary64 number nearest to the decimal one. -/

namespace Stepwise.Binary64

/-- The natural number that a list of the digits `0` to `9` writes. -/
def natOfDigits (ds : List Char) : Nat :=
  ds.foldl (fun n d => 10 * n + (d.toNat - '0'.toNat)) 0

/-- A text in which the decimal digits of every script are replaced by `0` to `9`. -/
def westernDigits (cs : List Char) : List Char :=
  cs.map fun c => match Unicode.decimalValue? c with
    | some value => Nat.digitChar value
    | none => c

/-- The text without its underscores, each of which must stand between two digits. -/
def dropUnderscores : Bool → List Char → Option (List Char)
  | _, [] => some []
  | _, ['_'] => none
  | afterDigit, '_' :: c :: cs =>
    if afterDigit && c.isDigit then (dropUnderscores true cs).map (c :: ·) else none
  | _, c :: cs => (dropUnderscores c.isDigit cs).map (c :: ·)

/-- A sign, if there is one, and what follows it. -/
def takeSign : List Char → Bool × List Char
  | '-' :: cs => (true, cs)
  | '+' :: cs => (false, cs)
  | cs => (false, cs)

/-- An exponent: the letter `e`, an optional sign and at least one digit; or nothing. -/
def exponent? : List Char → Option Int
  | [] => some 0
  | c :: cs =>
    let (negative, ds) := takeSign cs
    if (c = 'e' || c = 'E') && !ds.isEmpty && ds.all Char.isDigit then
      some (signed negative (natOfDigits ds))
    else none

/-- An unsigned decimal number with a given sign. -/
def decimal? (negative : Bool) (cs : List Char) : Option Binary64 :=
  let whole := cs.takeWhile Char.isDigit
  let (fraction, rest) := match cs.dropWhile Char.isDigit with
    | '.' :: rest => (rest.takeWhile Char.isDigit, rest.dropWhile Char.isDigit)
    | rest => ([], rest)
  if whole.isEmpty && fraction.isEmpty then none
  else (exponent? rest).map fun e =>
    roundDecimal negative (natOfDigits (whole ++ fraction)) (e - fraction.length)

/-- A decimal number or a word for infinity or NaN, with an optional sign. -/
def signedDecimal? (cs : List Char) : Option Binary64 :=
  let (negative, rest) := takeSign cs
  let word := String.ofList (rest.map Char.toLower)
  if word = "inf" || word = "infinity" then some (infinite negative)
  else if word = "nan" then some nan
  else decimal? negative rest

/-- The text without the blanks that may surround a number. -/
def trimNumber (cs : List Char) : List Char :=
  ((cs.dropWhile Unicode.isNumberBlank).reverse.dropWhile Unicode.isNumberBlank).reverse

/-- The number that a text writes, if it writes one. -/
def ofText? (s : String) : Option Binary64 :=
  (dropUnderscores false (westernDigits (trimNumber s.toList))).bind signedDecimal?

end Stepwise.Binary64
