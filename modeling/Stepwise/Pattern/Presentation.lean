import Stepwise.Binary64.Arithmetic
import Stepwise.Binary64.Rounded
import Stepwise.Fault
import Stepwise.Pattern.Layout
import Stepwise.Value.Display

/-! # Values under a layout

`Value.present` writes a value as a layout asks. Each type of value has presentations of its own,
chosen by the last letter of the layout: an integer in one of four bases or as a character, a
binary64 number with a fixed number of places or digits, a text. Integers may also be presented as
binary64 numbers. Null, lists and objects have no layout but the empty one. -/

namespace Stepwise

namespace Layout

/-! ## Binary64 numbers -/

/-- The text of a decimal number of `count` digits: positional while the point falls behind at most
`limit` digits and not far before the first one, else with an exponent. The zeros at the end are
kept only in the alternate form, and `places` digits stand behind the point of a positional text. -/
def generalText (alternate : Bool) (count : Nat) (limit : Int) (places : Nat)
    (d : Binary64.Decimal) : List Char :=
  if -4 < d.point && d.point ≤ limit then
    d.positional (if alternate then max places (count - d.point).toNat else places) alternate
  else d.scientific (if alternate then count - 1 else 0) alternate

/-- The decimal number to write for a finite number, and its text. -/
def decimalText (layout : Layout) (mantissa : Nat) (exponent : Int) :
    Binary64.Decimal × List Char :=
  let alternate := layout.alternate
  let precision := layout.precision.getD 6
  let count := max precision 1
  match layout.code with
  | none =>
    if layout.precision.isNone then
      let d := Binary64.shortest mantissa exponent
      (d, generalText alternate 0 16 1 d)
    else
      let d := Binary64.roundToDigits mantissa exponent count
      (d, generalText alternate count (count - 1) 1 d)
  | some code =>
    if code = 'e' || code = 'E' then
      let d := Binary64.roundToDigits mantissa exponent (precision + 1)
      (d, d.scientific precision alternate)
    else if code = 'g' || code = 'G' || code = 'n' then
      let d := Binary64.roundToDigits mantissa exponent count
      (d, generalText alternate count count 0 d)
    else
      let d := Binary64.roundToPlaces mantissa exponent precision
      (d, d.positional precision alternate)

/-- The parts of a written binary64 number. -/
def floatParts (layout : Layout) (x : Binary64) : Parts :=
  let (negative, text) := match x with
    | .nan => (false, "nan".toList)
    | .infinite negative => (negative, "inf".toList)
    | .finite negative mantissa exponent =>
      let (d, text) := layout.decimalText mantissa exponent
      (negative && !(layout.unsignedZero && d.digits == ['0']), text)
  let text := if layout.code.any "EFG".toList.contains then text.map Char.toUpper else text
  let text := if layout.code = some '%' then text ++ ['%'] else text
  ⟨negative, [], text.takeWhile Char.isDigit, text.dropWhile Char.isDigit⟩

/-- A binary64 number as a layout asks; a percentage is of the number times hundred. -/
def presentFloat (layout : Layout) (x : Binary64) : Except PatternFault (List Char) :=
  if Nat.pow 2 31 ≤ layout.precision.getD 0 then .error .precisionTooLarge else
  let scaled := if layout.code = some '%' then x.mul (Binary64.roundDyadic false 100 0) else x
  .ok (layout.place (layout.floatParts scaled))

/-! ## Integers -/

/-- The base of an integer presentation and its mark. -/
def baseOf : Option Char → Nat × List Char
  | some 'b' => (2, ['0', 'b'])
  | some 'o' => (8, ['0', 'o'])
  | some 'x' => (16, ['0', 'x'])
  | some 'X' => (16, ['0', 'X'])
  | _ => (10, [])

/-- An integer in one of the bases. -/
def presentInBase (layout : Layout) (n : Int) : List Char :=
  let (base, mark) := baseOf layout.code
  let digits := Text.digits base n.natAbs
  layout.place
    ⟨n < 0, if layout.alternate then mark else [],
      if layout.code = some 'X' then digits.map Char.toUpper else digits, []⟩

/-- The character whose code point is an integer. -/
def presentCharacter (layout : Layout) (n : Int) : Except PatternFault (List Char) :=
  let place := "with integer format specifier 'c'"
  if layout.sign.isSome then .error (.featureRefused "Sign" place)
  else if layout.alternate then .error (.featureRefused "Alternate form (#)" place)
  else if n < 0 || 0x110000 ≤ n then .error .codePointTooLarge
  else .ok (layout.place ⟨false, [], [], [Char.ofNat n.toNat]⟩)

/-- An integer of a type as a layout asks. -/
def presentInt (layout : Layout) (typeName : String) (n : Int) : Except Fault (List Char) :=
  match layout.code with
  | none => .ok (layout.presentInBase n)
  | some code =>
    if "bcdoxXn".toList.contains code then
      if layout.precision.isSome then
        .error (.pattern (.featureRefused "Precision" "in integer format specifier"))
      else if layout.unsignedZero then
        .error (.pattern
          (.featureRefused "Negative zero coercion (z)" "in integer format specifier"))
      else if code = 'c' then (layout.presentCharacter n).mapError .pattern
      else .ok (layout.presentInBase n)
    else if "eEfFgG%".toList.contains code then
      match Binary64.ofInt? n with
      | none => .error .integerTooLarge
      | some x => (layout.presentFloat x).mapError .pattern
    else .error (.pattern (.unknownCode code typeName))

/-! ## Texts -/

/-- A text as a layout asks: cut to the precision and brought to the width. -/
def presentText (layout : Layout) (cs : List Char) : Except PatternFault (List Char) :=
  let place := "in string format specifier"
  if layout.code ≠ some 's' then .error (.unknownCode (layout.code.getD 's') "str")
  else if layout.sign = some .space then .error (.featureRefused "Space" place)
  else if layout.sign.isSome then .error (.featureRefused "Sign" place)
  else if layout.unsignedZero then .error (.featureRefused "Negative zero coercion (z)" place)
  else if layout.alternate then .error (.featureRefused "Alternate form (#)" place)
  else if layout.align = .afterSign then .error (.featureRefused "'=' alignment" place)
  else .ok (layout.pad (cs.take (layout.precision.getD cs.length)))

end Layout

/-- A value as a layout asks; the empty layout asks for its text. -/
def Value.present (layout : List Char) (value : Value) : Except Fault (List Char) :=
  if layout.isEmpty then .ok value.toText.toList else
  let read (standard : Align) (code : Option Char) : Except Fault Layout :=
    (Layout.ofText value.typeName standard code layout).mapError .pattern
  match value with
  | .float x => do
    let layout ← read .right none
    match layout.code with
    | some code =>
      if "eEfFgGn%".toList.contains code then (layout.presentFloat x).mapError .pattern
      else .error (.pattern (.unknownCode code value.typeName))
    | none => (layout.presentFloat x).mapError .pattern
  | .int n => do (← read .right (some 'd')).presentInt value.typeName n
  | .bool b => do (← read .right (some 'd')).presentInt value.typeName b.toInt
  | .text s => do ((← read .left (some 's')).presentText s.toList).mapError .pattern
  | _ => .error (.pattern (.layoutRefused value.typeName))

end Stepwise
