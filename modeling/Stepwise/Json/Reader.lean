import Stepwise.Value
import Stepwise.Binary64.Reading

/-! # Reading JSON

`Json.read?` gives the value of a JSON text. Integers keep every digit, up to a limit on their
number; a number with a point or an exponent is read as the nearest binary64 number; the words
`NaN`, `Infinity` and `-Infinity` are numbers too. If an object names a field twice, the last value
counts and stands in the place of the first. -/

namespace Stepwise.Json

/-- The blanks between the parts of a JSON text. -/
def isSpace (c : Char) : Bool := c = ' ' || c = '\t' || c = '\n' || c = '\r'

/-- A text without the blanks at its start. -/
def skipSpaces (cs : List Char) : List Char := cs.dropWhile isSpace

/-! ## Strings -/

/-- The value of a hexadecimal digit. -/
def hexValue? (c : Char) : Option Nat :=
  if '0' ≤ c && c ≤ '9' then some (c.toNat - 48)
  else if 'a' ≤ c && c ≤ 'f' then some (c.toNat - 87)
  else if 'A' ≤ c && c ≤ 'F' then some (c.toNat - 55)
  else none

/-- The UTF-16 unit that four hexadecimal digits write, and what follows them. -/
def unit? : List Char → Option (Nat × List Char)
  | a :: b :: c :: d :: rest => do
    let a ← hexValue? a
    let b ← hexValue? b
    let c ← hexValue? c
    let d ← hexValue? d
    return (((a * 16 + b) * 16 + c) * 16 + d, rest)
  | _ => none

/-- Whether a UTF-16 unit is the first one of a pair. -/
def isHighSurrogate (unit : Nat) : Bool := 0xd800 ≤ unit && unit < 0xdc00

/-- Whether a UTF-16 unit is the second one of a pair. -/
def isLowSurrogate (unit : Nat) : Bool := 0xdc00 ≤ unit && unit < 0xe000

/-- The character that an escape by UTF-16 units writes, and what follows it. A unit that should be
part of a pair and is not stands for the replacement character. -/
def escapedUnits? (cs : List Char) : Option (Char × List Char) := do
  let (first, rest) ← unit? cs
  if isHighSurrogate first then
    match rest with
    | '\\' :: 'u' :: more =>
      match unit? more with
      | some (second, after) =>
        if isLowSurrogate second then
          return (Char.ofNat (0x10000 + (first - 0xd800) * 0x400 + (second - 0xdc00)), after)
        else return (Char.ofNat 0xfffd, rest)
      | none => return (Char.ofNat 0xfffd, rest)
    | _ => return (Char.ofNat 0xfffd, rest)
  else if isLowSurrogate first then return (Char.ofNat 0xfffd, rest)
  else return (Char.ofNat first, rest)

/-- The character that a letter behind a backslash writes. -/
def escaped? : Char → Option Char
  | '"' => some '"'
  | '\\' => some '\\'
  | '/' => some '/'
  | 'b' => some (Char.ofNat 0x08)
  | 'f' => some (Char.ofNat 0x0c)
  | 'n' => some '\n'
  | 'r' => some '\r'
  | 't' => some '\t'
  | _ => none

/-- The characters of a string up to its closing quote, and what follows it. The first argument
bounds the number of characters. -/
def stringBody? : Nat → List Char → Option (List Char × List Char)
  | 0, _ => none
  | _, [] => none
  | fuel + 1, c :: cs =>
    if c = '"' then some ([], cs)
    else if c = '\\' then
      match cs with
      | 'u' :: rest => do
        let (c, rest) ← escapedUnits? rest
        let (body, after) ← stringBody? fuel rest
        return (c :: body, after)
      | e :: rest => do
        let c ← escaped? e
        let (body, after) ← stringBody? fuel rest
        return (c :: body, after)
      | [] => none
    else if c.toNat < 0x20 then none
    else do
      let (body, after) ← stringBody? fuel cs
      return (c :: body, after)

/-- The string whose opening quote was just read, and what follows it. -/
def string? (cs : List Char) : Option (String × List Char) :=
  (stringBody? (cs.length + 1) cs).map fun (body, rest) => (String.ofList body, rest)

/-! ## Numbers -/

/-- The greatest number of digits in an integer. -/
def maxIntegerDigits : Nat := 4300

/-- The digits at the start of a text, of which there must be one, and what follows them. -/
def digits? (cs : List Char) : Option (List Char × List Char) :=
  let ds := cs.takeWhile Char.isDigit
  if ds.isEmpty then none else some (ds, cs.dropWhile Char.isDigit)

/-- The whole part of a number: a zero, or digits that do not start with one. -/
def wholePart? : List Char → Option (List Char × List Char)
  | '0' :: rest => some (['0'], rest)
  | cs => digits? cs

/-- The digits behind a point, if there is one with digits behind it. -/
def fractionPart : List Char → Option (List Char) × List Char
  | '.' :: cs => match digits? cs with
    | some (ds, rest) => (some ds, rest)
    | none => (none, '.' :: cs)
  | cs => (none, cs)

/-- The exponent, if there is one with digits. -/
def exponentPart : List Char → Option Int × List Char
  | [] => (none, [])
  | e :: cs =>
    if e = 'e' || e = 'E' then
      let (negative, rest) := Binary64.takeSign cs
      match digits? rest with
      | some (ds, after) => (some (Binary64.signed negative (Binary64.natOfDigits ds)), after)
      | none => (none, e :: cs)
    else (none, e :: cs)

/-- A number without its sign, and what follows it. -/
def number? (negative : Bool) (cs : List Char) : Option (Value × List Char) := do
  let (whole, rest) ← wholePart? cs
  let (fraction, rest) := fractionPart rest
  let (exponent, rest) := exponentPart rest
  if fraction.isNone && exponent.isNone then
    if maxIntegerDigits < whole.length then none
    else return (.int (Binary64.signed negative (Binary64.natOfDigits whole)), rest)
  else
    let ds := fraction.getD []
    return (.float (Binary64.roundDecimal negative (Binary64.natOfDigits (whole ++ ds))
      (exponent.getD 0 - ds.length)), rest)

/-! ## Values -/

/-- The words that are values. -/
def words : List (String × Value) := [
  ("null", .null), ("true", .bool true), ("false", .bool false), ("NaN", .float .nan),
  ("Infinity", .float (.infinite false)), ("-Infinity", .float (.infinite true))]

/-- The word at the start of a text, if there is one, and what follows it. -/
def word? (cs : List Char) : Option (Value × List Char) :=
  (words.find? fun (word, _) => word.toList.isPrefixOf cs).map fun (word, value) =>
    (value, cs.drop word.length)

mutual

/-- The value at the start of a text, and what follows it. The first argument bounds the number of
values, elements and fields. -/
def value? : Nat → List Char → Option (Value × List Char)
  | 0, _ => none
  | _, [] => none
  | fuel + 1, c :: cs =>
    if c = '"' then (string? cs).map fun (s, rest) => (.text s, rest)
    else if c = '[' then
      match skipSpaces cs with
      | ']' :: rest => some (.list [], rest)
      | rest => (items? fuel rest).map fun (items, rest) => (.list items, rest)
    else if c = '{' then
      match skipSpaces cs with
      | '}' :: rest => some (.object [], rest)
      | rest => (fields? fuel [] rest).map fun (fields, rest) => (.object fields, rest)
    else match word? (c :: cs) with
      | some found => some found
      | none => if c = '-' then number? true cs else number? false (c :: cs)

/-- The elements of a list up to its closing bracket, and what follows it. -/
def items? : Nat → List Char → Option (List Value × List Char)
  | 0, _ => none
  | fuel + 1, cs => do
    let (value, rest) ← value? fuel cs
    match skipSpaces rest with
    | ',' :: rest =>
      let (others, after) ← items? fuel (skipSpaces rest)
      return (value :: others, after)
    | ']' :: rest => return ([value], rest)
    | _ => none

/-- The fields of an object up to its closing brace, on top of those read before, and what follows
it. -/
def fields? : Nat → Fields → List Char → Option (Fields × List Char)
  | 0, _, _ => none
  | fuel + 1, before, cs => do
    match cs with
    | '"' :: rest =>
      let (name, rest) ← string? rest
      match skipSpaces rest with
      | ':' :: rest =>
        let (value, rest) ← value? fuel (skipSpaces rest)
        let fields := before.put name value
        match skipSpaces rest with
        | ',' :: rest => fields? fuel fields (skipSpaces rest)
        | '}' :: rest => return (fields, rest)
        | _ => none
      | _ => none
    | _ => none

end

/-- The value of a JSON text. -/
def read? (cs : List Char) : Option Value := do
  let (value, rest) ← value? (2 * cs.length + 2) (skipSpaces cs)
  if (skipSpaces rest).isEmpty then return value else none

end Stepwise.Json
