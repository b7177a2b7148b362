import Stepwise.Pattern.Fault
import Stepwise.Text
import Stepwise.Unicode.Digit

/-! # Layouts

A layout says how a value is written in a placeholder: `*>+12,.2f` asks for two digits behind the
point, a sign in any case, commas between thousands, and a width of twelve filled up with asterisks
on the left. Its parts come in a fixed order and each of them may be missing; `Layout.ofText` reads
them.

What is left over when a layout has been written is spread by the two functions `Layout.pad`, for a
text, and `Layout.place`, for a number, whose zeros may go between the sign and the digits. -/

namespace Stepwise

/-- Where the value stands in a width that is larger than it. -/
inductive Align where
  /-- At the start. -/
  | left
  /-- At the end. -/
  | right
  /-- In the middle, an odd place being left over at the end. -/
  | center
  /-- At the end, but with the sign at the start. -/
  | afterSign
  deriving DecidableEq, Repr

/-- What stands before a number. -/
inductive SignRule where
  /-- A minus sign before a negative number. -/
  | minus
  /-- A sign before every number. -/
  | always
  /-- A minus sign or a space. -/
  | space
  deriving DecidableEq, Repr

/-- How a value is written. -/
structure Layout where
  /-- The character that fills up the width. -/
  fill : Char
  /-- Where the value stands in the width. -/
  align : Align
  /-- What stands before a number, if the layout says so. -/
  sign : Option SignRule
  /-- Whether a number that is written as zero loses its sign. -/
  unsignedZero : Bool
  /-- Whether a mark of the base is written, or a point with nothing behind it. -/
  alternate : Bool
  /-- The least number of characters. -/
  width : Option Nat
  /-- The character between groups of digits. -/
  separator : Option Char
  /-- The number of digits, or of characters of a text. -/
  precision : Option Nat
  /-- The letter of the presentation. -/
  code : Option Char
  deriving DecidableEq, Repr

namespace Pattern

/-! ## Numbers in patterns -/

/-- The greatest number in a pattern. -/
def maxNumber : Nat := Nat.pow 2 63 - 1

/-- The decimal digits at the start of a text as a number, or `none` if there are none; and what
follows them. -/
def takeNumber (cs : List Char) : Except PatternFault (Option Nat × List Char) :=
  let (ds, rest) := Text.spanUntil (!Unicode.isDecimal ·) cs
  let number := ds.foldl (fun n c => 10 * n + (Unicode.decimalValue? c).getD 0) 0
  if maxNumber < number then .error .numberTooLong
  else .ok (if ds.isEmpty then none else some number, rest)

end Pattern

namespace Layout

open Pattern (takeNumber)

/-! ## Reading a layout -/

/-- The alignment that a character stands for. -/
def alignOf? : Char → Option Align
  | '<' => some .left
  | '>' => some .right
  | '^' => some .center
  | '=' => some .afterSign
  | _ => none

/-- The sign rule that a character stands for. -/
def signOf? : Char → Option SignRule
  | '-' => some .minus
  | '+' => some .always
  | ' ' => some .space
  | _ => none

/-- A fill character, if an alignment follows it; an alignment; and the rest. -/
def takeAlign (cs : List Char) : Option Char × Option Align × List Char :=
  match cs with
  | [] => (none, none, [])
  | c :: rest =>
    match rest.head?.bind alignOf? with
    | some align => (some c, some align, rest.drop 1)
    | none =>
      match alignOf? c with
      | some align => (none, some align, rest)
      | none => (none, none, cs)

/-- A sign rule, if there is one, and the rest. -/
def takeSign (cs : List Char) : Option SignRule × List Char :=
  match cs.head?.bind signOf? with
  | some rule => (some rule, cs.drop 1)
  | none => (none, cs)

/-- Whether a text starts with a character, and the rest without it. -/
def takeFlag (flag : Char) (cs : List Char) : Bool × List Char :=
  if cs.head? = some flag then (true, cs.drop 1) else (false, cs)

/-- A separator, if there is one, and the rest; a comma and an underscore exclude each other. -/
def takeSeparator (cs : List Char) : Except PatternFault (Option Char × List Char) :=
  let (comma, cs) := takeFlag ',' cs
  let (underscore, cs) := takeFlag '_' cs
  if underscore && (comma || cs.head? = some ',') then .error .separatorsMixed
  else .ok (if comma then some ',' else if underscore then some '_' else none, cs)

/-- A point and a precision, if there is a point, and the rest. -/
def takePrecision (cs : List Char) : Except PatternFault (Option Nat × List Char) :=
  match takeFlag '.' cs with
  | (false, cs) => .ok (none, cs)
  | (true, cs) => do
    let (precision, rest) ← takeNumber cs
    if precision.isNone then .error .precisionMissing else .ok (precision, rest)

/-- Commas separate the digits of decimal presentations only, underscores those of all bases. -/
def allowsSeparator (separator : Char) : Option Char → Bool
  | none => true
  | some code =>
    "defgEG%F".toList.contains code || (separator == '_' && "boxX".toList.contains code)

/-- Read the layout of a value of a type, which stands to the right or to the left if the layout
does not say so, and whose presentation may have a letter by itself. -/
def ofText (typeName : String) (standard : Align) (standardCode : Option Char) (text : List Char) :
    Except PatternFault Layout := do
  let (fill, align, cs) := takeAlign text
  let (sign, cs) := takeSign cs
  let (unsignedZero, cs) := takeFlag 'z' cs
  let (alternate, cs) := takeFlag '#' cs
  let (zeros, cs) := if fill.isNone then takeFlag '0' cs else (false, cs)
  let (width, cs) ← takeNumber cs
  let (separator, cs) ← takeSeparator cs
  let (precision, cs) ← takePrecision cs
  let code ← match cs with
    | [] => pure standardCode
    | [code] => pure (some code)
    | _ => throw (.badLayout (String.ofList text) typeName)
  if let some separator := separator then
    unless allowsSeparator separator code do
      throw (.separatorRefused separator (code.getD '\x00'))
  let zeroAlign := if zeros && standard = .right then .afterSign else standard
  return { fill := fill.getD (if zeros then '0' else ' '), align := align.getD zeroAlign,
           sign, unsignedZero, alternate, width, separator, precision, code }

/-! ## Filling up the width -/

/-- The fill characters before, within and after a value of a given length. -/
def spread (layout : Layout) (length : Nat) : Nat × Nat × Nat :=
  let missing := layout.width.getD 0 - length
  match layout.align with
  | .left => (0, 0, missing)
  | .right => (missing, 0, 0)
  | .center => (missing / 2, 0, missing - missing / 2)
  | .afterSign => (0, missing, 0)

/-- A text brought to the width of a layout. -/
def pad (layout : Layout) (cs : List Char) : List Char :=
  let (before, _, after) := layout.spread cs.length
  List.replicate before layout.fill ++ cs ++ List.replicate after layout.fill

/-- The parts of a written number. -/
structure Parts where
  /-- Whether the number is negative. -/
  negative : Bool
  /-- The mark of the base. -/
  mark : List Char
  /-- The digits that are grouped. -/
  digits : List Char
  /-- What follows them: a point and further digits, an exponent, a word. -/
  rest : List Char

/-- The sign of a number. -/
def signText (layout : Layout) (negative : Bool) : List Char :=
  if negative then ['-'] else
  match layout.sign with
  | some .always => ['+']
  | some .space => [' ']
  | _ => []

/-- Digits with a separator before every group of `size`, counted from the end. -/
def separated (separator : Char) (size : Nat) : List Char → List Char
  | [] => []
  | [d] => [d]
  | d :: ds =>
    if ds.length % size = 0 then d :: separator :: separated separator size ds
    else d :: separated separator size ds

/-- The digits in groups, after as many zeros as bring them to a width. -/
def grouped (layout : Layout) (width : Nat) (digits : List Char) : List Char :=
  if digits.isEmpty then [] else
  match layout.separator with
  | none => Text.padLeft '0' width digits
  | some separator =>
    let size := if layout.code.any "boxX".toList.contains then 4 else 3
    separated separator size (Text.padLeft '0' (width - (width - 1) / (size + 1)) digits)

/-- A number brought to the width of a layout. -/
def place (layout : Layout) (parts : Parts) : List Char :=
  let sign := layout.signText parts.negative
  let others := sign.length + parts.mark.length + parts.rest.length
  let zeroWidth :=
    if layout.fill = '0' && layout.align = .afterSign then layout.width.getD 0 - others else 0
  let digits := layout.grouped zeroWidth parts.digits
  let (before, within, after) := layout.spread (others + digits.length)
  let fill (count : Nat) : List Char := List.replicate count layout.fill
  fill before ++ sign ++ parts.mark ++ fill within ++ digits ++ parts.rest ++ fill after

end Layout

end Stepwise
