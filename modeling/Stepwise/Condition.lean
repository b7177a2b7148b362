import Stepwise.Value.Display
import Stepwise.Value.Reading
import Stepwise.Fault
import Stepwise.Unicode.LetterCase

/-! # Conditions

A condition compares the value of a variable, the *actual* one, with an *expected* one by an
`Operator`. Most operators have several names, which `Operator.named` lists. `Operator.holds` is the
meaning of an operator:

* an actual value of null satisfies `notExists` and nothing else;
* the order operators compare binary64 numbers, and are false of values that are not numbers;
* values are equal if they mean the same or are shown by the same text;
* the text operators look at the lower-case texts of the two values. -/

namespace Stepwise

/-- How two values are compared. -/
inductive Operator where
  /-- Same meaning or same text. -/
  | equal
  /-- The negation of `equal`. -/
  | notEqual
  /-- The lesser number. -/
  | less
  /-- The greater number. -/
  | greater
  /-- The lesser number or the same. -/
  | lessOrEqual
  /-- The greater number or the same. -/
  | greaterOrEqual
  /-- The expected text occurs in the actual one. -/
  | contains
  /-- The negation of `contains`. -/
  | notContains
  /-- The actual text starts with the expected one. -/
  | startsWith
  /-- The actual text ends with the expected one. -/
  | endsWith
  /-- There is an actual value. -/
  | exists
  /-- There is no actual value. -/
  | notExists
  deriving DecidableEq, Repr

namespace Operator

/-- The name of an operator in messages. -/
def symbol : Operator → String
  | equal => "=="
  | notEqual => "!="
  | less => "<"
  | greater => ">"
  | lessOrEqual => "<="
  | greaterOrEqual => ">="
  | contains => "contains"
  | notContains => "not_contains"
  | startsWith => "starts_with"
  | endsWith => "ends_with"
  | .exists => "exists"
  | notExists => "not_exists"

/-- Every name of every operator. -/
def named : List (String × Operator) := [
  ("==", equal), ("equals", equal), ("eq", equal),
  ("!=", notEqual), ("not_equals", notEqual), ("neq", notEqual),
  ("<", less), ("less", less),
  (">", greater), ("greater", greater),
  ("<=", lessOrEqual), ("less_or_equal", lessOrEqual),
  (">=", greaterOrEqual), ("greater_or_equal", greaterOrEqual),
  ("contains", contains), ("not_contains", notContains),
  ("starts_with", startsWith), ("ends_with", endsWith),
  ("exists", .exists), ("not_exists", notExists)]

/-- The operator of a name. -/
def ofName? (name : String) : Option Operator := named.lookup name

/-- Whether an operator asks for an expected value. -/
def needsExpected : Operator → Bool
  | .exists | notExists => false
  | _ => true

/-- The order operators. -/
def isOrder : Operator → Bool
  | less | greater | lessOrEqual | greaterOrEqual => true
  | _ => false

end Operator

namespace Condition

/-- Two values mean the same or are shown by the same text. -/
def same (actual expected : Value) : Bool :=
  actual.equals expected || actual.toText == expected.toText

/-- The text of a value in lower case. -/
def lowerText (value : Value) : List Char := Unicode.lower value.toText.toList

/-- Compare two values as numbers; false if one of them is not a number, and a fault if one of them
is an integer beyond the binary64 numbers. -/
def compareNumbers (test : Binary64 → Binary64 → Bool) (actual expected : Value) :
    Except Fault Bool :=
  match actual.readNumber, expected.readNumber with
  | .notNumber, _ => .ok false
  | .tooLarge, _ => .error .integerTooLarge
  | .number _, .notNumber => .ok false
  | .number _, .tooLarge => .error .integerTooLarge
  | .number x, .number y => .ok (test x y)

end Condition

open Condition in
/-- Whether an operator holds of an actual value that is there. -/
def Operator.holdsOf (op : Operator) (actual expected : Value) : Except Fault Bool :=
  match op with
  | .exists => .ok true
  | notExists => .ok false
  | equal => .ok (same actual expected)
  | notEqual => .ok !(same actual expected)
  | less => compareNumbers Binary64.lt actual expected
  | greater => compareNumbers (fun x y => y.lt x) actual expected
  | lessOrEqual => compareNumbers Binary64.le actual expected
  | greaterOrEqual => compareNumbers (fun x y => y.le x) actual expected
  | contains => .ok (Text.contains (lowerText expected) (lowerText actual))
  | notContains => .ok !(Text.contains (lowerText expected) (lowerText actual))
  | startsWith => .ok ((lowerText expected).isPrefixOf (lowerText actual))
  | endsWith => .ok ((lowerText expected).isSuffixOf (lowerText actual))

/-- Whether an operator holds between an actual and an expected value. -/
def Operator.holds (op : Operator) (actual expected : Value) : Except Fault Bool :=
  if actual.isNull then .ok (op == .notExists) else op.holdsOf actual expected

namespace Condition

/-- Whether the operator of a given name holds; a name that is none of an operator's holds of
nothing. A list or an object cannot be a name. -/
def compare (actual : Value) (operator : Value) (expected : Value) : Except Fault Bool :=
  match operator with
  | .text name => match Operator.ofName? name with
    | some op => op.holds actual expected
    | none => .ok false
  | .list _ | .object _ => .error (.unhashable operator.typeName)
  | _ => .ok false

/-- What is said about a comparison that has no proper answer. -/
def warning? (actual : Value) (operator : Value) (expected : Value) : Option String :=
  let unknown := s!"Unknown comparison operator: {operator.toText}"
  if actual.isNull then none
  else match operator with
    | .text name => match Operator.ofName? name with
      | some op =>
        if op.isOrder && (actual.readNumber = .notNumber ||
            (expected.readNumber = .notNumber && actual.readNumber ≠ .tooLarge)) then
          some (s!"Cannot compare non-numeric values: {actual.literal} {op.symbol} " ++
            expected.literal)
        else none
      | none => some unknown
    | .list _ | .object _ => none
    | _ => some unknown

/-- An actual value of null satisfies no operator but `notExists`. -/
theorem holds_null (op : Operator) (expected : Value) :
    op.holds .null expected = .ok (op == .notExists) := rfl

end Condition

end Stepwise
