import Stepwise.Bindings
import Stepwise.Binary64

/-! # Values

The data that automations are written in and that steps exchange: a JSON value in which integers of
any size are kept apart from binary64 numbers, and in which an object keeps the order of its fields.

`Value.isTrue` says when a value counts as true, `Value.typeName` names its type for messages, and
`Value.equals` compares two values by what they mean: numbers by their numeric value (a boolean
counting as 0 or 1), lists element by element, objects field by field in any order. -/

namespace Stepwise

/-- A JSON value. -/
inductive Value where
  /-- The absence of a value. -/
  | null
  /-- A truth value. -/
  | bool (b : Bool)
  /-- An integer of any size. -/
  | int (n : Int)
  /-- A binary64 number. -/
  | float (x : Binary64)
  /-- A text. -/
  | text (s : String)
  /-- A list of values. -/
  | list (items : List Value)
  /-- An object: named values in order. -/
  | object (fields : List (String × Value))
  deriving Repr, Inhabited

/-- The fields of an object; also the configuration of a step. -/
abbrev Fields := Bindings Value

namespace Value

/-- Every value is true but null, false, zero, and the empty text, list and object. -/
def isTrue : Value → Bool
  | null => false
  | bool b => b
  | int n => n != 0
  | float x => !x.isZero
  | text s => s != ""
  | list items => !items.isEmpty
  | object fields => !fields.isEmpty

/-- Whether the value is null. -/
def isNull : Value → Bool
  | null => true
  | _ => false

/-- Null or the empty text: what an unfilled input holds. -/
def isUnset : Value → Bool
  | null => true
  | text s => s == ""
  | _ => false

/-- The first value if it counts as true, else the second. -/
def orElse (value other : Value) : Value := if value.isTrue then value else other

/-- The name of a value's type, as messages give it. -/
def typeName : Value → String
  | null => "NoneType"
  | bool _ => "bool"
  | int _ => "int"
  | float _ => "float"
  | text _ => "str"
  | list _ => "list"
  | object _ => "dict"

/-- The value of an optional field: null where there is none. -/
def ofOption : Option Value → Value
  | some value => value
  | none => null

/-- The value of a field, or null. -/
def field (name : String) (fields : Fields) : Value := ofOption (fields.find? name)

@[simp] theorem isTrue_null : isTrue null = false := rfl

@[simp] theorem isTrue_bool (b : Bool) : isTrue (bool b) = b := rfl

/-- One value or another counts as true if either does. -/
theorem isTrue_orElse (value other : Value) :
    (value.orElse other).isTrue = (value.isTrue || other.isTrue) := by
  unfold orElse
  split
  next h => rw [h, Bool.true_or]
  next h => rw [eq_false_of_ne_true h, Bool.false_or]

@[simp] theorem field_nil (name : String) : field name [] = null := rfl

/-- The text of a value that is one. -/
def text? : Value → Option String
  | text s => some s
  | _ => none

/-! ## Numeric comparison -/

/-- A number: an integer or a binary64 number. -/
inductive Number where
  /-- An integer. -/
  | int (n : Int)
  /-- A binary64 number. -/
  | float (x : Binary64)

/-- How two numbers compare by value; nothing compares with NaN. -/
def Number.compare? : Number → Number → Option Ordering
  | int m, int n => some (compare m n)
  | int m, float y => (y.compareInt? m).map Ordering.swap
  | float x, int n => x.compareInt? n
  | float x, float y => x.compare? y

/-- The number that a value is; a truth value is 0 or 1. -/
def number? : Value → Option Number
  | bool b => some (.int b.toInt)
  | int n => some (.int n)
  | float x => some (.float x)
  | _ => none

/-- How two values compare as numbers; `none` if one of them is not a number or is NaN. -/
def compareNumbers? (x y : Value) : Option Ordering :=
  match x.number?, y.number? with
  | some a, some b => a.compare? b
  | _, _ => none

/-! ## Equality -/

mutual

/-- Two values mean the same: numbers by value, lists in order, objects in any order. -/
def equals : Value → Value → Bool
  | null, null => true
  | text s, text t => s == t
  | list xs, list ys => equalItems xs ys
  | object xs, object ys => xs.length == ys.length && equalFields xs ys
  | bool a, y => compareNumbers? (bool a) y == some .eq
  | int m, y => compareNumbers? (int m) y == some .eq
  | float x, y => compareNumbers? (float x) y == some .eq
  | _, _ => false

/-- Two lists have equal elements at each place. -/
def equalItems : List Value → List Value → Bool
  | [], [] => true
  | x :: xs, y :: ys => equals x y && equalItems xs ys
  | _, _ => false

/-- Every field of the first list has an equal one under the same name in the second. -/
def equalFields : List (String × Value) → List (String × Value) → Bool
  | [], _ => true
  | (name, x) :: xs, ys =>
    (match Bindings.find? name ys with
      | some y => equals x y
      | none => false) && equalFields xs ys

end

end Value

end Stepwise
