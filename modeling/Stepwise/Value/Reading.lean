import Stepwise.Value
import Stepwise.Binary64.Reading

/-! # Values as binary64 numbers

A value is read as a number if it is one, if it is a truth value (0 or 1), or if it is a text that
writes a number. An integer beyond the binary64 numbers is told apart from a value that is no number
at all, because the two fail in different ways. -/

namespace Stepwise.Value

/-- The outcome of reading a value as a number. -/
inductive NumberReading where
  /-- The value stands for a number. -/
  | number (x : Binary64)
  /-- The value does not stand for a number. -/
  | notNumber
  /-- The value is an integer beyond the binary64 numbers. -/
  | tooLarge
  deriving DecidableEq, Repr

/-- Read a value as a number. -/
def readNumber : Value → NumberReading
  | bool b => .number (if b then .finite false 1 0 else .zero false)
  | int n => match Binary64.ofInt? n with
    | some x => .number x
    | none => .tooLarge
  | float x => .number x
  | text s => match Binary64.ofText? s with
    | some x => .number x
    | none => .notNumber
  | _ => .notNumber

@[simp] theorem readNumber_float (x : Binary64) : readNumber (float x) = .number x := rfl

@[simp] theorem readNumber_null : readNumber null = .notNumber := rfl

end Stepwise.Value
