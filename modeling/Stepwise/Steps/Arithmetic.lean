import Stepwise.Handler
import Stepwise.Binary64.Arithmetic

/-! # Arithmetic

The step `math-op` computes with two numbers. Whole results are reported as integers
(`tidyNumber`), so that they read as a person would write them. A result that is undefined or too
large is a configuration fault. -/

namespace Stepwise.Steps

variable {σ : Type}

/-- What is done with the numbers of a step. -/
inductive Operation where
  /-- The sum. -/
  | add
  /-- The difference. -/
  | subtract
  /-- The product. -/
  | multiply
  /-- The quotient. -/
  | divide
  /-- The remainder, with the sign of the first number. -/
  | modulo
  /-- The power. -/
  | power
  deriving DecidableEq, Repr

/-- The names of the operations. -/
def operations : List (String × Operation) := [
  ("add", .add), ("subtract", .subtract), ("multiply", .multiply), ("divide", .divide),
  ("modulo", .modulo), ("power", .power)]

/-- The operation that a configuration names; any other value stands for the last one. -/
def operationOf (value : Value) : Operation :=
  ((value.text?).bind (operations.lookup ·)).getD .power

/-- A power of two finite numbers, if it is defined and not too large. -/
def powerOf (x y : Binary64) : Except Fault Binary64 :=
  match x.power y with
  | .nan => .error .mathDomain
  | .infinite _ => .error (if x.isZero then .mathDomain else .mathRange)
  | result => .ok result

/-- The result of an operation on two finite numbers. -/
def Operation.apply (x y : Binary64) : Operation → Except Fault Binary64
  | add => .ok (x.add y)
  | subtract => .ok (x.sub y)
  | multiply => .ok (x.mul y)
  | divide => if y.isZero then .error .divisionByZero else .ok (x.div y)
  | modulo => if y.isZero then .error .mathDomain else .ok (x.remainder y)
  | power => (powerOf x y).mapError fun fault =>
    .configuration "number2" s!"cannot compute {x.toText} ** {y.toText}: {fault.message}"

/-- A whole binary64 number as an integer; every other value as it is. -/
def tidyNumber : Value → Value
  | .float x =>
    if x.isWhole then (match x.truncate? with | some n => .int n | none => .float x) else .float x
  | value => value

/-- The handler of `math-op` steps. -/
def arithmetic : Handler σ where
  name := "MathOpStep"
  stepType := "math-op"
  sampleValues := [("operation", .text "add")]
  validate config := do
    let operation ← Config.requireText config "operation"
    match operations.lookup operation with
    | none => throw (.configuration "operation" s!"unknown math operation '{operation}'")
    | some op =>
      let _ ← Config.number config "number1"
      let divisor ← Config.number config "number2"
      if (op = .divide || op = .modulo) && divisor.isZero then
        throw (.configuration "number2" "cannot divide by zero")
  execute config _ := do
    let operation ← Config.item config "operation"
    let x ← Config.number config "number1"
    let y ← Config.number config "number2"
    let result ← (operationOf operation).apply x y
    if !result.isFinite then
      Action.fail (.configuration "operation" s!"result of {operation.toText} is out of range")
    return .object [("operation", operation), ("number1", tidyNumber (.float x)),
      ("number2", tidyNumber (.float y)), ("result", tidyNumber (.float result))]

end Stepwise.Steps
