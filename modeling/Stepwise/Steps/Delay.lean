import Stepwise.Handler
import Stepwise.Binary64.Arithmetic

/-! # Waiting

The step `delay` waits for a number of milliseconds, which `delayMs` reads from the field `delay`
or, in automations of earlier versions, `duration`. The settings may bound it. -/

namespace Stepwise.Steps

variable {σ : Type}

/-- Whether a delay is longer than a bound; a bound that is no number cannot be compared with. -/
def exceeds (delay : Binary64) (bound : Value) : Except Fault Bool :=
  match bound.number? with
  | some limit => .ok (Value.Number.compare? (.float delay) limit == some .gt)
  | none => .error (.notOrdered ">" (Value.float delay).typeName bound.typeName)

/-- The delay that a configuration asks for, in milliseconds; a bound of null is none. -/
def delayMs (config : Fields) (bound : Value) : Except Fault Binary64 := do
  let name := if config.binds "delay" then "delay" else "duration"
  if (Value.field name config).isUnset then
    throw (.configuration "delay" "'delay' is required (milliseconds)")
  let delay ← Config.number config name
  if delay.lt (.zero false) then
    throw (.configuration "delay" "must be zero or a positive number of milliseconds")
  if !bound.isNull then
    if ← exceeds delay bound then
      throw (.configuration "delay" s!"must not exceed {bound.toText} ms")
  return delay

/-- The number of milliseconds in a second. -/
def thousand : Binary64 := .roundRatio false 1000 1

/-- The handler of `delay` steps. -/
def delay : Handler σ where
  name := "DelayStep"
  stepType := "delay"
  validate config := do
    let _ ← delayMs config .null
  execute config context := do
    let delay ← delayMs config context.settings.maxDelayMs
    Action.request context.platform (.sleep (delay.div thousand))
    return .object [("delay", .float delay)]

end Stepwise.Steps
