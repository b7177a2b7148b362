import Stepwise.Handler
import Stepwise.Template
import Stepwise.Condition

/-! # Conditions as steps

The step `condition` compares the value of a variable with an expected value and reports whether the
comparison holds. It decides nothing about the steps after it. -/

namespace Stepwise.Steps

variable {σ : Type}

/-- The handler of `condition` steps. -/
def conditional : Handler σ where
  name := "ConditionStep"
  stepType := "condition"
  sampleValues := [("condition", .text "==")]
  validate config := do
    let _ ← Config.requireText config "variable"
    let operator ← Config.requireText config "condition"
    match Operator.ofName? operator with
    | none => throw (.configuration "condition" s!"unknown condition '{operator}'")
    | some op =>
      if op.needsExpected && !config.binds "value" then throw (.required "value")
  execute config _ := do
    let variableName ← Config.trimmed config "variable"
    let operator ← Config.item config "condition"
    let expected := Value.field "value" config
    let actual ← Template.lookup (← Action.getStore) variableName
    if let some warning := Condition.warning? actual operator expected then
      Action.note (.warning warning)
    let met ← Condition.compare actual operator expected
    Action.note <| .info <|
      s!"Condition {variableName} {operator.toText} {expected.literal}: " ++
        (Value.bool met).literal
    return .object [("variable", .text variableName), ("condition", operator),
      ("value", expected), ("variableValue", actual), ("conditionMet", .bool met)]

end Stepwise.Steps
