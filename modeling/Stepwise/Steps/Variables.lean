import Stepwise.Handler

/-! # Writing and reading variables

The step `set-variable` binds the variable `name` to `value`; it is the only built-in step that
writes the store. The step `get-variable` reports the value of a variable, or a default if the
variable is unbound or null. -/

namespace Stepwise.Steps

variable {σ : Type}

/-- The handler of `set-variable` steps. -/
def setVariable : Handler σ where
  name := "SetVariableStep"
  stepType := "set-variable"
  validate config := do
    let _ ← Config.requireText config "name"
    if !config.binds "value" then throw (.required "value")
  execute config _ := do
    let name ← Config.trimmed config "name"
    let value ← Config.item config "value"
    Action.setVariable name value
    Action.note (.info s!"Set variable '{name}'")
    return .object [("name", .text name), ("value", value)]

/-- The handler of `get-variable` steps. -/
def getVariable : Handler σ where
  name := "GetVariableStep"
  stepType := "get-variable"
  validate config := do
    let _ ← Config.requireText config "name"
  execute config _ := do
    let name ← Config.trimmed config "name"
    let value := Value.ofOption ((← Action.getStore).get? name)
    let reported :=
      if value.isNull then (config.find? "defaultValue").getD (.text "") else value
    return .object [("name", .text name), ("value", reported), ("found", .bool !value.isNull)]

end Stepwise.Steps
