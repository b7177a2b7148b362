import Stepwise.Value
import Stepwise.Fault

/-! # Reports of runs

A `RunResult` says how a run ended and holds a `StepResult` for each step that was reached.
`RunResult.toValue` writes it as an object with a key for each field; a key is left out for a field
that has nothing to say: no error, no failed step, not skipped, no output. An empty error text and
the step index 0 do say something, so their keys are written. -/

namespace Stepwise

/-- How a run ended. -/
inductive Status where
  /-- Every step was run or skipped. -/
  | completed
  /-- A step failed, or there was none to run. -/
  | failed
  /-- The run was called off. -/
  | cancelled
  deriving DecidableEq, Repr, Inhabited

namespace Status

/-- The name of a status. -/
def name : Status → String
  | completed => "completed"
  | failed => "failed"
  | cancelled => "cancelled"

/-- The status of a name. -/
def ofName (name : String) : Except Fault Status :=
  match [completed, failed, cancelled].find? (·.name == name) with
  | some status => .ok status
  | none => .error (.unknownStatus name)

@[simp] theorem ofName_name (status : Status) : ofName status.name = .ok status := by
  cases status <;> rfl

end Status

/-- How one step ended. -/
structure StepResult where
  /-- The id of the step. -/
  stepId : String
  /-- The type of the step. -/
  type : String
  /-- Whether the step did its work or was skipped. -/
  success : Bool
  /-- How long the step took, in milliseconds. -/
  durationMs : Int := 0
  /-- What the step reports. -/
  output : Fields := []
  /-- Why the step failed. -/
  error : Option String := none
  /-- Whether the step was passed over because it is disabled. -/
  skipped : Bool := false
  deriving Repr, Inhabited

/-- How a run ended. -/
structure RunResult where
  /-- Whether the run was completed. -/
  success : Bool
  /-- How the run ended. -/
  status : Status
  /-- How long the run took, in milliseconds. -/
  executionTime : Int
  /-- The number of steps that did their work. -/
  stepsCompleted : Int
  /-- The number of steps that could be run. -/
  totalSteps : Int
  /-- When the run ended. -/
  timestamp : String
  /-- Why the run was not completed. -/
  error : Option String := none
  /-- The index of the step that failed. -/
  failedStep : Option Int := none
  /-- The kind of fault that made a step fail. -/
  errorType : Option String := none
  /-- The results of the steps that were reached, in order. -/
  stepResults : List StepResult := []
  deriving Repr, Inhabited

/-- A field that is written only if there is something to write. -/
def optionalField {α : Type} (name : String) (write : α → Value) : Option α → Fields
  | some value => [(name, write value)]
  | none => []

/-- The result of a step as an object. -/
def StepResult.toValue (result : StepResult) : Value :=
  .object <|
    [("stepId", .text result.stepId), ("type", .text result.type),
      ("success", .bool result.success), ("durationMs", .int result.durationMs)] ++
    (if result.skipped then [("skipped", .bool true)] else []) ++
    (if result.output.isEmpty then [] else [("output", .object result.output)]) ++
    optionalField "error" .text result.error

/-- The result of a run as an object. -/
def RunResult.toValue (result : RunResult) : Value :=
  .object <|
    [("success", .bool result.success), ("status", .text result.status.name),
      ("executionTime", .int result.executionTime),
      ("stepsCompleted", .int result.stepsCompleted), ("totalSteps", .int result.totalSteps),
      ("timestamp", .text result.timestamp)] ++
    optionalField "error" .text result.error ++
    optionalField "failedStep" .int result.failedStep ++
    optionalField "errorType" .text result.errorType ++
    [("stepResults", .list (result.stepResults.map StepResult.toValue))]

end Stepwise
