import Stepwise.Capability
import Stepwise.Controller
import Stepwise.Preflight
import Stepwise.Timestamp
import Stepwise.Binary64.Arithmetic

/-! # Runs

`Controller.start` runs an automation. The steps that the environment accepts are taken in order. A
disabled step is passed over; an enabled one is dispatched: its configuration is resolved against
the variables as they are then, checked, and handed to the handler. The first step that fails ends
the run. Before each step the run looks whether it was called off.

The parts are `Run.dispatch` for the work of one step, `verdict` for what its outcome means,
`Run.advance` for one step with its notices, and `Run.loop` for the steps in order; an `Ending` says
how the loop ended. A run also ends if the clock gives no finite duration (`Ending.aborted`); the
start of the run is then a fault itself. -/

namespace Stepwise

variable {σ : Type}

/-! ## The verdict on one step -/

/-- How a step failed. -/
structure Failure where
  /-- Why the step failed. -/
  message : String
  /-- The kind of fault. -/
  kind : String
  deriving DecidableEq, Repr

/-- What the outcome of a step means. -/
structure Verdict where
  /-- What the step reports. -/
  output : Fields := []
  /-- How the step failed, if it did. -/
  failure : Option Failure := none
  /-- Whether the step failed in a way that steps do not report. -/
  unexpected : Bool := false

/-- The verdict on a step that ended with a fault. -/
def verdictOfFault (fault : Fault) : Verdict :=
  if fault.isStep then { failure := some ⟨fault.message, fault.label⟩ }
  else { failure := some ⟨fault.summary, "UnexpectedError"⟩, unexpected := true }

/-- The verdict on an outcome. A step also fails by reporting that it was no success; what it
reports must be an object. -/
def verdict : Except Fault Value → Verdict
  | .error fault => verdictOfFault fault
  | .ok (.object fields) =>
    if ((Bindings.find? "success" fields).getD (.bool true)).isTrue then { output := fields }
    else
      let reason := (Value.field "error" fields).orElse (.text "Step reported failure")
      { output := fields, failure := some ⟨reason.toText, "StepError"⟩ }
  | .ok other => verdictOfFault (.noMember other.typeName "get")

/-! ## Durations -/

/-- The whole milliseconds between two readings of the clock, in seconds. -/
def elapsedMs (start stop : Binary64) : Except Fault Int :=
  let millis := (stop.sub start).mul (.roundRatio false 1000 1)
  match millis.round? with
  | some n => .ok n
  | none => .error (if millis = .nan then .nanToInteger else .infinityToInteger)

/-! ## The state of a run -/

/-- A run under way. -/
structure Run (σ : Type) where
  /-- The controller of the run. -/
  controller : Controller σ
  /-- The variables as they are now. -/
  store : Store
  /-- The results of the steps reached so far, in order. -/
  results : List StepResult := []
  /-- The number of steps that did their work so far. -/
  completed : Nat := 0
  /-- The requests made so far, in order. -/
  requests : List Request := []
  /-- The events recorded so far, in order. -/
  events : List Event := []
  /-- The notes left so far, in order. -/
  log : List Note := []

/-- How the steps of a run ended. -/
inductive Ending where
  /-- Every step was performed or passed over. -/
  | completed
  /-- The run was called off. -/
  | cancelled
  /-- A step failed. -/
  | failed (index : Nat) (failure : Failure)
  /-- The clock gave no finite duration. -/
  | aborted (fault : Fault)

namespace Run

/-- Leave a note. -/
def note (run : Run σ) (entry : Note) : Run σ := { run with log := run.log ++ [entry] }

/-- Record the result of a step. -/
def record (run : Run σ) (result : StepResult) : Run σ :=
  { run with results := run.results ++ [result] }

/-- Record an event. -/
def emit (run : Run σ) (event : Event) : Run σ := { run with events := run.events ++ [event] }

/-! ## The listener -/

/-- Do what a listener asks for, up to where it breaks. -/
def obey : List Command → Run σ → Run σ
  | [], run => run
  | .cancel :: rest, run =>
    let (accepted, controller, notes) := run.controller.cancel
    obey rest ({ run with controller, log := run.log ++ notes }.emit (.cancelled accepted))
  | .assign name value :: rest, run => obey rest { run with store := run.store.set name value }
  | .unregister stepType :: rest, run =>
    let registry := run.controller.registry.unregister stepType
    obey rest { run with controller := { run.controller with registry } }
  | .restart :: _, run | .fail :: _, run => run.note (.error "Step callback raised; ignoring")

/-- Tell the listener, if there is one, and do what it asks for. -/
def notify (notice : Notice) (run : Run σ) : Run σ :=
  match run.controller.listener with
  | none => run
  | some listener =>
    obey (listener notice) (run.emit (notice.event run.controller.isRunning))

/-! ## One step -/

/-- The work of one step. -/
def dispatch (controller : Controller σ) (step : Step) : Action σ Value :=
  match controller.registry.get? step.type with
  | none => .fail (.unsupported "a handler" (some step.type))
  | some handler => do
    let store ← Action.getStore
    (Template.unbound store (Template.fieldReferences step.config)).forM fun name =>
      Action.note (.warning s!"Variable not found: {name}")
    let config ← Template.resolveFields store step.config
    handler.validate config
    let output ← handler.execute config ⟨controller.platform, controller.settings, step⟩
    return output.orElse (.object [])

/-- The run after the work of a step, with the outcome of the step. -/
def perform (step : Step) (run : Run σ) : Except Fault Value × Run σ :=
  let outcome := (dispatch run.controller step).run run.store run.controller.world
  (outcome.result,
    { run with
      controller := { run.controller with world := outcome.world }
      store := outcome.store
      requests := run.requests ++ outcome.requests
      log := run.log ++ outcome.log })

/-- Pass over a disabled step. -/
def skip (index : Nat) (step : Step) (run : Run σ) : Run σ :=
  (run.note (.info s!"Skipping disabled step {index}: {step.title.toText}")).record
    { stepId := step.id, type := step.type, success := true, skipped := true }

/-- Close a step that failed. -/
def closeFailed (index : Nat) (step : Step) (output : Fields) (failure : Failure)
    (durationMs : Int) (run : Run σ) : Run σ :=
  let result : StepResult :=
    { stepId := step.id, type := step.type, success := false, durationMs, output
      error := some failure.message }
  ((run.note (.warning s!"Step {index} failed: {step.describe}: {failure.message}")).record
    result).notify (.failed index failure.message)

/-- Close a step that did its work. -/
def closeCompleted (index : Nat) (step : Step) (output : Fields) (durationMs : Int)
    (run : Run σ) : Run σ :=
  let result : StepResult :=
    { stepId := step.id, type := step.type, success := true, durationMs, output }
  (({ run with completed := run.completed + 1 }.record result).note
    (.info s!"Step {index} completed: {step.describe}")).notify (.completed index result)

/-- Perform an enabled step: the run afterwards and how the run ends, if it does. -/
def advance (index : Nat) (step : Step) (run : Run σ) : Option Ending × Run σ :=
  let told := run.notify (.started index step)
  let (outcome, performed) := told.perform step
  let verdict := verdict outcome
  let noted :=
    if verdict.unexpected then
      performed.note (.error s!"Unexpected error in step {index}: {step.describe}")
    else performed
  match elapsedMs told.controller.now noted.controller.now with
  | .error fault => (some (.aborted fault), noted)
  | .ok durationMs =>
    match verdict.failure with
    | some failure =>
      (some (.failed index failure),
        noted.closeFailed index step verdict.output failure durationMs)
    | none => (none, noted.closeCompleted index step verdict.output durationMs)

/-! ## All steps -/

/-- Take the steps of a list in order, the first one having the given index. -/
def loop (title : String) : Nat → List Step → Run σ → Ending × Run σ
  | _, [], run => (.completed, run)
  | index, step :: rest, run =>
    if run.controller.cancelRequested then
      (.cancelled, run.note (.info s!"Automation '{title}' cancelled before step {index}"))
    else if !step.enabled then loop title (index + 1) rest (run.skip index step)
    else match run.advance index step with
      | (some ending, after) => (ending, after)
      | (none, after) => loop title (index + 1) rest after

end Run

/-! ## Starting a run -/

/-- What starting a controller did. -/
structure StartOutcome (σ : Type) where
  /-- The result of the run, or why there is none. -/
  result : Except Fault RunResult
  /-- The controller afterwards. -/
  controller : Controller σ
  /-- The requests made, in order. -/
  requests : List Request := []
  /-- The events recorded, in order. -/
  events : List Event := []
  /-- The notes left, in order. -/
  log : List Note := []

namespace Run

/-- The outcome of a run that ended, with its result or why there is none. -/
def outcome (run : Run σ) (phase : Phase) (result : Except Fault RunResult) : StartOutcome σ :=
  { result
    controller := { run.controller with phase, store := some run.store }
    requests := run.requests
    events := run.events
    log := run.log }

/-- End a run: its result, unless the clock gives no finite duration. -/
def finish (run : Run σ) (startTime : Binary64) (totalSteps : Nat) (status : Status)
    (error : Option String := none) (failedStep : Option Int := none)
    (errorType : Option String := none) : Except Fault RunResult := do
  let executionTime ← elapsedMs startTime run.controller.now
  return {
    success := status = .completed
    status
    executionTime
    stepsCompleted := run.completed
    totalSteps
    timestamp := Timestamp.write (run.controller.platform.wallClock run.controller.world)
    error
    failedStep
    errorType
    stepResults := run.results }

/-- What is said of a run that was completed. -/
def completionNote (title : String) (result : RunResult) : Note :=
  .info (s!"Automation '{title}' completed: {result.stepsCompleted}/{result.totalSteps} steps " ++
    s!"in {result.executionTime}ms")

/-- Close a run whose steps ended. -/
def close (title : String) (startTime : Binary64) (totalSteps : Nat) :
    Ending × Run σ → StartOutcome σ
  | (.completed, run) =>
    match run.finish startTime totalSteps .completed with
    | .ok result =>
      (run.note (completionNote title result)).outcome (.ended .completed) (.ok result)
    | .error fault => run.outcome (.ended .completed) (.error fault)
  | (.cancelled, run) =>
    run.outcome (.ended .cancelled)
      (run.finish startTime totalSteps .cancelled (some "cancelled"))
  | (.failed index failure, run) =>
    run.outcome (.ended .failed)
      (run.finish startTime totalSteps .failed (some failure.message) (some index)
        (some failure.kind))
  | (.aborted fault, run) => run.outcome .running (.error fault)

end Run

namespace Controller

/-- What is said when a run starts. -/
def startNotes (automation : Automation) (accepted : List String) : List Note :=
  let steps := compatible accepted automation.steps
  (incompatible accepted automation.steps).map (fun step => .warning step.incompatibility) ++
    [.info (s!"Starting automation '{automation.title.toText}' ({automation.id}): " ++
      s!"{steps.length} of {automation.steps.length} steps compatible")]

/-- Run an automation whose variables start as given. A controller runs once. -/
def start (controller : Controller σ) (automation : Automation) (initial : Value) :
    StartOutcome σ :=
  if controller.phase ≠ .idle then
    { result := .error (.controllerUsed controller.phase.name), controller }
  else
    let running := { controller with phase := .running }
    match Store.ofValue initial with
    | .error fault => { result := .error fault, controller := running }
    | .ok store =>
      let title := automation.title.toText
      let steps := compatible controller.accepted automation.steps
      let run : Run σ :=
        { controller := running, store, log := startNotes automation controller.accepted }
      if steps.isEmpty then
        let refused := run.note (.warning s!"Automation '{title}' has no compatible steps")
        refused.outcome (.ended .failed)
          (refused.finish controller.now 0 .failed
            (some "No compatible steps to execute in this environment"))
      else Run.close title controller.now steps.length (Run.loop title 0 steps run)

/-- A controller that was started before refuses, and stays as it is. -/
theorem start_of_not_idle {controller : Controller σ} (h : controller.phase ≠ .idle)
    (automation : Automation) (initial : Value) :
    controller.start automation initial =
      { result := .error (.controllerUsed controller.phase.name), controller } := by
  simp [start, h]

end Controller

end Stepwise
