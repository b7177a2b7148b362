import Stepwise.Registry
import Stepwise.Listener

/-! # Controllers

A controller drives one run of an automation. Its `Phase` starts as `idle`, becomes `running` when
the run starts and ends as `completed`, `failed` or `cancelled`; it never leaves a terminal phase.
Until then `Controller.cancel` asks the run to stop before its next step. -/

namespace Stepwise

/-- Where a controller stands. -/
inductive Phase where
  /-- The run has not been started. -/
  | idle
  /-- The run is under way. -/
  | running
  /-- The run ended with this status. -/
  | ended (status : Status)
  deriving DecidableEq, Repr

namespace Phase

/-- The name of a phase. -/
def name : Phase → String
  | idle => "idle"
  | running => "running"
  | ended status => status.name

/-- Whether a run in this phase is over. -/
def isTerminal : Phase → Bool
  | ended _ => true
  | _ => false

@[simp] theorem isTerminal_ended (status : Status) : isTerminal (ended status) = true := rfl

end Phase

/-- What drives one run, in a world of type `σ`. -/
structure Controller (σ : Type) where
  /-- The handlers of the steps. -/
  registry : Registry σ
  /-- The environment of the run. -/
  platform : Platform σ
  /-- The world as it is now. -/
  world : σ
  /-- The settings of the run. -/
  settings : Settings := {}
  /-- The step types to accept; without them, those that the registry can run on the platform. -/
  capabilities : Option (List String) := none
  /-- What follows the run. -/
  listener : Option Listener := none
  /-- Where the run stands. -/
  phase : Phase := .idle
  /-- The variables of the run, once it was started. -/
  store : Option Store := none
  /-- Whether the run was called off. -/
  cancelRequested : Bool := false

namespace Controller

variable {σ : Type}

/-- Whether the run is under way. -/
def isRunning (controller : Controller σ) : Bool := controller.phase = .running

/-- Call the run off, which is accepted unless the run is over: whether it was accepted, the
controller and the notes afterwards. -/
def cancel (controller : Controller σ) : Bool × Controller σ × List Note :=
  if controller.phase.isTerminal then (false, controller, [])
  else (true, { controller with cancelRequested := true }, [.info "Cancellation requested"])

/-- The step types that the run accepts. -/
def accepted (controller : Controller σ) : List String :=
  controller.capabilities.getD (controller.registry.capabilities controller.platform)

/-- The reading of the clock that never goes back. -/
def now (controller : Controller σ) : Binary64 :=
  controller.platform.monotonic controller.world

/-- Calling a run off is accepted exactly until it is over. -/
theorem cancel_accepted (controller : Controller σ) :
    controller.cancel.1 = !controller.phase.isTerminal := by
  unfold cancel
  cases controller.phase.isTerminal <;> rfl

end Controller

end Stepwise
