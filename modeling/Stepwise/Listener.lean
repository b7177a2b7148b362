import Stepwise.Definition
import Stepwise.Report

/-! # Listeners

A listener follows a run: it receives a `Notice` when a step starts, is completed or fails, and
answers with `Command`s. It may call the run off, bind a variable, unregister a step type, or break;
nothing it does can make the run itself fail. An `Event` is what a run records of its dealings with
the listener. -/

namespace Stepwise

/-- What a listener is told. -/
inductive Notice where
  /-- A step is about to be performed. -/
  | started (index : Nat) (step : Step)
  /-- A step was performed. -/
  | completed (index : Nat) (result : StepResult)
  /-- A step failed. -/
  | failed (index : Nat) (message : String)

/-- What a listener asks for. -/
inductive Command where
  /-- Call the run off. -/
  | cancel
  /-- Bind a variable. -/
  | assign (name : String) (value : Value)
  /-- Remove the handler of a step type. -/
  | unregister (stepType : String)
  /-- Start the controller again, which is refused while it runs. -/
  | restart
  /-- Break, and leave the commands after this one undone. -/
  | fail

/-- The commands with which a listener answers a notice. -/
abbrev Listener := Notice → List Command

/-- What a run records of its dealings with a listener. -/
inductive Event where
  /-- The listener was told that a step starts, while the run was or was not under way. -/
  | started (index : Nat) (stepId : String) (running : Bool)
  /-- The listener was told that a step was performed. -/
  | completed (index : Nat) (stepId : String) (success : Bool) (output : Fields)
  /-- The listener was told that a step failed. -/
  | failed (index : Nat) (message : String)
  /-- The listener called the run off, which was or was not accepted. -/
  | cancelled (accepted : Bool)

/-- The event of a notice. -/
def Notice.event (running : Bool) : Notice → Event
  | started index step => .started index step.id running
  | completed index result => .completed index result.stepId result.success result.output
  | failed index message => .failed index message

end Stepwise
