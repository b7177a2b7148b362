import Stepwise.Handler

/-! # Steps described by data

A `Script` describes a step type without any code: which fields it demands, which collaborators it
needs, which variables it binds, and how it ends. It serves to try out automations whose step types
are not there yet. -/

namespace Stepwise.Steps

variable {σ : Type}

/-- How a scripted step behaves. -/
structure Script where
  /-- The step type. -/
  stepType : String := ""
  /-- The names of the collaborators that the step needs. -/
  requires : List String := []
  /-- Stand-ins for fields that are only known at run time. -/
  sampleValues : Fields := []
  /-- The fields that a configuration must have. -/
  demanded : List String := []
  /-- The fault of every configuration that has them. -/
  refusal : Option Fault := none
  /-- The variables that the step binds, in order. -/
  assignments : Fields := []
  /-- The fault that the step ends with. -/
  failure : Option Fault := none
  /-- Whether the step reports its configuration. -/
  echo : Bool := false
  /-- What the step reports otherwise. -/
  output : Value := .null

/-- Fail with a fault if there is one. -/
def failWith : Option Fault → Except Fault Unit
  | some fault => .error fault
  | none => .ok ()

/-- The handler of a scripted step. -/
def scripted (script : Script) : Handler σ where
  name := "ScriptedStep"
  stepType := script.stepType
  requires := script.requires
  sampleValues := script.sampleValues
  validate config := do
    script.demanded.forM fun name => do
      let _ ← Config.require config name
    failWith script.refusal
  execute config context := do
    script.requires.forM fun name => context.reach name script.stepType
    script.assignments.forM fun (name, value) => Action.setVariable name value
    failWith script.failure
    return if script.echo then .object [("config", .object config)] else script.output

end Stepwise.Steps
