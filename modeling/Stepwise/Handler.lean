import Stepwise.Action
import Stepwise.Config
import Stepwise.Definition
import Stepwise.Settings

/-! # Step handlers

A handler does the work of one step type: it checks a configuration (`validate`) and performs the
step (`execute`). It also says which collaborators it requires, and which values may stand in for
fields that are only known at run time. A handler over worlds of type `σ` sees the configuration,
the `Context` of the step, and through its actions the store and the world; there is nothing else
its behaviour could depend on. -/

namespace Stepwise

/-- What a handler can reach while it performs a step. -/
structure Context (σ : Type) where
  /-- The environment of the run. -/
  platform : Platform σ
  /-- The settings of the run. -/
  settings : Settings
  /-- The step that is performed, its configuration as it was written. -/
  step : Step

/-- Names of apps with the addresses that open them. -/
structure AppDirectory where
  /-- The address of an app, by its name in lower case. -/
  urls : Fields
  /-- Whether an app that is not listed is opened by a scheme of its name. -/
  schemeFallback : Bool := true
  deriving Repr

/-- What does the work of one step type. -/
structure Handler (σ : Type) where
  /-- The name of the handler itself. -/
  name : String
  /-- The step type that the handler does the work of. -/
  stepType : String
  /-- The names of the collaborators without which the handler cannot do any work. -/
  requires : List String := []
  /-- Stand-ins for fields whose value is only known at run time. -/
  sampleValues : Fields := []
  /-- Check a configuration. -/
  validate : Fields → Except Fault Unit
  /-- Perform a step with a given configuration. -/
  execute : Fields → Context σ → Action σ Value
  /-- The apps that the handler opens by name, if it opens apps. -/
  directory : Option AppDirectory := none

namespace Handler

variable {σ : Type}

/-- Whether every collaborator that the handler requires is among those given. -/
def isAvailable (handler : Handler σ) (collaborators : List String) : Bool :=
  handler.requires.all collaborators.contains

end Handler

/-- Fail unless something of the given name is provided by the platform. -/
def Context.reach {σ : Type} (context : Context σ) (name stepType : String) : Action σ Unit :=
  if context.platform.provides name then pure ()
  else .fail (.unsupported name (some stepType))

end Stepwise
