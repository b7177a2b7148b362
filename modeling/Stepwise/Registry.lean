import Stepwise.Handler
import Stepwise.Steps.Notification
import Stepwise.Steps.Delay
import Stepwise.Steps.Variables
import Stepwise.Steps.TextOperation
import Stepwise.Steps.Arithmetic
import Stepwise.Steps.Messages
import Stepwise.Steps.Opening
import Stepwise.Steps.Webhook
import Stepwise.Steps.Location
import Stepwise.Steps.Clipboard
import Stepwise.Steps.Conditional
import Stepwise.Steps.Loop

/-! # Registries

A registry maps step types to the handlers that do their work, in the order in which the types were
first registered. `Registry.capabilities` are the types that can be run on a platform: those whose
handler finds every collaborator it requires. Two registries are given: `device` has a handler for
every built-in step type, `browser` only for those that make sense in a browser. -/

namespace Stepwise

/-- Step types with their handlers. -/
structure Registry (σ : Type) where
  /-- The handlers by step type, in the order of first registration. -/
  handlers : Bindings (Handler σ) := []

namespace Registry

variable {σ : Type}

/-- The handler of a step type. -/
def get? (registry : Registry σ) (stepType : String) : Option (Handler σ) :=
  registry.handlers.find? stepType

/-- Whether a step type has a handler. -/
def contains (registry : Registry σ) (stepType : String) : Bool :=
  registry.handlers.binds stepType

/-- The step types that have a handler, in order. -/
def stepTypes (registry : Registry σ) : List String := registry.handlers.names

/-- The number of step types that have a handler. -/
def size (registry : Registry σ) : Nat := registry.handlers.length

/-- Register a handler for its step type, in place of the one registered for it before. -/
def register (registry : Registry σ) (handler : Handler σ) : Except Fault (Registry σ) :=
  if handler.stepType = "" then .error (.untypedHandler handler.name)
  else .ok ⟨registry.handlers.put handler.stepType handler⟩

/-- What is said when a handler is registered: that it replaces another one. -/
def registrationNote? (registry : Registry σ) (handler : Handler σ) : Option Note :=
  if registry.contains handler.stepType then
    some (.info s!"Replacing handler for step type '{handler.stepType}'")
  else none

/-- Remove the handler of a step type, if it has one. -/
def unregister (registry : Registry σ) (stepType : String) : Registry σ :=
  ⟨registry.handlers.erase stepType⟩

/-- The step types whose handler finds every collaborator it requires. -/
def capabilities (registry : Registry σ) (platform : Platform σ) : List String :=
  Bindings.names (registry.handlers.filter fun entry => entry.2.isAvailable platform.available)

/-! ## The built-in registries -/

/-- The built-in handlers, in the order of registration, where an edition of the rules for addresses
is in force. -/
def builtIn (edition : Url.Edition := .early) : List (Handler σ) := [
  Steps.notification, Steps.delay, Steps.setVariable, Steps.getVariable, Steps.textOperation,
  Steps.arithmetic, Steps.shortMessage, Steps.call, Steps.mail, Steps.webhook edition,
  Steps.openUrl, Steps.location, Steps.clipboard, Steps.openApp .native, Steps.conditional,
  Steps.loop]

/-- The registry of a device: every built-in handler. -/
def device (edition : Url.Edition := .early) : Registry σ :=
  ⟨(builtIn edition).map fun handler => (handler.stepType, handler)⟩

/-- The step types that make sense in a browser. -/
def browserStepTypes : List String := [
  "notification", "delay", "set-variable", "get-variable", "text-op", "math-op", "sms", "call",
  "email", "open-url", "open-app", "location", "clipboard"]

/-- The handlers of the device that make sense in a browser. -/
def browserKept : Registry σ :=
  ⟨device.handlers.filter fun entry => browserStepTypes.contains entry.1⟩

/-- The registry of a browser: the handlers of the device that make sense there, but apps are opened
by their web addresses. -/
def browser : Registry σ := ⟨browserKept.handlers.put "open-app" (Steps.openApp .web)⟩

/-- What is said when the registry of a browser is made. -/
def browserNotes : List Note :=
  ((browserKept : Registry Unit).registrationNote? (Steps.openApp .web)).toList

/-! ## Laws -/

/-- A handler that was registered is found under its step type. -/
theorem get?_register {registry changed : Registry σ} {handler : Handler σ}
    (h : registry.register handler = .ok changed) :
    changed.get? handler.stepType = some handler := by
  simp only [register] at h
  split at h
  · cases h
  · simp only [Except.ok.injEq] at h
    subst h
    simp [get?]

/-- Registering a handler leaves the other step types as they were. -/
theorem get?_register_ne {registry changed : Registry σ} {handler : Handler σ} {other : String}
    (hne : handler.stepType ≠ other) (h : registry.register handler = .ok changed) :
    changed.get? other = registry.get? other := by
  simp only [register] at h
  split at h
  · cases h
  · simp only [Except.ok.injEq] at h
    subst h
    simp [get?, Bindings.find?_put_ne hne]

/-- The step types of the registry of a device. -/
theorem stepTypes_device : (device : Registry σ).stepTypes = [
    "notification", "delay", "set-variable", "get-variable", "text-op", "math-op", "sms", "call",
    "email", "webhook", "open-url", "location", "clipboard", "open-app", "condition", "loop"] :=
  rfl

end Registry

end Stepwise
