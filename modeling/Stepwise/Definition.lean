import Stepwise.Value.Entries

/-! # Automations and their steps

An automation is a titled list of steps; a step names the type of work to do and configures it. Both
are read from values of any shape (`Step.ofValue`, `Automation.ofValue`): a missing or empty field
has a default, a field of the wrong type is written as a text, and type names of earlier versions
are replaced by the current ones. `Step.toValue` and `Automation.toValue` write them back. -/

namespace Stepwise

/-! ## Step types -/

/-- The current names of the step types that earlier versions named otherwise. -/
def legacyStepTypes : List (String × String) := [
  ("variable", "set-variable"), ("set_variable", "set-variable"),
  ("get_variable", "get-variable"), ("text", "text-op"), ("math", "math-op"),
  ("open_url", "open-url"), ("app", "open-app")]

/-- The current name of a step type; a name that never changed stays as it is. -/
def normalizeStepType (name : String) : String := (legacyStepTypes.lookup name).getD name

/-- The current name of a step type is not a name of an earlier version. -/
theorem normalizeStepType_not_legacy (name : String) :
    legacyStepTypes.lookup (normalizeStepType name) = none := by
  unfold normalizeStepType
  cases h : legacyStepTypes.lookup name with
  | none => simpa using h
  | some current =>
    have hmem : (name, current) ∈ legacyStepTypes := by
      rw [List.lookup_eq_some_iff] at h
      obtain ⟨before, after, heq, _⟩ := h
      rw [heq]
      simp
    simp only [legacyStepTypes, List.mem_cons, List.not_mem_nil, or_false, Prod.mk.injEq] at hmem
    rcases hmem with h | h | h | h | h | h | h <;> obtain ⟨-, rfl⟩ := h <;> rfl

/-! ## Steps -/

/-- One unit of work. -/
structure Step where
  /-- What tells the step from the others. -/
  id : String
  /-- The type of work. -/
  type : String
  /-- How the step is called in messages. -/
  title : Value := .text ""
  /-- Whether the step is to be run. -/
  enabled : Bool := true
  /-- What the work needs to know. -/
  config : Fields := []
  deriving Repr, Inhabited

namespace Step

/-- Read a step from a value; the index stands in for a missing id. -/
def ofValue (data : Value) (index : Int) : Except Fault Step := do
  let fields ← data.fieldsFor "get"
  let type := Value.field "type" fields
  if !type.isTrue then throw (.missingStepType index)
  return {
    id := ((Value.field "id" fields).orElse (.text s!"step_{index}")).toText
    type := normalizeStepType type.toText
    title := (Value.field "title" fields).orElse (.text type.toText)
    enabled := ((fields.find? "enabled").getD (.bool true)).isTrue
    config := ← (Value.field "config" fields).toFields }

/-- The step as an object. -/
def toValue (step : Step) : Value :=
  .object [("id", .text step.id), ("type", .text step.type), ("title", step.title),
    ("enabled", .bool step.enabled), ("config", .object step.config)]

/-- The title and the type, as messages name the step. -/
def describe (step : Step) : String := s!"{step.title.toText} ({step.type})"

end Step

/-! ## Automations -/

/-- A titled list of steps. -/
structure Automation where
  /-- What tells the automation from the others. -/
  id : String
  /-- How the automation is called in messages. -/
  title : Value
  /-- The steps, in order. -/
  steps : List Step := []
  deriving Repr, Inhabited

namespace Automation

/-- Read the steps of a list, whose first one has the given index. -/
def stepsFrom : Nat → List Value → Except Fault (List Step)
  | _, [] => .ok []
  | index, value :: rest => do
    return (← Step.ofValue value index) :: (← stepsFrom (index + 1) rest)

/-- The list that holds the steps; a missing one is empty. -/
def stepList : Value → Except Fault (List Value)
  | .null => .ok []
  | .list items => .ok items
  | _ => .error .stepsNotList

/-- Read an automation from a value. -/
def ofValue (data : Value) : Except Fault Automation := do
  let fields ← data.fieldsFor "get"
  let items ← stepList (Value.field "steps" fields)
  return {
    id := ((Value.field "id" fields).orElse (.text "")).toText
    title := (Value.field "title" fields).orElse (.text "")
    steps := ← stepsFrom 0 items }

/-- The automation as an object. -/
def toValue (automation : Automation) : Value :=
  .object [("id", .text automation.id), ("title", automation.title),
    ("steps", .list (automation.steps.map Step.toValue))]

/-- As many steps are read as there are elements in the list. -/
theorem length_stepsFrom {index : Nat} {items : List Value} {steps : List Step}
    (h : stepsFrom index items = .ok steps) : steps.length = items.length := by
  induction items generalizing index steps with
  | nil =>
    simp only [stepsFrom, Except.ok.injEq] at h
    rw [← h]
    rfl
  | cons value rest ih =>
    simp only [stepsFrom] at h
    cases hv : Step.ofValue value index with
    | error fault => simp [hv, bind, Except.bind] at h
    | ok step =>
      cases hr : stepsFrom (index + 1) rest with
      | error fault => simp [hv, hr, bind, Except.bind] at h
      | ok others =>
        simp only [hv, hr, bind, Except.bind, pure, Except.pure, Except.ok.injEq] at h
        rw [← h, List.length_cons, List.length_cons, ih hr]

end Automation

end Stepwise
