import Stepwise.Definition

/-! # Steps that can be run

An environment can run the steps whose type is among its capabilities. `compatible` keeps those
steps in their order, `incompatible` the others, and `canExecute` says whether there is anything to
do at all: a compatible step that is enabled. -/

namespace Stepwise

/-- Whether the type of a step is among the capabilities. -/
def Step.isCompatible (capabilities : List String) (step : Step) : Bool :=
  capabilities.contains step.type

/-- The steps that can be run, in order. -/
def compatible (capabilities : List String) (steps : List Step) : List Step :=
  steps.filter (·.isCompatible capabilities)

/-- The steps that cannot be run, in order. -/
def incompatible (capabilities : List String) (steps : List Step) : List Step :=
  steps.filter fun step => !step.isCompatible capabilities

/-- Whether some step that can be run is enabled. -/
def canExecute (capabilities : List String) (steps : List Step) : Bool :=
  steps.any fun step => step.enabled && step.isCompatible capabilities

/-- What is said of a step that cannot be run. -/
def Step.incompatibility (step : Step) : String :=
  s!"Step '{step.title.toText}' ({step.type}) is not supported in this environment"

/-- Every step can be run or cannot. -/
theorem length_compatible_add_incompatible (capabilities : List String) (steps : List Step) :
    (compatible capabilities steps).length + (incompatible capabilities steps).length =
      steps.length := by
  induction steps with
  | nil => rfl
  | cons step rest ih =>
    simp only [compatible, incompatible, List.filter_cons] at ih ⊢
    cases step.isCompatible capabilities <;> simp <;> omega

/-- There is something to do exactly when an enabled step is left over. -/
theorem canExecute_iff (capabilities : List String) (steps : List Step) :
    canExecute capabilities steps = true ↔
      ∃ step ∈ compatible capabilities steps, step.enabled = true := by
  simp only [canExecute, compatible, List.any_eq_true, List.mem_filter, Bool.and_eq_true]
  exact exists_congr fun _ => by rw [and_assoc, and_comm (a := _ = true)]

end Stepwise
