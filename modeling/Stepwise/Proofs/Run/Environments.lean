import Stepwise.Proofs.Bindings.Lookup
import Stepwise.Proofs.Run.Likeness
import Stepwise.Proofs.Run.Shortfall

/-! # A browser and a device

The registry of a browser is that of a device without the handlers of three step types, and with
another handler of `open-app` steps (`Registry.register_browser`). So the two differ in nothing else:
let no `open-app` step be enabled, and take the steps of the three types out of an automation. Then
the device does with what is left as the browser does with the whole (`Controller.start_within`).

* What is left is what the browser takes: on any platform the capabilities of the browser are those
  of the device but for the three types (`Registry.mem_capabilities_browser`), and so the two accept
  the same steps (`compatible_browser`).
* The handlers of these steps are the same in both registries, also once the listener has removed
  some (`Registry.AgreesOn`), so runs that differ only in such registries are alike
  (`Run.likeness_elsewhere`). -/

namespace Stepwise

variable {σ : Type}

/-! ## Registries that agree -/

namespace Registry

/-- **Two registries agree on some step types** if these have the same handlers in both. -/
structure AgreesOn (shared : String → Prop) (registry registry' : Registry σ) : Prop where
  /-- The step types of the first registry are distinct. -/
  nodup : registry.handlers.names.Nodup
  /-- The step types of the second registry are distinct. -/
  nodup' : registry'.handlers.names.Nodup
  /-- The handlers of the step types in question are the same. -/
  get? {stepType : String} (hshared : shared stepType) :
    registry'.get? stepType = registry.get? stepType

/-- Removing a handler leaves the others as they were. -/
theorem get?_unregister_ne {removed stepType : String} (hne : removed ≠ stepType)
    (registry : Registry σ) :
    (registry.unregister removed).get? stepType = registry.get? stepType :=
  Bindings.find?_erase_ne hne registry.handlers

/-- Removing some handlers leaves the others as they were. -/
theorem get?_foldl_unregister {types : List String} {stepType : String} (h : stepType ∉ types)
    (registry : Registry σ) :
    (types.foldl unregister registry).get? stepType = registry.get? stepType := by
  induction types generalizing registry with
  | nil => rfl
  | cons removed rest ih =>
    rw [List.mem_cons, not_or] at h
    obtain ⟨hne, hrest⟩ := h
    rw [List.foldl_cons, ih hrest, get?_unregister_ne (Ne.symm hne)]

/-- Registries that agree still do when both lose the handler of a step type. -/
theorem AgreesOn.unregister {shared : String → Prop} {registry registry' : Registry σ}
    (h : registry.AgreesOn shared registry') (removed : String) :
    (registry.unregister removed).AgreesOn shared (registry'.unregister removed) where
  nodup := Bindings.nodup_names_erase h.nodup removed
  nodup' := Bindings.nodup_names_erase h.nodup' removed
  get? := by
    intro stepType hshared
    by_cases heq : removed = stepType
    · -- distinct types have one handler at most, so none is left in either
      subst heq
      exact (Bindings.find?_erase_self h.nodup' removed).trans
        (Bindings.find?_erase_self h.nodup removed).symm
    · rw [get?_unregister_ne heq, get?_unregister_ne heq, h.get? hshared]

/-! ## The two registries -/

/-- The step types of a device that make no sense in a browser. -/
def deviceOnly : List String := ["webhook", "condition", "loop"]

/-- These are the types of a device that are not listed for browsers. -/
theorem filter_stepTypes_device :
    (device : Registry σ).stepTypes.filter (fun name => !browserStepTypes.contains name) =
      deviceOnly := by
  rw [stepTypes_device]
  decide

/-- A step type that has the same handler, or none, on a device and in a browser. -/
def IsShared (stepType : String) : Prop := stepType ∉ deviceOnly ∧ stepType ≠ "open-app"

/-- **How the registry of a browser is made** from that of a device: the handlers that are not listed
for browsers are removed one after the other, and another one is registered for `open-app` steps. -/
theorem register_browser :
    (((device : Registry σ).stepTypes.filter fun name => !browserStepTypes.contains name).foldl
      unregister device).register (Steps.openApp .web) = .ok (browser : Registry σ) := by
  rw [filter_stepTypes_device]
  rfl

/-- Shared step types have the same handlers. -/
theorem get?_browser {stepType : String} (h : IsShared stepType) :
    (browser : Registry σ).get? stepType = (device : Registry σ).get? stepType := by
  have hne : (Steps.openApp .web : Handler σ).stepType ≠ stepType := Ne.symm h.2
  rw [get?_register_ne hne register_browser, filter_stepTypes_device, get?_foldl_unregister h.1]

/-- A device opens apps by its own directory. -/
theorem get?_device_openApp :
    (device : Registry σ).get? "open-app" = some (Steps.openApp .native) :=
  rfl

/-- A browser opens apps by their web addresses. -/
theorem get?_browser_openApp :
    (browser : Registry σ).get? "open-app" = some (Steps.openApp .web) :=
  get?_register register_browser

/-- The types that make no sense in a browser have no handler there. -/
theorem get?_browser_of_mem {stepType : String} (h : stepType ∈ deviceOnly) :
    (browser : Registry σ).get? stepType = none := by
  unfold deviceOnly at h
  rw [List.mem_cons, List.mem_cons, List.mem_singleton] at h
  rcases h with rfl | rfl | rfl
  · rfl
  · rfl
  · rfl

/-- **The two registries agree** on the step types that they share. -/
theorem browser_agreesOn_device : (browser : Registry σ).AgreesOn IsShared device where
  nodup := IsBuiltIn.nodup_names (.inr rfl)
  nodup' := IsBuiltIn.nodup_names (.inl ⟨_, rfl⟩)
  get? := fun h => (get?_browser h).symm

/-! ## What is accepted -/

/-- What a handler of `open-app` steps requires does not depend on its directory. -/
theorem isEquipped_openApp {platform : Platform σ} {directory : AppDirectory}
    (h : (Steps.openApp directory : Handler σ).IsEquipped platform) (directory' : AppDirectory) :
    (Steps.openApp directory' : Handler σ).IsEquipped platform := by
  have hrequires : (Steps.openApp directory' : Handler σ).requires =
      (Steps.openApp directory : Handler σ).requires := by
    rw [Steps.openApp, Steps.openApp]
  unfold Handler.IsEquipped
  rw [hrequires]
  exact h

/-- **The capabilities of a browser** are those of a device on the same platform, but for the types
that make no sense there. -/
theorem mem_capabilities_browser {platform : Platform σ} {stepType : String} :
    stepType ∈ (browser : Registry σ).capabilities platform ↔
      stepType ∈ (device : Registry σ).capabilities platform ∧ stepType ∉ deviceOnly := by
  rw [mem_capabilities browser_agreesOn_device.nodup, mem_capabilities browser_agreesOn_device.nodup']
  by_cases honly : stepType ∈ deviceOnly
  · rw [get?_browser_of_mem honly]
    simp [honly]
  · rw [and_iff_left honly]
    by_cases hopen : stepType = "open-app"
    · -- the two handlers of `open-app` steps require the same
      rw [hopen, get?_browser_openApp, get?_device_openApp]
      constructor
      · rintro ⟨_, ⟨rfl⟩, hequipped⟩
        exact ⟨_, rfl, isEquipped_openApp hequipped .native⟩
      · rintro ⟨_, ⟨rfl⟩, hequipped⟩
        exact ⟨_, rfl, isEquipped_openApp hequipped .web⟩
    · rw [get?_browser ⟨honly, hopen⟩]

end Registry

/-- An automation without its steps of some types. -/
def Automation.without (types : List String) (automation : Automation) : Automation :=
  { automation with steps := automation.steps.filter fun step => !types.contains step.type }

/-- **What a browser takes of some steps** is what a device takes of them without those that make no
sense in a browser. -/
theorem compatible_browser (platform : Platform σ) (steps : List Step) :
    compatible ((Registry.device : Registry σ).capabilities platform)
        (steps.filter fun step => !Registry.deviceOnly.contains step.type) =
      compatible ((Registry.browser : Registry σ).capabilities platform) steps := by
  unfold compatible
  rw [List.filter_filter]
  refine List.filter_congr fun step _ => ?_
  rw [Bool.eq_iff_iff, Bool.and_eq_true, Step.isCompatible, Step.isCompatible,
    List.contains_iff_mem, List.contains_iff_mem, Bool.not_eq_true', ← Bool.not_eq_true,
    List.contains_iff_mem, Registry.mem_capabilities_browser]

/-! ## Runs elsewhere -/

/-- A controller with the handlers of another environment. -/
def Controller.within (registry : Registry σ) (controller : Controller σ) : Controller σ :=
  { controller with registry }

/-- Calling a run off does not depend on the handlers. -/
theorem Controller.cancel_within (registry : Registry σ) (controller : Controller σ) :
    (controller.within registry).cancel =
      (controller.cancel.1, controller.cancel.2.1.within registry, controller.cancel.2.2) := by
  unfold cancel within
  dsimp only
  split
  · rfl
  · rfl

namespace Run

/-- **A run and the same run elsewhere**: they differ in the handlers that they do not share, and in
the notes. -/
def Elsewhere (run run' : Run σ) : Prop :=
  ∃ registry log, run.controller.registry.AgreesOn Registry.IsShared registry ∧
    run' = { run with controller := run.controller.within registry, log }

/-- Commands are obeyed elsewhere as they are here. -/
theorem Elsewhere.obey {run run' : Run σ} (h : run.Elsewhere run') (commands : List Command) :
    (Run.obey commands run).Elsewhere (Run.obey commands run') := by
  induction commands generalizing run run' with
  | nil => exact h
  | cons command rest ih =>
    obtain ⟨registry, log, hagrees, rfl⟩ := h
    cases command with
    | cancel =>
      -- whether that is accepted depends on the phase alone
      simp only [Run.obey, Controller.cancel_within]
      refine ih ⟨registry, _, ?_, rfl⟩
      rw [Run.emit, Controller.registry_cancel]
      exact hagrees
    | assign name value => exact ih ⟨registry, log, hagrees, rfl⟩
    | unregister stepType => exact ih ⟨_, log, hagrees.unregister stepType, rfl⟩
    | restart => exact ⟨registry, _, hagrees, rfl⟩
    | fail => exact ⟨registry, _, hagrees, rfl⟩

/-- A step of a shared type is dispatched elsewhere as it is here. -/
theorem dispatch_within {controller : Controller σ} {registry : Registry σ}
    (hagrees : controller.registry.AgreesOn Registry.IsShared registry) {step : Step}
    (hshared : Registry.IsShared step.type) :
    dispatch (controller.within registry) step = dispatch controller step := by
  unfold dispatch Controller.within
  dsimp only
  rw [hagrees.get? hshared]

/-- **Elsewhere is like here** for steps of shared types. -/
theorem likeness_elsewhere :
    Likeness (fun step => Registry.IsShared step.type) (Elsewhere (σ := σ)) where
  agrees := by
    rintro run _ ⟨registry, log, -, rfl⟩
    exact ⟨rfl, rfl, rfl, rfl, rfl⟩
  notes := by
    rintro run _ ⟨registry, log, hagrees, rfl⟩ _ log'
    exact ⟨registry, log', hagrees, rfl⟩
  record := by
    rintro run _ ⟨registry, log, hagrees, rfl⟩ result
    exact ⟨registry, log, hagrees, rfl⟩
  count := by
    rintro run _ ⟨registry, log, hagrees, rfl⟩
    exact ⟨registry, log, hagrees, rfl⟩
  notify := by
    rintro run _ ⟨registry, log, hagrees, rfl⟩ notice
    unfold Run.notify
    dsimp only [Controller.within]
    split
    · exact ⟨registry, log, hagrees, rfl⟩
    next listener hlistener =>
      refine Elsewhere.obey ?_ (listener notice)
      exact ⟨registry, log, hagrees, rfl⟩
  perform := by
    rintro run _ ⟨registry, log, hagrees, rfl⟩ step hshared
    have hdispatch := dispatch_within hagrees hshared
    unfold Run.perform
    dsimp only
    rw [hdispatch]
    exact ⟨rfl, registry, _, hagrees, rfl⟩

end Run

/-- Outcomes of runs that differ in their environment differ in the handlers only. -/
theorem StartOutcome.Alike.elsewhere {controller : Controller σ} {registry : Registry σ}
    {outcome outcome' : StartOutcome σ}
    (h : Alike Run.Elsewhere controller (controller.within registry) outcome outcome') :
    outcome'.result = outcome.result ∧ outcome'.requests = outcome.requests ∧
      outcome'.events = outcome.events ∧
      outcome'.controller = outcome.controller.within outcome'.controller.registry := by
  cases h with
  | refused fault phase => exact ⟨rfl, rfl, rfl, rfl⟩
  | closed h phase result =>
    obtain ⟨registry, log, -, rfl⟩ := h
    exact ⟨rfl, rfl, rfl, rfl⟩

namespace Controller

/-- **A device does as a browser does** with what both accept. Let a controller accept what its
registry can run, and let no `open-app` step be enabled. Then running an automation with the
registry of a browser is running it, without the steps that make no sense there, with the registry
of a device: on any platform and whatever the listener asks for, the two return the same, make the
same requests, tell the same, and leave controllers with the same variables, world and phase, which
differ in their handlers only. -/
theorem start_within {controller : Controller σ} (hdefault : controller.capabilities = none)
    {automation : Automation}
    (hopen : ∀ step ∈ automation.steps, step.enabled = true → step.type ≠ "open-app")
    (initial : Value) :
    let here := (controller.within .browser).start automation initial
    let there :=
      (controller.within .device).start (automation.without Registry.deviceOnly) initial
    there.result = here.result ∧ there.requests = here.requests ∧ there.events = here.events ∧
      there.controller = here.controller.within there.controller.registry ∧
      ((controller.within .device).moments (automation.without Registry.deviceOnly)
          initial).filterMap Moment.notice? =
        ((controller.within .browser).moments automation initial).filterMap Moment.notice? := by
  intro here there
  -- the capabilities are unset, so each environment accepts what its registry can run
  have haccepted : ∀ registry : Registry σ,
      (controller.within registry).accepted = registry.capabilities controller.platform := by
    intro registry
    rw [accepted, within, hdefault]
    rfl
  have hphase : (controller.within .device).phase = (controller.within .browser).phase := rfl
  have hsteps : (controller.within .device).steps (automation.without Registry.deviceOnly) =
      (controller.within .browser).steps automation := by
    rw [steps, steps, haccepted, haccepted]
    exact compatible_browser controller.platform automation.steps
  have hlaunch : ∀ store, Run.Elsewhere ((controller.within .browser).launch automation store)
      ((controller.within .device).launch (automation.without Registry.deviceOnly) store) :=
    fun store => ⟨.device, _, Registry.browser_agreesOn_device, rfl⟩
  -- an enabled step that is left over is of a type with the same handler in both
  have hshared : ∀ step ∈ (controller.within .browser).steps automation, step.enabled = true →
      Registry.IsShared step.type := by
    intro step hstep henabled
    obtain ⟨hmem, hcompatible⟩ := List.mem_filter.mp hstep
    rw [haccepted, Step.isCompatible, List.contains_iff_mem,
      Registry.mem_capabilities_browser] at hcompatible
    exact ⟨hcompatible.2, hopen step hmem henabled⟩
  obtain ⟨halike, hnotices⟩ :=
    Run.likeness_elsewhere.start hphase hlaunch hsteps hshared initial
  obtain ⟨hresult, hrequests, hevents, hcontroller⟩ := halike.elsewhere
  exact ⟨hresult, hrequests, hevents, hcontroller, hnotices⟩

/-- A controller on a platform where nothing is wired but navigation, with a listener that removes
the handler of `webhook` steps whenever it is told something. -/
def wandering : Controller Simulation.World where
  registry := {}
  platform := ({ wired := [.navigation] } : Simulation.Scenario).platform
  world := {}
  listener := some fun _ => [.unregister "webhook"]

/-- Bind a number, call it, and call none. Between these are steps that make no sense in a browser,
one that shows something and one that would open an app. -/
def medley : Automation where
  id := "medley"
  title := .text "Medley"
  steps := [
    { id := "a", type := "set-variable"
      config := [("name", .text "number"), ("value", .text "+1555")] },
    { id := "w", type := "webhook", config := [("url", .text "https://example.com")] },
    { id := "n", type := "notification", config := [("message", .text "Hi")] },
    { id := "o", type := "open-app", enabled := false, config := [("appName", .text "Maps")] },
    { id := "l", type := "loop", config := [("count", .int 2)] },
    { id := "b", type := "call", config := [("phoneNumber", .text "\x7b\x7bnumber\x7d\x7d")] },
    { id := "c", type := "call", config := [("phoneNumber", .text " ")] }]

/-- Both make one call and fail at the last of the four steps that they accept. -/
theorem start_within_medley :
    ∃ result, ((wandering.within .browser).start medley .null).result = .ok result ∧
      result.failedStep = some 3 ∧
      ((wandering.within .device).start (medley.without Registry.deviceOnly) .null).result =
        .ok result ∧
      ((wandering.within .device).start (medley.without Registry.deviceOnly)
        .null).requests.length = 1 := by
  obtain ⟨result, hresult, hfailed⟩ :=
    exists_ok_of_map ((wandering.within .browser).start medley .null).result
      RunResult.failedStep (some 3) (by decide +kernel)
  have hcalls : ((wandering.within .browser).start medley .null).requests.length = 1 := by
    decide +kernel
  obtain ⟨hsame, hrequests, -⟩ := @start_within _ wandering rfl medley (by decide) .null
  refine ⟨result, hresult, hfailed, ?_, ?_⟩
  · rw [hsame, hresult]
  · rw [hrequests, hcalls]

end Controller

end Stepwise
