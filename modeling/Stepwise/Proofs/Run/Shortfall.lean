import Stepwise.Proofs.Run.Rejection

/-! # What is missing in spite of the filter

By default a controller accepts the steps whose handler finds every collaborator that it requires.
So no step should ever fail for want of a collaborator.

A `location` step requires that the position can be asked for, and it may need more than that: to
send a place it needs messaging, to open a map it needs navigation. `Controller.start_short_iff`
says that with the built-in handlers these are the only steps that fall short
(`Step.FallsShort`). -/

namespace Stepwise

variable {σ : Type}

/-! ## The filter -/

/-- **A handler is equipped** on a platform if each collaborator that it requires is wired. -/
def Handler.IsEquipped (handler : Handler σ) (platform : Platform σ) : Prop :=
  ∀ name ∈ handler.requires, ∃ c : Collaborator, c.name = name ∧ platform.wired c = true

/-- A handler finds all that it requires exactly if it is equipped. -/
theorem Handler.isAvailable_iff {handler : Handler σ} {platform : Platform σ} :
    handler.isAvailable platform.available = true ↔ handler.IsEquipped platform := by
  rw [isAvailable, List.all_eq_true]
  simp only [List.contains_iff_mem, Platform.mem_available, IsEquipped]

/-- **A step type is among the capabilities** exactly if it has a handler that is equipped. -/
theorem Registry.mem_capabilities {registry : Registry σ}
    (hdistinct : registry.handlers.names.Nodup) {platform : Platform σ} {stepType : String} :
    stepType ∈ registry.capabilities platform ↔
      ∃ handler, registry.get? stepType = some handler ∧ handler.IsEquipped platform := by
  unfold capabilities Bindings.names
  rw [List.mem_map]
  constructor
  · rintro ⟨⟨name, handler⟩, hentry, rfl⟩
    obtain ⟨hmem, havailable⟩ := List.mem_filter.mp hentry
    exact ⟨handler, Bindings.find?_of_mem hdistinct hmem, Handler.isAvailable_iff.mp havailable⟩
  · rintro ⟨handler, hget, hequipped⟩
    refine ⟨(stepType, handler), List.mem_filter.mpr ⟨Bindings.mem_of_find? hget, ?_⟩, rfl⟩
    exact Handler.isAvailable_iff.mpr hequipped

/-- **A step that is left over by the default filter** has a handler that is equipped. -/
theorem Controller.equipped_of_mem_steps {controller : Controller σ}
    (hdistinct : controller.registry.handlers.names.Nodup)
    (hdefault : controller.capabilities = none) {automation : Automation} {step : Step}
    (h : step ∈ controller.steps automation) :
    ∃ handler, controller.registry.get? step.type = some handler ∧
      handler.IsEquipped controller.platform := by
  have haccepted : controller.accepted = controller.registry.capabilities controller.platform := by
    rw [accepted, hdefault]
    rfl
  have hcompatible := (List.mem_filter.mp h).2
  rw [haccepted, Step.isCompatible, List.contains_iff_mem] at hcompatible
  exact (Registry.mem_capabilities hdistinct).mp hcompatible

/-! ## Falling short -/

/-- The failure of a step is a shortage: a collaborator is not there. -/
def Fault.IsShortage (fault : Fault) : Prop :=
  fault.isStep = true ∧ fault.label = "PlatformUnsupportedError"

/-- What blames no collaborator is no shortage. -/
theorem Fault.IsInward.not_isShortage {fault : Fault} (h : fault.IsInward) :
    ¬ fault.IsShortage := by
  rintro ⟨hstep, hlabel⟩
  rcases h with ⟨field, detail, rfl⟩ | hbreak
  · have hother : "ConfigurationError" ≠ "PlatformUnsupportedError" := by decide
    exact hother hlabel
  · rw [Fault.IsBreak.eq_1, hstep] at hbreak
    cases hbreak

/-- What comes from collaborators that raise no shortages is none. -/
theorem Fault.IsOutward.not_isShortage {platform : Platform σ} {fault : Fault}
    (h : fault.IsOutward platform)
    (hraises : ∀ request world other,
      (platform.answer request world).1 = .error other → ¬ other.IsShortage) :
    ¬ fault.IsShortage := by
  exact h.not_of_kind (fun kind => kind = "PlatformUnsupportedError") (by decide) hraises

/-- **A step falls short** of what the platform provides: it is a `location` step with a valid
configuration that shares its place in vain, or opens a map in vain. -/
def Step.FallsShort (platform : Platform σ) (step : Step) (store : Store) (world : σ) : Prop :=
  step.Locates (fun config =>
    Steps.SharesInVain platform config world ∨ Steps.OpensInVain platform config) store

namespace Run

variable {controller : Controller σ} {step : Step} {handler : Handler σ}

/-- **A built-in step whose handler is equipped** fails for want of a collaborator exactly if it
falls short. -/
theorem dispatch_short_iff (hdraws : controller.registry.DrawsOnBuiltIn)
    (hget : controller.registry.get? step.type = some handler)
    (hequipped : handler.IsEquipped controller.platform)
    (hmaps : controller.settings.mapsUrl = ({} : Settings).mapsUrl)
    (hraises : ∀ request world fault,
      (controller.platform.answer request world).1 = .error fault → ¬ fault.IsShortage)
    (store : Store) (world : σ) :
    (∃ fault, ((dispatch controller step).run store world).result = .error fault ∧
        fault.IsShortage) ↔
      step.FallsShort controller.platform store world := by
  constructor
  · rintro ⟨fault, hfault, hshortage⟩
    obtain ⟨-, hfails⟩ := dispatch_failsAt hdraws store world fault hfault
    generalize ((dispatch controller step).run store world).requests = requests at hfails
    -- of the ways to fail only the two that `location` steps have are left
    cases hfails with
    | unknown hnone => cases hget.symm.trans hnone
    | refused hinward => exact absurd hshortage hinward.not_isShortage
    | performed hfound hconfig hvalid hfails =>
      obtain rfl := Option.some.inj (hget.symm.trans hfound)
      cases hfails with
      | outward h => exact absurd hshortage (h.not_isShortage hraises)
      | inward h => exact absurd hshortage h.not_isShortage
      | lacking hname hlacks =>
        obtain ⟨c, rfl, hc⟩ := hequipped _ hname
        rw [Platform.provides_name, hc] at hlacks
        cases hlacks
      | unopened htype h => exact hdraws.locates hget htype hconfig hvalid (.inr h)
      | unsent htype h => exact hdraws.locates hget htype hconfig hvalid (.inl h)
  · rintro ⟨htype, config, hconfig, hvalid, hvain⟩
    have hlocation : handler = Steps.location := by
      rw [htype] at hget
      obtain ⟨source, hsource, hfound⟩ := hdraws.get? hget
      exact Option.some.inj (hfound.symm.trans hsource.get?_location)
    subst hlocation
    obtain ⟨name, hexecute⟩ := Steps.execute_inVain config
      ⟨controller.platform, controller.settings, step⟩ store world hmaps hvain
    refine ⟨.unsupported name (some "location"), ?_, rfl, rfl⟩
    obtain ⟨log, hrun⟩ := dispatch_of_valid hget hconfig hvalid world
    rw [hrun]
    dsimp only
    rw [hexecute]
    rfl

end Run

/-! ## Whole runs -/

/-- A shortage makes a step fail for that kind of reason, and nothing else does. -/
theorem verdict_short_iff {outcome : Except Fault Value} {failure : Failure}
    (h : (verdict outcome).failure = some failure) :
    failure.kind = "PlatformUnsupportedError" ↔
      ∃ fault, outcome = .error fault ∧ fault.IsShortage := by
  constructor
  · intro hkind
    have hother : failure.kind ≠ "StepError" ∧ failure.kind ≠ "UnexpectedError" := by
      rw [hkind]
      decide
    obtain ⟨fault, hfault, hstep, hlabel⟩ := fault_of_failure h hother.1 hother.2
    exact ⟨fault, hfault, hstep, hlabel.trans hkind⟩
  · rintro ⟨fault, rfl, hstep, hlabel⟩
    have hfailure : (verdictOfFault fault).failure = some failure := h
    rw [verdictOfFault, if_pos hstep] at hfailure
    obtain rfl := Option.some.inj hfailure
    exact hlabel

namespace Controller

variable {controller : Controller σ} {automation : Automation} {initial : Value}

/-- **At a moment of a run** a step is dispatched as it would be at the start, if the handlers are
still the same: it fails for want of a collaborator exactly if it falls short. -/
theorem perform_short_iff (hbuiltIn : controller.registry.IsBuiltIn)
    (hdefault : controller.capabilities = none)
    (hmaps : controller.settings.mapsUrl = ({} : Settings).mapsUrl)
    (hraises : ∀ request world fault,
      (controller.platform.answer request world).1 = .error fault → ¬ fault.IsShortage)
    {called : Nat} {step : Step} {run : Run σ}
    (hmoment : .dispatched called step run ∈ controller.moments automation initial)
    (hkept : run.controller.registry = controller.registry)
    (hstep : step ∈ controller.steps automation) :
    (∃ fault, (run.perform step).1 = .error fault ∧ fault.IsShortage) ↔
      step.FallsShort controller.platform run.store run.controller.world := by
  have hpersists := persists_of_mem_moments hmoment
  have hplatform : run.controller.platform = controller.platform := hpersists.platform
  have hsettings : run.controller.settings = controller.settings := hpersists.settings
  obtain ⟨handler, hget, hequipped⟩ := equipped_of_mem_steps hbuiltIn.nodup_names hdefault hstep
  -- what is known of the controller at the start is known of it at that moment
  rw [← hplatform] at hequipped hraises ⊢
  rw [← hsettings] at hmaps
  rw [← hkept] at hget hbuiltIn
  exact Run.dispatch_short_iff hbuiltIn.drawsOnBuiltIn hget hequipped hmaps hraises _ _

/-- **When the default filter is not enough.** Let the handlers be the built-in ones throughout the
run, let the capabilities and the address of the map be the default ones, and let collaborators
raise no shortages themselves. Then a run fails for want of a collaborator exactly if the step at
fault falls short. Every step that is left over by the filter has a handler that is equipped, and
wherever it is dispatched it lacks nothing unless it falls short. -/
theorem start_short_iff (hbuiltIn : controller.registry.IsBuiltIn)
    (hkept : ∀ moment ∈ controller.moments automation initial,
      moment.run.controller.registry = controller.registry)
    (hdefault : controller.capabilities = none)
    (hmaps : controller.settings.mapsUrl = ({} : Settings).mapsUrl)
    (hraises : ∀ request world fault,
      (controller.platform.answer request world).1 = .error fault → ¬ fault.IsShortage)
    {result : RunResult} (hresult : (controller.start automation initial).result = .ok result) :
    (result.errorType = some "PlatformUnsupportedError" ↔
      ∃ called : Nat, ∃ step, ∃ run : Run σ, result.failedStep = some (called : Int) ∧
        .dispatched called step run ∈ controller.moments automation initial ∧
        step.FallsShort controller.platform run.store run.controller.world) ∧
    ∀ step ∈ controller.steps automation,
      (∃ handler, controller.registry.get? step.type = some handler ∧
        handler.IsEquipped controller.platform) ∧
      ∀ store world,
        (∃ fault, ((Run.dispatch controller step).run store world).result = .error fault ∧
            fault.IsShortage) ↔
          step.FallsShort controller.platform store world := by
  constructor
  · obtain ⟨hindex, hkind⟩ | ⟨called, failure, hcalled, hkind, ⟨step, run, hmoment⟩, hall⟩ :=
      start_failed_cases hresult
    · rw [hindex, hkind]
      exact ⟨nofun, fun ⟨_, _, _, hcalled, _⟩ => nomatch hcalled⟩
    · have hshort : ∀ step, ∀ run : Run σ,
          .dispatched called step run ∈ controller.moments automation initial →
            (failure.kind = "PlatformUnsupportedError" ↔
              step.FallsShort controller.platform run.store run.controller.world) := by
        intro step run hmoment
        obtain ⟨hstep, hfailure⟩ := hall step run hmoment
        exact (verdict_short_iff hfailure).trans (perform_short_iff hbuiltIn hdefault hmaps
          hraises hmoment (hkept _ hmoment) (List.mem_of_getElem? hstep))
      rw [hcalled, hkind, Option.some.injEq]
      constructor
      · intro hunsupported
        exact ⟨called, step, run, rfl, hmoment, (hshort step run hmoment).mp hunsupported⟩
      · rintro ⟨called', step', run', hcalled', hmoment', hfalls⟩
        obtain rfl : called = called' := Int.ofNat.inj (Option.some.inj hcalled')
        exact (hshort step' run' hmoment').mpr hfalls
  · intro step hstep
    obtain ⟨handler, hget, hequipped⟩ := equipped_of_mem_steps hbuiltIn.nodup_names hdefault hstep
    refine ⟨⟨handler, hget, hequipped⟩, ?_⟩
    exact Run.dispatch_short_iff hbuiltIn.drawsOnBuiltIn hget hequipped hmaps hraises

/-- On a device that only knows where it is, a place cannot be shared by a short message: the step
is left over by the filter, and falls short. -/
theorem start_short_iff_sharing :
    ∃ result, (stranded.start sharing .null).result = .ok result ∧
      result.errorType = some "PlatformUnsupportedError" ∧
      ∃ called : Nat, ∃ step, ∃ run : Run Simulation.World,
        result.failedStep = some (called : Int) ∧
        .dispatched called step run ∈ stranded.moments sharing .null ∧
        step.FallsShort stranded.platform run.store run.controller.world := by
  obtain ⟨result, hresult, hkind⟩ := exists_ok_of_map (stranded.start sharing .null).result
    RunResult.errorType (some "PlatformUnsupportedError") (by decide +kernel)
  have hkept : ∀ moment ∈ stranded.moments sharing .null,
      moment.run.controller.registry = stranded.registry := fun moment hmoment =>
    (persists_of_mem_moments hmoment).registry (isSpared_of_no_listener rfl _)
  have hraises : ∀ request world fault,
      (stranded.platform.answer request world).1 = .error fault → ¬ fault.IsShortage := by
    rintro request world fault hraised ⟨hstep, -⟩
    rw [locating_raises request world fault hraised] at hstep
    cases hstep
  exact ⟨result, hresult, hkind,
    (start_short_iff (.inl ⟨_, rfl⟩) hkept rfl rfl hraises hresult).1.mp hkind⟩

end Controller

end Stepwise
