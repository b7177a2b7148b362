import Stepwise.Proofs.Run.Persistence
import Stepwise.Simulation

/-! # Steps that are rejected

If a run fails at a step, that step was dispatched, and how it went is why the run failed
(`Controller.start_failed_cases`). If the reason is a configuration or a collaborator that is not
there, the step should have done nothing: no variable bound, no request made.

`Controller.start_rejected` says that this is so with the built-in handlers, for any collaborators
that raise no step faults, but for one case. A `location` step that is to share a place by a short
message asks for the position before it finds that there is no messaging
(`Controller.asks_before_rejecting`). -/

namespace Stepwise

variable {σ : Type}

/-! ## The step at fault -/

/-- **A kind of failure that only faults have** comes from a step fault. -/
theorem fault_of_failure {outcome : Except Fault Value} {failure : Failure}
    (h : (verdict outcome).failure = some failure) (hreported : failure.kind ≠ "StepError")
    (hexpected : failure.kind ≠ "UnexpectedError") :
    ∃ fault, outcome = .error fault ∧ fault.isStep = true ∧ fault.label = failure.kind := by
  cases outcome with
  | error fault =>
    have hfault : (verdictOfFault fault).failure = some failure := h
    unfold verdictOfFault at hfault
    split at hfault
    next hstep =>
      obtain rfl := Option.some.inj hfault
      exact ⟨fault, rfl, hstep, rfl⟩
    next =>
      obtain rfl := Option.some.inj hfault
      exact absurd rfl hexpected
  | ok value =>
    cases value with
    | object fields =>
      unfold verdict at h
      dsimp only at h
      split at h
      · cases h
      · obtain rfl := Option.some.inj h
        exact absurd rfl hreported
    | _ =>
      -- what is no object makes the step break
      obtain rfl := Option.some.inj h
      exact absurd rfl hexpected

namespace Run

/-- An enabled step is dispatched once, after the listener was told that it starts. -/
theorem dispatched_mem_advanceMoments {index called : Nat} {step step' : Step}
    {run before : Run σ} :
    .dispatched called step' before ∈ run.advanceMoments index step ↔
      called = index ∧ step' = step ∧ before = run.notify (.started index step) := by
  cases htime : elapsedMs (run.notify (.started index step)).controller.now
      (run.work index step).controller.now with
  | error fault =>
    rw [advanceMoments_of_untimed htime]
    simp
  | ok durationMs =>
    rw [advanceMoments_of_timed htime]
    simp

/-- **A step that fails** is enabled, and how its work went is why it failed. -/
theorem take_failed {title : String} {index called : Nat} {step : Step} {run after : Run σ}
    {failure : Failure} (h : run.take title index step = (some (.failed called failure), after)) :
    called = index ∧ (run.judge index step).failure = some failure ∧
      run.takeMoments index step = run.advanceMoments index step := by
  unfold take at h
  unfold takeMoments
  split at h
  · cases h
  next hgoing =>
    split at h
    · cases h
    next henabled =>
      rw [Bool.not_eq_true] at hgoing henabled
      rw [hgoing, henabled, Bool.or_false, if_neg Bool.false_ne_true]
      cases htime : elapsedMs (run.notify (.started index step)).controller.now
          (run.work index step).controller.now with
      | error fault =>
        rw [advance_of_untimed htime] at h
        cases h
      | ok durationMs =>
        rw [advance_of_timed htime] at h
        obtain ⟨failure', hfailure, heq⟩ := Option.map_eq_some_iff.mp (Prod.mk.inj h).1
        obtain ⟨rfl, rfl⟩ := Ending.failed.inj heq
        exact ⟨rfl, hfailure, rfl⟩

/-- **A loop that fails** dispatched the step at fault, and how that went is why the loop failed. -/
theorem loop_failed {title : String} {index called : Nat} {steps : List Step} {run after : Run σ}
    {failure : Failure} (h : loop title index steps run = (.failed called failure, after)) :
    (∃ step before, .dispatched called step before ∈ moments title index steps run) ∧
      ∀ step before, .dispatched called step before ∈ moments title index steps run →
        steps[called - index]? = some step ∧
          (verdict (before.perform step).1).failure = some failure := by
  induction steps generalizing index run with
  | nil => cases h
  | cons step rest ih =>
    obtain ⟨ending, ended, heq, hloop, hmoments⟩ | ⟨going, heq, hloop, hmoments⟩ :=
      loop_cases title index step rest run
    · -- the step at fault is this one
      rw [hloop] at h
      rw [(Prod.mk.inj h).1] at heq
      obtain ⟨rfl, hfailure, hsame⟩ := take_failed heq
      rw [hmoments, hsame]
      refine ⟨⟨step, _, dispatched_mem_advanceMoments.mpr ⟨rfl, rfl, rfl⟩⟩, ?_⟩
      intro step' before hmem
      obtain ⟨-, rfl, rfl⟩ := dispatched_mem_advanceMoments.mp hmem
      rw [Nat.sub_self]
      exact ⟨rfl, hfailure⟩
    · -- it is behind this one, whose moments are not about it
      rw [hloop] at h
      obtain ⟨⟨found, before, hfound⟩, hall⟩ := ih h
      have hbehind : index + 1 ≤ called := (mem_moments hfound).1
      rw [hmoments]
      refine ⟨⟨found, before, List.mem_append_right _ hfound⟩, fun step' before' hmem => ?_⟩
      rcases List.mem_append.mp hmem with hhere | hrest
      · have hindex : called = index := (mem_takeMoments hhere).1
        omega
      · obtain ⟨hstep, hfailure⟩ := hall step' before' hrest
        have hnext : called - index = (called - (index + 1)) + 1 := by omega
        rw [hnext, List.getElem?_cons_succ]
        exact ⟨hstep, hfailure⟩

end Run

namespace Controller

variable {controller : Controller σ} {automation : Automation} {initial : Value}

/-- **A result that names a step at fault** says for what kind of reason it failed. That step was
dispatched, and how it went is why the run failed. Any other result names neither. -/
theorem start_failed_cases {result : RunResult}
    (h : (controller.start automation initial).result = .ok result) :
    (result.failedStep = none ∧ result.errorType = none) ∨
      ∃ called : Nat, ∃ failure : Failure, result.failedStep = some (called : Int) ∧
        result.errorType = some failure.kind ∧
        (∃ step, ∃ run : Run σ,
          .dispatched called step run ∈ controller.moments automation initial) ∧
        ∀ step, ∀ run : Run σ, .dispatched called step run ∈ controller.moments automation initial →
          (controller.steps automation)[called]? = some step ∧
            (verdict (run.perform step).1).failure = some failure := by
  obtain ⟨hidle, store, hstore, hrun⟩ := start_eq_ok h
  obtain ⟨-, executionTime, rfl⟩ | ⟨-, ending, after, hloop, hconclude⟩ := hrun
  · exact .inl ⟨rfl, rfl⟩
  · rw [moments_of_readable hidle hstore]
    cases ending with
    | completed =>
      obtain ⟨_, -, rfl⟩ := Run.finish_eq_ok_iff.mp hconclude
      exact .inl ⟨rfl, rfl⟩
    | cancelled =>
      obtain ⟨_, -, rfl⟩ := Run.finish_eq_ok_iff.mp hconclude
      exact .inl ⟨rfl, rfl⟩
    | aborted fault => cases hconclude
    | failed called failure =>
      obtain ⟨_, -, rfl⟩ := Run.finish_eq_ok_iff.mp hconclude
      obtain ⟨hdispatched, hall⟩ := Run.loop_failed hloop
      exact .inr ⟨called, failure, rfl, rfl, hdispatched, hall⟩

end Controller

/-! ## Rejected steps -/

/-- The failure of a step is a rejection: of its configuration, or for want of a collaborator. -/
def Fault.IsRejection (fault : Fault) : Prop :=
  fault.isStep = true ∧
    (fault.label = "ConfigurationError" ∨ fault.label = "PlatformUnsupportedError")

/-- What comes from collaborators that raise no step faults is no rejection. -/
theorem Fault.IsOutward.not_isRejection {platform : Platform σ} {fault : Fault}
    (h : fault.IsOutward platform)
    (hraises : ∀ request world other,
      (platform.answer request world).1 = .error other → other.isStep = false) :
    ¬ fault.IsRejection := by
  refine h.not_of_kind (fun kind =>
    kind = "ConfigurationError" ∨ kind = "PlatformUnsupportedError") (by decide) ?_
  rintro request world other hraised ⟨hstep, -⟩
  rw [hraises request world other hraised] at hstep
  cases hstep

namespace Run

/-- **A built-in step that is rejected** bound no variable, and made no request unless it shared its
place in vain. -/
theorem dispatch_rejected {controller : Controller σ}
    (hdraws : controller.registry.DrawsOnBuiltIn)
    (hraises : ∀ request world fault,
      (controller.platform.answer request world).1 = .error fault → fault.isStep = false)
    {step : Step} {store : Store} {world : σ} :
    let outcome := (dispatch controller step).run store world
    ∀ fault, outcome.result = .error fault → fault.IsRejection →
      outcome.store = store ∧ (outcome.requests = [] ∨ outcome.requests = [.position] ∧
        step.Locates
          (fun config => Steps.SharesInVain controller.platform config world) store) := by
  intro outcome fault hfault hrejection
  obtain ⟨hstore, hfails⟩ := dispatch_failsAt hdraws store world fault hfault
  refine ⟨hstore, ?_⟩
  change FailsAt controller step store world outcome.requests fault at hfails
  generalize outcome.requests = requests at hfails ⊢
  cases hfails with
  | unknown _ => exact .inl rfl
  | refused _ => exact .inl rfl
  | performed hget hconfig hvalid hfails =>
    cases hfails with
    | outward h => exact absurd hrejection (h.not_isRejection hraises)
    | inward _ => exact .inl rfl
    | lacking _ _ => exact .inl rfl
    | unopened _ _ => exact .inl rfl
    | unsent htype h => exact .inr ⟨rfl, hdraws.locates hget htype hconfig hvalid h⟩

end Run

namespace Controller

variable {controller : Controller σ} {automation : Automation} {initial : Value}

/-- **A step that is rejected has done nothing**, but for one case. Let the handlers be the built-in
ones, let collaborators raise no step faults, and let a run fail for a configuration or for want of
a collaborator. Then the step at fault was dispatched and bound no variable. It made no request
either, unless it asked for the position to share the place by a short message, and there is no
messaging. -/
theorem start_rejected (hbuiltIn : controller.registry.IsBuiltIn)
    (hraises : ∀ request world fault,
      (controller.platform.answer request world).1 = .error fault → fault.isStep = false)
    {result : RunResult} (hresult : (controller.start automation initial).result = .ok result)
    (hrejected : result.errorType = some "ConfigurationError" ∨
      result.errorType = some "PlatformUnsupportedError") :
    ∃ called : Nat, result.failedStep = some (called : Int) ∧
      (∃ step, ∃ run : Run σ, .dispatched called step run ∈ controller.moments automation initial) ∧
      ∀ step, ∀ run : Run σ, .dispatched called step run ∈ controller.moments automation initial →
        (run.perform step).2.store = run.store ∧
          ((Moment.dispatched called step run).requests = [] ∨
            (Moment.dispatched called step run).requests = [.position] ∧
              step.Locates (fun config => Steps.SharesInVain controller.platform config
                run.controller.world) run.store) := by
  obtain ⟨-, hnone⟩ | ⟨called, failure, hcalled, hkind, hdispatched, hall⟩ :=
    start_failed_cases hresult
  · rw [hnone] at hrejected
    rcases hrejected with hrejected | hrejected
    · cases hrejected
    · cases hrejected
  rw [hkind, Option.some.injEq, Option.some.injEq] at hrejected
  refine ⟨called, hcalled, hdispatched, fun step run hmoment => ?_⟩
  obtain ⟨-, hfailure⟩ := hall step run hmoment
  have hother : failure.kind ≠ "StepError" ∧ failure.kind ≠ "UnexpectedError" := by
    rcases hrejected with hrejected | hrejected
    · rw [hrejected]
      decide
    · rw [hrejected]
      decide
  obtain ⟨fault, hfault, hstep, hlabel⟩ := fault_of_failure hfailure hother.1 hother.2
  rw [← hlabel] at hrejected
  -- the environment is still that of the start
  have hpersists := persists_of_mem_moments hmoment
  have hstep := Run.dispatch_rejected (hpersists.drawsOnBuiltIn hbuiltIn.drawsOnBuiltIn)
    (by rw [hpersists.platform]; exact hraises) fault hfault ⟨hstep, hrejected⟩
  rw [hpersists.platform] at hstep
  exact hstep

/-- A device that knows where it is, and has nothing else. -/
def locating : Simulation.Scenario := { wired := [.location] }

/-- Nothing is raised there. -/
theorem locating_raises (request : Request) (world : Simulation.World) (fault : Fault)
    (h : (locating.platform.answer request world).1 = .error fault) : fault.isStep = false := by
  cases request <;> cases h

/-- A controller on that device. -/
def stranded : Controller Simulation.World where
  registry := .device
  platform := locating.platform
  world := {}

/-- The place is shared by a short message. -/
def sharing : Automation where
  id := "sharing"
  title := .text "Sharing"
  steps := [{ id := "s", type := "location"
              config := [("action", .text "share"), ("phoneNumber", .text "+1555")] }]

/-- A delay that is no number comes behind the position, which is asked for in its own step. -/
def reporting : Automation where
  id := "reporting"
  title := .text "Reporting"
  steps := [{ id := "p", type := "location", config := [("action", .text "get-current")] },
    { id := "d", type := "delay", config := [("delay", .text "soon")] }]

/-- The delay is rejected with nothing done, though an earlier step has asked for the position. -/
theorem start_rejected_reporting :
    ∃ result, (stranded.start reporting .null).result = .ok result ∧
      result.errorType = some "ConfigurationError" ∧ result.failedStep = some 1 ∧
      (∃ step, ∃ run : Run Simulation.World,
        .dispatched 1 step run ∈ stranded.moments reporting .null) ∧
      ∀ step, ∀ run : Run Simulation.World,
        .dispatched 1 step run ∈ stranded.moments reporting .null →
          (run.perform step).2.store = run.store := by
  obtain ⟨result, hresult, hview⟩ := exists_ok_of_map (stranded.start reporting .null).result
    (fun result => (result.errorType, result.failedStep)) (some "ConfigurationError", some 1)
    (by decide +kernel)
  obtain ⟨hkind, hindex⟩ := Prod.mk.inj hview
  obtain ⟨called, hcalled, hdispatched, hall⟩ :=
    start_rejected (.inl ⟨_, rfl⟩) locating_raises hresult (.inl hkind)
  obtain rfl : called = 1 := by
    rw [hindex] at hcalled
    exact (Int.ofNat.inj (Option.some.inj hcalled)).symm
  exact ⟨result, hresult, hkind, hindex, hdispatched, fun step run hmoment =>
    (hall step run hmoment).1⟩

/-- **The case that is left**: without messaging, a place that is to be shared by a short message is
rejected, but the position was asked for. -/
theorem asks_before_rejecting :
    stranded.registry.IsBuiltIn ∧
      (∀ request world fault, (stranded.platform.answer request world).1 = .error fault →
        fault.isStep = false) ∧
      ∃ result, (stranded.start sharing .null).result = .ok result ∧
        result.errorType = some "PlatformUnsupportedError" ∧ result.failedStep = some 0 ∧
        ∃ step, ∃ run : Run Simulation.World,
          .dispatched 0 step run ∈ stranded.moments sharing .null ∧
            (Moment.dispatched 0 step run).requests ≠ [] := by
  obtain ⟨result, hresult, hview⟩ := exists_ok_of_map (stranded.start sharing .null).result
    (fun result => (result.errorType, result.failedStep))
    (some "PlatformUnsupportedError", some 0) (by decide +kernel)
  obtain ⟨hkind, hindex⟩ := Prod.mk.inj hview
  have hasked : ((stranded.moments sharing .null).any fun
      | .dispatched 0 step run => !(Moment.dispatched 0 step run).requests.isEmpty
      | _ => false) = true := by
    decide +kernel
  obtain ⟨moment, hmoment, hrequests⟩ := List.any_eq_true.mp hasked
  refine ⟨.inl ⟨_, rfl⟩, locating_raises, result, hresult, hkind, hindex, ?_⟩
  split at hrequests
  next step run =>
    refine ⟨step, run, hmoment, fun hnone => ?_⟩
    rw [hnone] at hrequests
    cases hrequests
  next => cases hrequests

end Controller

end Stepwise
