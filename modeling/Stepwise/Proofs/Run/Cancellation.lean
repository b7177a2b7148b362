import Stepwise.Proofs.Run.Moments
import Stepwise.Simulation
import Stepwise.Steps.Scripted

/-! # Calling a run off

A run looks whether it was called off at one place only, before it takes a step. So a request never
interrupts a step: the one during which it comes is finished as if nothing had been asked, and no
step behind it is taken, whether it is enabled or not.

`Controller.start_called_off` says this of every run that returns. The request is found by
`calledOffAt?`, the first moment of the run at which the listener calls it off, or in the controller
if it came before the start. Two facts about the loop carry the proof: behind a request it takes no
step (`Run.loop_of_called_off`), and up to the request it takes one step after the other
(`Run.finishes_of_calledOffAt`, by induction on the steps). -/

namespace Stepwise

variable {σ : Type}

/-! ## The last step of a run -/

/-- **A run finishes with a step**: it is the last one of which anyone hears, and it is performed as
any other. `before` is the run in front of the step, `moments` and `results` are those of the whole
run. -/
structure Run.Finishes (before : Run σ) (index : Nat) (step : Step) (durationMs : Int)
    (moments : List (Moment σ)) (results : List StepResult) : Prop where
  /-- The step is enabled. -/
  enabled : step.enabled = true
  /-- The step is timed from when the listener was told that it starts. -/
  timed : elapsedMs (before.notify (.started index step)).controller.now
    (before.work index step).controller.now = .ok durationMs
  /-- Behind the moments of earlier steps, the listener is told that the step starts, the step is
  dispatched and the listener is told how it went. That is all. -/
  moments : ∃ earlier : List (Moment σ), (∀ moment ∈ earlier, moment.index < index) ∧
    moments = earlier ++
      ([.told (.started index step) before,
        .dispatched index step (before.notify (.started index step))] ++
      [.told ((before.judge index step).notice index
          ((before.judge index step).result step durationMs))
        (before.settle index step durationMs)])
  /-- There is one result for each earlier step. -/
  reached : before.results.length = index
  /-- The result of the step is the last one, and says how it went. -/
  results : results = before.results ++ [(before.judge index step).result step durationMs]

/-- How the loop ends behind a step, by how the step failed, if it did, and by the steps that are
left. -/
def Ending.behind (index : Nat) (failure : Option Failure) (rest : List Step) : Ending :=
  match failure with
  | some failure => .failed index failure
  | none => if rest.isEmpty then .completed else .cancelled

/-- **How a run of `total` steps ends** that was called off during the step `index`, by how that
step failed, if it did. -/
structure RunResult.EndsBehind (index total : Nat) (failure : Option Failure) (result : RunResult) :
    Prop where
  /-- If the step failed, so did the run, there and for the same reason. -/
  failed : ∀ reason, failure = some reason →
    result.status = .failed ∧ result.failedStep = some (index : Int) ∧
      result.error = some reason.message ∧ result.errorType = some reason.kind
  /-- If the step was the last one and did its work, the run is complete. -/
  completed : failure = none → index + 1 = total →
    result.status = .completed ∧ result.failedStep = none
  /-- If the step did its work and there are more, enabled or not, the run was called off. -/
  cancelled : failure = none → index + 1 < total →
    result.status = .cancelled ∧ result.failedStep = none ∧ result.error = some "cancelled"

namespace Run

/-! ## One step -/

/-- A step that is timed adds its result. -/
theorem results_advance_of_timed {index : Nat} {step : Step} {run : Run σ} {durationMs : Int}
    (h : elapsedMs (run.notify (.started index step)).controller.now
      (run.work index step).controller.now = .ok durationMs) :
    (run.advance index step).2.results =
      run.results ++ [(run.judge index step).result step durationMs] := by
  obtain ⟨completed, log, hsettle⟩ := settle_eq index step durationMs run
  rw [advance_of_timed h, results_notify, hsettle]

/-- A step behind which the loop goes on adds a result. -/
theorem length_results_of_take {title : String} {index : Nat} {step : Step} {run after : Run σ}
    (h : run.take title index step = (none, after)) :
    after.results.length = run.results.length + 1 := by
  unfold take at h
  split at h
  · cases h
  · split at h
    · obtain rfl := (Prod.mk.inj h).2
      simp [skip, record, note]
    · cases htime : elapsedMs (run.notify (.started index step)).controller.now
          (run.work index step).controller.now with
      | error fault =>
        rw [advance_of_untimed htime] at h
        cases h
      | ok durationMs =>
        have hresults := results_advance_of_timed htime
        rw [h] at hresults
        rw [hresults, List.length_append, List.length_singleton]

/-- A step that has moments is enabled and performed. -/
theorem take_of_moments {index : Nat} {step : Step} {run : Run σ}
    (hmoments : run.takeMoments index step ≠ []) (title : String) :
    step.enabled = true ∧ run.take title index step = run.advance index step ∧
      run.takeMoments index step = run.advanceMoments index step := by
  unfold take takeMoments at *
  cases hasked : run.controller.cancelRequested with
  | true => simp [hasked] at hmoments
  | false =>
    cases henabled : step.enabled with
    | false => simp [henabled] at hmoments
    | true => simp

/-- A run finishes with a step behind which it takes no other. -/
theorem finishes_advance {index : Nat} {step : Step} {run : Run σ} {durationMs : Int}
    (henabled : step.enabled = true) (hreached : run.results.length = index)
    (htime : elapsedMs (run.notify (.started index step)).controller.now
      (run.work index step).controller.now = .ok durationMs) :
    run.Finishes index step durationMs (run.advanceMoments index step)
      (run.advance index step).2.results where
  enabled := henabled
  timed := htime
  moments := ⟨[], fun _ h => absurd h List.not_mem_nil, advanceMoments_of_timed htime⟩
  reached := hreached
  results := results_advance_of_timed htime

/-- The moments of an earlier step change nothing about the last one. -/
theorem Finishes.behind {before : Run σ} {index : Nat} {step : Step} {durationMs : Int}
    {moments earlier : List (Moment σ)} {results : List StepResult}
    (h : before.Finishes index step durationMs moments results)
    (hearlier : ∀ moment ∈ earlier, moment.index < index) :
    before.Finishes index step durationMs (earlier ++ moments) results where
  enabled := h.enabled
  timed := h.timed
  moments := by
    obtain ⟨others, hothers, hmoments⟩ := h.moments
    refine ⟨earlier ++ others, ?_, by rw [hmoments, List.append_assoc]⟩
    intro moment hmoment
    rcases List.mem_append.mp hmoment with hmoment | hmoment
    · exact hearlier moment hmoment
    · exact hothers moment hmoment
  reached := h.reached
  results := h.results

/-! ## All steps -/

/-- **Behind a request** the loop takes no step: it is complete if there is none, and called off if
there are any. -/
theorem loop_of_called_off {run : Run σ} (h : run.controller.cancelRequested = true)
    (title : String) (index : Nat) (steps : List Step) :
    moments title index steps run = [] ∧
      (loop title index steps run).1 = (if steps.isEmpty then .completed else .cancelled) ∧
      (loop title index steps run).2.results = run.results := by
  cases steps with
  | nil => exact ⟨rfl, rfl, rfl⟩
  | cons step rest =>
    have htake : run.take title index step =
        (some .cancelled,
          run.note (.info s!"Automation '{title}' cancelled before step {index}")) := by
      rw [take, if_pos h]
    rw [loop_cons, moments, htake, takeMoments, h]
    exact ⟨rfl, rfl, rfl⟩

/-- **The loop finishes with its first step** if it is called off there. -/
theorem finishes_of_calledOff {title : String} {index : Nat} {step : Step} {rest : List Step}
    {run : Run σ} (hreached : run.results.length = index)
    (hcalled : (calledOffAt? (run.takeMoments index step)).isSome = true)
    (htimed : ∀ fault, (loop title index (step :: rest) run).1 ≠ .aborted fault) :
    ∃ durationMs,
      run.Finishes index step durationMs (moments title index (step :: rest) run)
        (loop title index (step :: rest) run).2.results ∧
      (loop title index (step :: rest) run).1 =
        .behind index (run.judge index step).failure rest := by
  have hmoments : run.takeMoments index step ≠ [] := by
    intro hnone
    rw [hnone] at hcalled
    cases hcalled
  obtain ⟨henabled, htake, hsame⟩ := take_of_moments hmoments title
  -- whatever the step comes to, the run behind it has been called off
  have hrequest : (run.advance index step).2.controller.cancelRequested = true := by
    rw [(follows_advance index step run).cancelRequested, ← hsame, any_callsOff_eq, hcalled,
      Bool.or_true]
  cases htime : elapsedMs (run.notify (.started index step)).controller.now
      (run.work index step).controller.now with
  | error fault =>
    refine absurd ?_ (htimed fault)
    rw [loop_cons, htake, advance_of_untimed htime]
  | ok durationMs =>
    have hfinishes := finishes_advance henabled hreached htime
    have hending : (run.advance index step).1 =
        (run.judge index step).failure.map (Ending.failed index) := by
      rw [advance_of_timed htime]
    refine ⟨durationMs, ?_⟩
    -- a step that failed ends the loop; behind any other, the request does
    obtain ⟨ending, after, heq, hloop, hall⟩ | ⟨after, heq, hloop, hall⟩ :=
      loop_cases title index step rest run
    · rw [htake] at heq
      rw [heq] at hfinishes hending
      obtain ⟨failure, hfailure, rfl⟩ := Option.map_eq_some_iff.mp hending.symm
      rw [hloop, hall, hsame, hfailure]
      exact ⟨hfinishes, rfl⟩
    · rw [htake] at heq
      rw [heq] at hfinishes hending hrequest
      obtain ⟨hnothing, hends, hkept⟩ := loop_of_called_off hrequest title (index + 1) rest
      rw [hloop, hall, hsame, hnothing, List.append_nil, hkept, hends,
        Option.map_eq_none_iff.mp hending.symm]
      exact ⟨hfinishes, rfl⟩

/-- **The loop finishes with the step at which it is called off.** -/
theorem finishes_of_calledOffAt {title : String} {index called : Nat} {steps : List Step}
    {run : Run σ} (hreached : run.results.length = index)
    (hcalled : calledOffAt? (moments title index steps run) = some called)
    (htimed : ∀ fault, (loop title index steps run).1 ≠ .aborted fault) :
    ∃ earlier step rest, ∃ before : Run σ, ∃ durationMs, steps = earlier ++ step :: rest ∧
      called = index + earlier.length ∧
      before.Finishes called step durationMs (moments title index steps run)
        (loop title index steps run).2.results ∧
      (loop title index steps run).1 = .behind called (before.judge called step).failure rest := by
  induction steps generalizing index run with
  | nil => cases hcalled
  | cons step rest ih =>
    have hstep := loop_cases title index step rest run
    cases hhere : calledOffAt? (run.takeMoments index step) with
    | some found =>
      -- the request comes during this step, whatever comes behind it
      have hfound : found = called := by
        obtain ⟨_, _, -, -, hall⟩ | ⟨_, -, -, hall⟩ := hstep
        · rw [hall, hhere] at hcalled
          exact Option.some.inj hcalled
        · rw [hall, calledOffAt?_append, hhere] at hcalled
          exact Option.some.inj hcalled
      have hindex : found = index := by
        obtain ⟨moment, hmoment, rfl⟩ := Option.map_eq_some_iff.mp hhere
        exact (mem_takeMoments (List.mem_of_find?_eq_some hmoment)).1
      subst hfound hindex
      obtain ⟨durationMs, hfinishes, hending⟩ :=
        finishes_of_calledOff hreached (by rw [hhere]; rfl) htimed
      exact ⟨[], step, rest, run, durationMs, rfl, rfl, hfinishes, hending⟩
    | none =>
      obtain ⟨_, _, -, -, hall⟩ | ⟨after, heq, hloop, hall⟩ := hstep
      · rw [hall, hhere] at hcalled
        cases hcalled
      · -- the request comes behind this step, whose moments are earlier ones
        rw [hall, calledOffAt?_append, hhere, Option.none_or] at hcalled
        rw [hloop] at htimed
        have hnext : after.results.length = index + 1 := by
          rw [length_results_of_take heq, hreached]
        obtain ⟨earlier, last, rest', before, durationMs, rfl, rfl, hfinishes, hending⟩ :=
          ih hnext hcalled htimed
        rw [hloop, hall]
        refine ⟨step :: earlier, last, rest', before, durationMs, rfl, ?_, ?_, hending⟩
        · rw [List.length_cons]
          omega
        · refine hfinishes.behind fun moment hmoment => ?_
          rw [(mem_takeMoments hmoment).1]
          omega

/-- **What the result says of a run that was called off**, by how its last step failed, if it
did. -/
theorem conclude_endsBehind {run : Run σ} {startTime : Binary64} {index total : Nat}
    {failure : Option Failure} {rest : List Step} (htotal : total = index + 1 + rest.length)
    {result : RunResult}
    (h : run.conclude startTime total (.behind index failure rest) = .ok result) :
    result.stepResults = run.results ∧ result.EndsBehind index total failure := by
  cases failure with
  | some reason =>
    obtain ⟨executionTime, -, rfl⟩ := finish_eq_ok_iff.mp h
    refine ⟨rfl, ?_, fun hnone => ?_, fun hnone => ?_⟩
    · rintro _ ⟨rfl⟩
      exact ⟨rfl, rfl, rfl, rfl⟩
    · cases hnone
    · cases hnone
  | none =>
    cases rest with
    | nil =>
      obtain ⟨executionTime, -, rfl⟩ := finish_eq_ok_iff.mp h
      rw [List.length_nil] at htotal
      refine ⟨rfl, fun reason hsome => ?_, fun _ _ => ⟨rfl, rfl⟩, fun _ hlt => ?_⟩
      · cases hsome
      · omega
    | cons step others =>
      obtain ⟨executionTime, -, rfl⟩ := finish_eq_ok_iff.mp h
      rw [List.length_cons] at htotal
      refine ⟨rfl, fun reason hsome => ?_, fun _ hlast => ?_, fun _ _ => ⟨rfl, rfl, rfl⟩⟩
      · cases hsome
      · omega

end Run

namespace Controller

/-- **Calling a run off is safe.** Let a run return, whose requests and events are those of its
moments. If it was called off before it started, it has no moments and no entries, and ends as
called off, or fails for want of steps. If it is first called off during a step, it finishes with
that step, and ends as that step says. -/
theorem start_called_off {controller : Controller σ} {automation : Automation} {initial : Value}
    {result : RunResult} (h : (controller.start automation initial).result = .ok result) :
    ((controller.start automation initial).requests =
        (controller.moments automation initial).flatMap Moment.requests ∧
      (controller.start automation initial).events =
        (controller.moments automation initial).flatMap Moment.events) ∧
    (controller.cancelRequested = true →
      controller.moments automation initial = [] ∧ result.stepResults = [] ∧
      (controller.steps automation = [] → result.status = .failed ∧
        result.error = some "No compatible steps to execute in this environment") ∧
      (controller.steps automation ≠ [] → result.status = .cancelled ∧
        result.error = some "cancelled")) ∧
    ∀ index, calledOffAt? (controller.moments automation initial) = some index →
      ∃ step, ∃ before : Run σ, ∃ durationMs,
        (controller.steps automation)[index]? = some step ∧
        before.Finishes index step durationMs (controller.moments automation initial)
          result.stepResults ∧
        result.EndsBehind index (controller.steps automation).length
          (before.judge index step).failure := by
  refine ⟨start_trace controller automation initial, ?_⟩
  obtain ⟨hidle, store, hstore, hrun⟩ := start_eq_ok h
  rw [moments_of_readable hidle hstore]
  obtain ⟨hsteps, executionTime, rfl⟩ | ⟨hsteps, ending, after, hloop, hresult⟩ := hrun
  · rw [hsteps]
    refine ⟨fun _ => ⟨rfl, rfl, fun _ => ⟨rfl, rfl⟩, fun hne => absurd rfl hne⟩,
      fun index hcalled => ?_⟩
    cases hcalled
  · refine ⟨fun hasked => ?_, fun index hcalled => ?_⟩
    · -- the run starts as called off as the controller is
      have hlaunched : (controller.launch automation store).controller.cancelRequested = true :=
        hasked
      obtain ⟨hnothing, hends, hkept⟩ := Run.loop_of_called_off hlaunched
        automation.title.toText 0 (controller.steps automation)
      have hsome : (controller.steps automation).isEmpty = false := by
        rw [← Bool.not_eq_true, List.isEmpty_iff]
        exact hsteps
      rw [hloop, hsome] at hends
      rw [hloop] at hkept
      subst hends
      obtain ⟨executionTime, -, rfl⟩ := Run.finish_eq_ok_iff.mp hresult
      exact ⟨hnothing, hkept, fun hnone => absurd hnone hsteps, fun _ => ⟨rfl, rfl⟩⟩
    · have hreached : (controller.launch automation store).results.length = 0 := rfl
      have htimed : ∀ fault, (Run.loop automation.title.toText 0 (controller.steps automation)
          (controller.launch automation store)).1 ≠ .aborted fault := by
        rw [hloop]
        rintro fault rfl
        cases hresult
      obtain ⟨earlier, step, rest, before, durationMs, hsplit, hindex, hfinishes, hends⟩ :=
        Run.finishes_of_calledOffAt hreached hcalled htimed
      rw [Nat.zero_add] at hindex
      have htotal : (controller.steps automation).length = index + 1 + rest.length := by
        rw [hsplit, List.length_append, List.length_cons, hindex]
        omega
      have hstep : (controller.steps automation)[index]? = some step := by
        rw [hsplit, hindex]
        simp
      rw [hloop] at hfinishes hends
      subst hends
      obtain ⟨hentries, hend⟩ := Run.conclude_endsBehind htotal hresult
      rw [hentries]
      exact ⟨step, before, durationMs, hstep, hfinishes, hend⟩

/-- A controller whose listener calls the run off when the second step starts. -/
def impatient : Controller Simulation.World where
  registry := ⟨[("probe", Steps.scripted {})]⟩
  platform := ({} : Simulation.Scenario).platform
  world := {}
  listener := some fun
    | .started 1 _ => [.cancel]
    | _ => []

/-- Two steps that work, and two that are disabled. -/
def restDisabled : Automation where
  id := "tail"
  title := .text "Tail"
  steps := [{ id := "a", type := "probe" }, { id := "b", type := "probe" },
    { id := "c", type := "probe", enabled := false },
    { id := "d", type := "probe", enabled := false }]

/-- The run finishes its second step and is called off, though only disabled steps are left. -/
theorem start_called_off_impatient :
    ∃ result, (impatient.start restDisabled .null).result = .ok result ∧
      calledOffAt? (impatient.moments restDisabled .null) = some 1 ∧
      result.status = .cancelled ∧ result.stepResults.length = 2 ∧
      ∃ step, ∃ before : Run Simulation.World, ∃ durationMs, step.id = "b" ∧
        before.Finishes 1 step durationMs (impatient.moments restDisabled .null)
          result.stepResults ∧
        result.EndsBehind 1 4 (before.judge 1 step).failure := by
  obtain ⟨result, hresult, hview⟩ := exists_ok_of_map (impatient.start restDisabled .null).result
    (fun result => (result.status, result.stepResults.length)) (.cancelled, 2) (by decide +kernel)
  obtain ⟨hstatus, hlength⟩ := Prod.mk.inj hview
  have hcalled : calledOffAt? (impatient.moments restDisabled .null) = some 1 := by decide +kernel
  obtain ⟨-, -, hcalledOff⟩ := start_called_off hresult
  obtain ⟨step, before, durationMs, hstep, hfinishes, hends⟩ := hcalledOff 1 hcalled
  have hid : ((impatient.steps restDisabled)[1]?).map Step.id = some "b" := by decide +kernel
  rw [hstep] at hid
  exact ⟨result, hresult, hcalled, hstatus, hlength, step, before, durationMs,
    Option.some.inj hid, hfinishes, hends⟩

end Controller

end Stepwise
