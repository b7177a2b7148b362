import Stepwise.Proofs.Run.Stages
import Stepwise.Simulation
import Stepwise.Steps.Scripted
import Mathlib.Data.List.Forall2

/-! # Accounting for every step

The result of a run accounts for the steps it could take: `RunResult.Accounts steps result` says
which entries there are, how they are counted, and how the status, the error and the index of the
failed step follow from them. Every result of `Controller.start` does so.

The invariant behind it is `Run.Accounted taken run`: the results recorded so far fit the steps
taken so far, one by one, all of them succeeded, and the counter is the number of those that did
their work. -/

namespace Stepwise

variable {σ : Type}

/-! ## What a result accounts for -/

/-- **A result fits its step**: it carries the id and the type of the step, and says that the step
was passed over exactly if the step is disabled. -/
structure StepResult.Fits (result : StepResult) (step : Step) : Prop where
  /-- The id of the step. -/
  stepId : result.stepId = step.id
  /-- The type of the step. -/
  type : result.type = step.type
  /-- The step was passed over if it is disabled. -/
  skipped : result.skipped = !step.enabled

/-- Whether a step did its work: it succeeded and was not passed over. -/
def StepResult.isDone (result : StepResult) : Bool := result.success && !result.skipped

/-- **A result accounts for the steps that a run could take.** -/
structure RunResult.Accounts (steps : List Step) (result : RunResult) : Prop where
  /-- Every step is counted in the total. -/
  totalSteps : result.totalSteps = steps.length
  /-- No more entries than steps. -/
  length_le : result.stepResults.length ≤ steps.length
  /-- Each entry is about the step at its index. -/
  entry : ∀ i, ∀ h : i < result.stepResults.length,
    ∃ step, steps[i]? = some step ∧ (result.stepResults[i]).stepId = step.id ∧
      (result.stepResults[i]).type = step.type ∧
      ((result.stepResults[i]).skipped = true ↔ step.enabled = false)
  /-- The counter is the number of steps that did their work. -/
  stepsCompleted : result.stepsCompleted =
    (result.stepResults.filter fun entry => entry.success && !entry.skipped).length
  /-- Success is the status `completed`. -/
  success_iff : result.success = true ↔ result.status = .completed
  /-- Only a completed run has no error. -/
  error_iff : result.status = .completed ↔ result.error = none
  /-- A completed run has a successful entry for each step, of which there is one at least. -/
  completed : result.status = .completed →
    1 ≤ steps.length ∧ result.stepResults.length = steps.length ∧
      (∀ entry ∈ result.stepResults, entry.success = true) ∧
      result.failedStep = none ∧ result.errorType = none
  /-- A failed run had no steps, or its last entry is the only one without success and says why. -/
  failed : result.status = .failed →
    (steps = [] ∧ result.stepResults = [] ∧
      result.error = some "No compatible steps to execute in this environment" ∧
      result.failedStep = none ∧ result.errorType = none) ∨
    ∃ earlier last, result.stepResults = earlier ++ [last] ∧
      result.failedStep = some (result.stepResults.length - 1 : Int) ∧
      last.success = false ∧ (∀ entry ∈ earlier, entry.success = true) ∧
      last.error = result.error ∧ result.errorType ≠ none
  /-- A run that was called off has successful entries only, and fewer than there are steps. -/
  cancelled : result.status = .cancelled →
    result.stepResults.length < steps.length ∧
      (∀ entry ∈ result.stepResults, entry.success = true) ∧
      result.error = some "cancelled" ∧ result.failedStep = none ∧ result.errorType = none

/-! ## The invariant -/

/-- **The steps taken so far are accounted for.** -/
structure Run.Accounted (taken : List Step) (run : Run σ) : Prop where
  /-- There is a fitting result for each step. -/
  fits : List.Forall₂ StepResult.Fits run.results taken
  /-- No step failed. -/
  success : ∀ result ∈ run.results, result.success = true
  /-- The steps that did their work are counted. -/
  completed : run.completed = run.results.countP StepResult.isDone

/-- **The step that failed is accounted for**, behind the steps taken before it. -/
structure Run.AccountedFailure (taken : List Step) (step : Step) (failure : Failure)
    (earlier : List StepResult) (last : StepResult) (run : Run σ) : Prop where
  /-- The results recorded before and the one of the step. -/
  results : run.results = earlier ++ [last]
  /-- There is a fitting result for each step. -/
  fits : List.Forall₂ StepResult.Fits run.results (taken ++ [step])
  /-- No step failed before. -/
  success : ∀ result ∈ earlier, result.success = true
  /-- The last step did not succeed. -/
  unsuccessful : last.success = false
  /-- The last result says why. -/
  error : last.error = some failure.message
  /-- The steps that did their work are counted. -/
  completed : run.completed = run.results.countP StepResult.isDone

/-- What the results of a run show of how it ended, `steps` being all that it could take. -/
def Ending.Shown (steps : List Step) (run : Run σ) : Ending → Prop
  | .completed => run.Accounted steps
  | .cancelled => ∃ taken rest, steps = taken ++ rest ∧ rest ≠ [] ∧ run.Accounted taken
  | .failed index failure =>
    ∃ taken step rest earlier last, steps = taken ++ step :: rest ∧ index = taken.length ∧
      run.AccountedFailure taken step failure earlier last
  | .aborted _ => True

namespace Run

/-! ## One step -/

/-- A step that was passed over is accounted for. -/
theorem Accounted.skip {taken : List Step} {run : Run σ} (h : run.Accounted taken) {step : Step}
    (hdisabled : step.enabled = false) (index : Nat) :
    (run.skip index step).Accounted (taken ++ [step]) := by
  set result : StepResult :=
    { stepId := step.id, type := step.type, success := true, skipped := true } with hresult
  have hresults : (run.skip index step).results = run.results ++ [result] := rfl
  refine ⟨?_, ?_, ?_⟩
  · rw [hresults]
    have hfits : result.Fits step := ⟨rfl, rfl, by rw [hdisabled]; rfl⟩
    exact List.rel_append h.fits (.cons hfits .nil)
  · intro entry hentry
    rw [hresults, List.mem_append, List.mem_singleton] at hentry
    rcases hentry with hentry | rfl
    · exact h.success entry hentry
    · rfl
  · have hcompleted : (run.skip index step).completed = run.completed := rfl
    rw [hresults, hcompleted, List.countP_append, h.completed]
    rfl

/-- A step that did its work is accounted for. -/
theorem Accounted.closeCompleted {taken : List Step} {run : Run σ} (h : run.Accounted taken)
    {step : Step} (henabled : step.enabled = true) (index : Nat) (output : Fields)
    (durationMs : Int) :
    (run.closeCompleted index step output durationMs).Accounted (taken ++ [step]) := by
  refine ⟨?_, ?_, ?_⟩
  · rw [results_closeCompleted]
    exact List.rel_append h.fits (.cons ⟨rfl, rfl, by rw [henabled]; rfl⟩ .nil)
  · intro entry hentry
    rw [results_closeCompleted, List.mem_append, List.mem_singleton] at hentry
    rcases hentry with hentry | rfl
    · exact h.success entry hentry
    · rfl
  · rw [completed_closeCompleted, results_closeCompleted, List.countP_append, h.completed]
    rfl

/-- A step that failed is accounted for. -/
theorem Accounted.closeFailed {taken : List Step} {run : Run σ} (h : run.Accounted taken)
    {step : Step} (henabled : step.enabled = true) (index : Nat) (output : Fields)
    (failure : Failure) (durationMs : Int) :
    (run.closeFailed index step output failure durationMs).AccountedFailure taken step failure
      run.results
      { stepId := step.id, type := step.type, success := false, durationMs, output,
        error := some failure.message } where
  results := results_closeFailed ..
  fits := by
    rw [results_closeFailed]
    exact List.rel_append h.fits (.cons ⟨rfl, rfl, by rw [henabled]; rfl⟩ .nil)
  success := h.success
  unsuccessful := rfl
  error := rfl
  completed := by
    rw [completed_closeFailed, results_closeFailed, List.countP_append, h.completed]
    rfl

/-- The work of a step leaves the accounts as they are. -/
theorem Accounted.work {taken : List Step} {run : Run σ} (h : run.Accounted taken) (index : Nat)
    (step : Step) : (run.work index step).Accounted taken := by
  refine ⟨?_, ?_, ?_⟩
  · rw [results_work]
    exact h.fits
  · rw [results_work]
    exact h.success
  · rw [completed_work, results_work]
    exact h.completed

/-- **One enabled step.** It fails and is accounted for, it does its work and is accounted for, or
the clock gives no finite duration. -/
theorem Accounted.advance {taken : List Step} {run : Run σ} (h : run.Accounted taken) {step : Step}
    (henabled : step.enabled = true) (index : Nat) :
    (∃ fault after, run.advance index step = (some (.aborted fault), after)) ∨
    (∃ failure earlier last after, run.advance index step = (some (.failed index failure), after) ∧
      after.AccountedFailure taken step failure earlier last) ∨
    ∃ after, run.advance index step = (none, after) ∧ after.Accounted (taken ++ [step]) := by
  have hwork := h.work index step
  rw [advance_eq]
  split
  · exact .inl ⟨_, _, rfl⟩
  · split
    · exact .inr (.inl ⟨_, _, _, _, rfl, hwork.closeFailed henabled ..⟩)
    · exact .inr (.inr ⟨_, rfl, hwork.closeCompleted henabled ..⟩)

/-- **Taking a step** ends the run and shows how, or leaves the step accounted for. -/
theorem Accounted.take {taken : List Step} {run : Run σ} (h : run.Accounted taken) (title : String)
    (step : Step) (rest : List Step) :
    (∃ ending after, run.take title taken.length step = (some ending, after) ∧
      ending.Shown (taken ++ step :: rest) after) ∨
    ∃ after, run.take title taken.length step = (none, after) ∧
      after.Accounted (taken ++ [step]) := by
  unfold Run.take
  split
  · exact .inl ⟨_, _, rfl, taken, step :: rest, rfl, List.cons_ne_nil _ _, h.fits, h.success,
      h.completed⟩
  · split
    next hdisabled => exact .inr ⟨_, rfl, h.skip (by simpa using hdisabled) _⟩
    next hdisabled =>
      have henabled : step.enabled = true := by simpa using hdisabled
      obtain ⟨fault, after, hadvance⟩ | ⟨failure, earlier, last, after, hadvance, hfailed⟩ |
        hafter := h.advance henabled taken.length
      · exact .inl ⟨_, _, hadvance, trivial⟩
      · exact .inl ⟨_, _, hadvance, taken, step, rest, earlier, last, rfl, rfl, hfailed⟩
      · exact .inr hafter

/-! ## All steps -/

/-- **The loop keeps the accounts**: however it ends, its results show it. -/
theorem Accounted.loop {taken : List Step} {run : Run σ} (h : run.Accounted taken) (title : String)
    (steps : List Step) :
    (loop title taken.length steps run).1.Shown (taken ++ steps)
      (loop title taken.length steps run).2 := by
  induction steps generalizing taken run with
  | nil =>
    rw [List.append_nil]
    exact h
  | cons step rest ih =>
    -- the induction hypothesis is about the steps taken once this one is among them
    have hlength : taken.length + 1 = (taken ++ [step]).length := by simp
    have happend : taken ++ step :: rest = (taken ++ [step]) ++ rest := by simp
    rw [loop_cons]
    obtain ⟨ending, after, htake, hshown⟩ | ⟨after, htake, hafter⟩ := h.take title step rest
    · rw [htake]
      exact hshown
    · rw [htake, hlength, happend]
      exact ih hafter

/-! ## The result -/

/-- Entries that fit steps are no more than the steps, and each is about the step at its index. -/
theorem entry_of_fits {results : List StepResult} {taken : List Step}
    (h : List.Forall₂ StepResult.Fits results taken) (rest : List Step) (i : Nat)
    (hi : i < results.length) :
    ∃ step, (taken ++ rest)[i]? = some step ∧ (results[i]).stepId = step.id ∧
      (results[i]).type = step.type ∧ ((results[i]).skipped = true ↔ step.enabled = false) := by
  have htaken : i < taken.length := h.length_eq ▸ hi
  have hfits : (results[i]).Fits (taken[i]) := h.get hi htaken
  refine ⟨taken[i], ?_, hfits.stepId, hfits.type, ?_⟩
  · rw [List.getElem?_append_left htaken, List.getElem?_eq_getElem htaken]
  · rw [hfits.skipped]
    simp

/-- The counter of a run is the number of entries of steps that did their work. -/
theorem stepsCompleted_eq {run : Run σ}
    (h : run.completed = run.results.countP StepResult.isDone) :
    (run.completed : Int) =
      (run.results.filter fun entry => entry.success && !entry.skipped).length := by
  rw [h, List.countP_eq_length_filter]
  rfl

/-- The report of a run that was completed. -/
theorem Accounted.report_completed {steps : List Step} {run : Run σ} (h : run.Accounted steps)
    (hsteps : steps ≠ []) (executionTime : Int) :
    (run.report executionTime steps.length .completed none none none).Accounts steps where
  totalSteps := rfl
  length_le := Nat.le_of_eq h.fits.length_eq
  entry := by
    intro i hi
    have hentry := entry_of_fits h.fits [] i hi
    rwa [List.append_nil] at hentry
  stepsCompleted := stepsCompleted_eq h.completed
  success_iff := by simp [report]
  error_iff := by simp [report]
  completed := by
    intro _
    have hpos : 1 ≤ steps.length := List.length_pos_iff.mpr hsteps
    exact ⟨hpos, h.fits.length_eq, h.success, rfl, rfl⟩
  failed := by simp [report]
  cancelled := by simp [report]

/-- The report of a run that was called off before the steps `rest`. -/
theorem Accounted.report_cancelled {taken rest : List Step} {run : Run σ} (h : run.Accounted taken)
    (hrest : rest ≠ []) (executionTime : Int) :
    (run.report executionTime (taken ++ rest).length .cancelled (some "cancelled") none
      none).Accounts (taken ++ rest) := by
  have hlength : run.results.length = taken.length := h.fits.length_eq
  have hpos : 0 < rest.length := List.length_pos_iff.mpr hrest
  have hlt : run.results.length < (taken ++ rest).length := by
    rw [List.length_append]
    omega
  exact {
    totalSteps := rfl
    length_le := Nat.le_of_lt hlt
    entry := entry_of_fits h.fits rest
    stepsCompleted := stepsCompleted_eq h.completed
    success_iff := by simp [report]
    error_iff := by simp [report]
    completed := by simp [report]
    failed := by simp [report]
    cancelled := fun _ => ⟨hlt, h.success, rfl, rfl, rfl⟩ }

/-- The report of a run that failed at `step`, before the steps `rest`. -/
theorem AccountedFailure.report_failed {taken rest : List Step} {step : Step} {failure : Failure}
    {earlier : List StepResult} {last : StepResult} {run : Run σ}
    (h : run.AccountedFailure taken step failure earlier last) (executionTime : Int) :
    (run.report executionTime (taken ++ step :: rest).length .failed (some failure.message)
      (some taken.length) (some failure.kind)).Accounts (taken ++ step :: rest) := by
  have hsplit : taken ++ step :: rest = (taken ++ [step]) ++ rest := by simp
  have hlength : run.results.length = taken.length + 1 := by
    rw [h.fits.length_eq, List.length_append]
    rfl
  -- the failed step is the last one taken, so its index is one less than the number of entries
  have hindex : some (taken.length : Int) = some (run.results.length - 1 : Int) := by
    rw [hlength]
    simp
  exact {
    totalSteps := rfl
    length_le := by
      show run.results.length ≤ (taken ++ step :: rest).length
      rw [List.length_append, List.length_cons]
      omega
    entry := by
      rw [hsplit]
      exact entry_of_fits h.fits rest
    stepsCompleted := stepsCompleted_eq h.completed
    success_iff := by simp [report]
    error_iff := by simp [report]
    completed := by simp [report]
    failed := fun _ => .inr ⟨earlier, last, h.results, hindex, h.unsuccessful, h.success, h.error,
      by simp [report]⟩
    cancelled := by simp [report] }

/-- The report of a run that had no steps. -/
theorem report_no_steps {run : Run σ} (hresults : run.results = []) (hcompleted : run.completed = 0)
    (executionTime : Int) :
    (run.report executionTime 0 .failed
      (some "No compatible steps to execute in this environment") none none).Accounts [] where
  totalSteps := rfl
  length_le := by simp [report, hresults]
  entry := by
    intro i hi
    simp [report, hresults] at hi
  stepsCompleted := by simp [report, hresults, hcompleted]
  success_iff := by simp [report]
  error_iff := by simp [report]
  completed := by simp [report]
  failed := fun _ => .inl ⟨rfl, hresults, rfl, rfl, rfl⟩
  cancelled := by simp [report]

/-- **The report of a run that ended accounts for its steps**, if its results show how it ended. -/
theorem conclude_accounts {steps : List Step} {run : Run σ} {ending : Ending}
    (hshown : ending.Shown steps run) (hsteps : steps ≠ []) {startTime : Binary64}
    {result : RunResult} (h : run.conclude startTime steps.length ending = .ok result) :
    result.Accounts steps := by
  cases ending with
  | completed =>
    obtain ⟨executionTime, -, rfl⟩ := finish_eq_ok_iff.mp h
    exact hshown.report_completed hsteps executionTime
  | cancelled =>
    obtain ⟨taken, rest, rfl, hrest, haccounted⟩ := hshown
    obtain ⟨executionTime, -, rfl⟩ := finish_eq_ok_iff.mp h
    exact haccounted.report_cancelled hrest executionTime
  | failed index failure =>
    obtain ⟨taken, step, rest, earlier, last, rfl, rfl, hfailed⟩ := hshown
    obtain ⟨executionTime, -, rfl⟩ := finish_eq_ok_iff.mp h
    exact hfailed.report_failed executionTime
  | aborted fault => cases h

end Run

namespace Controller

/-- **Every result accounts for the steps of its run**, whatever the handlers report or raise,
whatever the listener asks for and whenever the run is called off. -/
theorem start_accounts {controller : Controller σ} {automation : Automation} {initial : Value}
    {result : RunResult} (h : (controller.start automation initial).result = .ok result) :
    result.Accounts (controller.steps automation) := by
  obtain ⟨-, store, -, ⟨hsteps, executionTime, rfl⟩ | ⟨hsteps, ending, after, hloop, hresult⟩⟩ :=
    start_eq_ok h
  · rw [hsteps]
    exact Run.report_no_steps rfl rfl executionTime
  · have hlaunch : (controller.launch automation store).Accounted [] :=
      ⟨.nil, by simp [launch], rfl⟩
    have hshown := hlaunch.loop automation.title.toText (controller.steps automation)
    rw [List.length_nil, List.nil_append, hloop] at hshown
    exact Run.conclude_accounts hshown hsteps hresult

/-- A controller of steps that do nothing or break, in a simulated world. -/
def probing : Controller Simulation.World where
  registry := ⟨[("probe", Steps.scripted {}),
    ("broken", Steps.scripted { failure := some (.external "") })]⟩
  platform := ({} : Simulation.Scenario).platform
  world := {}

/-- A step that is disabled, one of a type that is not there, one that works, one that breaks with
an empty message and one behind it. -/
def probes : Automation where
  id := "probes"
  title := .text "Probes"
  steps := [{ id := "a", type := "probe", enabled := false }, { id := "b", type := "sms" },
    { id := "c", type := "probe" }, { id := "d", type := "broken" }, { id := "e", type := "probe" }]

/-- The run fails at the third of the four steps it can take, and accounts for it. -/
theorem start_accounts_probes :
    ∃ result, (probing.start probes .null).result = .ok result ∧ result.status = .failed ∧
      result.failedStep = some 2 ∧ result.stepsCompleted = 1 ∧
      result.Accounts (probing.steps probes) := by
  obtain ⟨result, hresult, hview⟩ := exists_ok_of_map
    (probing.start probes .null).result
    (fun result => (result.status, result.failedStep, result.stepsCompleted)) (.failed, some 2, 1)
    (by decide +kernel)
  obtain ⟨hfailed, hrest⟩ := Prod.mk.inj hview
  obtain ⟨hindex, hcount⟩ := Prod.mk.inj hrest
  exact ⟨result, hresult, hfailed, hindex, hcount, start_accounts hresult⟩

end Controller

end Stepwise
