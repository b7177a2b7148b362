import Stepwise.Run
import Stepwise.Proofs.Computations

/-! # The stages of a run

What each stage of a run can do, said once. A listener changes the registry, the request to stop,
the store, the events and the log, and nothing else (`obey_eq`). Performing a step
(`Run.advance_eq`) is told, worked and closed; a run as a whole (`start_of_loop`) is launched,
looped and concluded. -/

namespace Stepwise

variable {σ : Type}

/-- Calling a run off changes nothing of the controller but the request to stop. -/
theorem Controller.cancel_eq (controller : Controller σ) :
    ∃ accepted cancelRequested notes,
      controller.cancel = (accepted, { controller with cancelRequested }, notes) := by
  unfold cancel
  split
  · exact ⟨_, _, _, rfl⟩
  · exact ⟨_, _, _, rfl⟩

/-- The phase that an ending leaves a controller in. -/
def Ending.phase : Ending → Phase
  | .completed => .ended .completed
  | .cancelled => .ended .cancelled
  | .failed .. => .ended .failed
  | .aborted _ => .running

namespace Run

/-! ## The listener -/

/-- **What commands can change**: the registry, the request to stop, the store, the events and the
log. -/
theorem obey_eq (commands : List Command) (run : Run σ) :
    ∃ registry cancelRequested store events log,
      obey commands run =
        { run with
          controller := { run.controller with registry, cancelRequested }
          store, events, log } := by
  induction commands generalizing run with
  | nil => exact ⟨_, _, _, _, _, rfl⟩
  | cons command rest ih =>
    cases command with
    | cancel =>
      obtain ⟨accepted, cancelled, notes, hcancel⟩ := run.controller.cancel_eq
      rw [obey, hcancel]
      obtain ⟨registry, cancelRequested, store, events, log, h⟩ :=
        ih ({ run with
          controller := { run.controller with cancelRequested := cancelled }
          log := run.log ++ notes }.emit (.cancelled accepted))
      exact ⟨registry, cancelRequested, store, events, log, h⟩
    | assign name value =>
      obtain ⟨registry, cancelRequested, store, events, log, h⟩ :=
        ih { run with store := run.store.set name value }
      exact ⟨registry, cancelRequested, store, events, log, h⟩
    | unregister stepType =>
      obtain ⟨registry, cancelRequested, store, events, log, h⟩ :=
        ih { run with
          controller :=
            { run.controller with registry := run.controller.registry.unregister stepType } }
      exact ⟨registry, cancelRequested, store, events, log, h⟩
    | restart => exact ⟨_, _, _, _, _, rfl⟩
    | fail => exact ⟨_, _, _, _, _, rfl⟩

/-- **What a notice can change**: what the commands of the listener can. -/
theorem notify_eq (notice : Notice) (run : Run σ) :
    ∃ registry cancelRequested store events log,
      run.notify notice =
        { run with
          controller := { run.controller with registry, cancelRequested }
          store, events, log } := by
  unfold notify
  split
  · exact ⟨_, _, _, _, _, rfl⟩
  · exact obey_eq _ _

/-- A notice records no result. -/
@[simp] theorem results_notify (notice : Notice) (run : Run σ) :
    (run.notify notice).results = run.results := by
  obtain ⟨_, _, _, _, _, h⟩ := notify_eq notice run
  rw [h]

/-- A notice counts no step. -/
@[simp] theorem completed_notify (notice : Notice) (run : Run σ) :
    (run.notify notice).completed = run.completed := by
  obtain ⟨_, _, _, _, _, h⟩ := notify_eq notice run
  rw [h]

/-- A notice leaves the phase as it is. -/
@[simp] theorem phase_notify (notice : Notice) (run : Run σ) :
    (run.notify notice).controller.phase = run.controller.phase := by
  obtain ⟨_, _, _, _, _, h⟩ := notify_eq notice run
  rw [h]

/-! ## One step -/

/-- The verdict on the work of a step. -/
def judge (index : Nat) (step : Step) (run : Run σ) : Verdict :=
  verdict ((run.notify (.started index step)).perform step).1

/-- The run after the work of a step, before the step is closed. -/
def work (index : Nat) (step : Step) (run : Run σ) : Run σ :=
  let performed := ((run.notify (.started index step)).perform step).2
  if (run.judge index step).unexpected then
    performed.note (.error s!"Unexpected error in step {index}: {step.describe}")
  else performed

/-- **One step**: it is worked, timed and closed by its verdict. -/
theorem advance_eq (index : Nat) (step : Step) (run : Run σ) :
    run.advance index step =
      match elapsedMs (run.notify (.started index step)).controller.now
          (run.work index step).controller.now with
      | .error fault => (some (.aborted fault), run.work index step)
      | .ok durationMs =>
        match (run.judge index step).failure with
        | some failure =>
          (some (.failed index failure),
            (run.work index step).closeFailed index step (run.judge index step).output failure
              durationMs)
        | none =>
          (none,
            (run.work index step).closeCompleted index step (run.judge index step).output
              durationMs) :=
  rfl

/-- The work of a step records no result. -/
@[simp] theorem results_work (index : Nat) (step : Step) (run : Run σ) :
    (run.work index step).results = run.results := by
  have hperformed :
      ((run.notify (.started index step)).perform step).2.results = run.results :=
    results_notify _ run
  unfold work
  split
  · exact hperformed
  · exact hperformed

/-- The work of a step counts no step. -/
@[simp] theorem completed_work (index : Nat) (step : Step) (run : Run σ) :
    (run.work index step).completed = run.completed := by
  have hperformed :
      ((run.notify (.started index step)).perform step).2.completed = run.completed :=
    completed_notify _ run
  unfold work
  split
  · exact hperformed
  · exact hperformed

/-- Closing a failed step records its result. -/
@[simp] theorem results_closeFailed (index : Nat) (step : Step) (output : Fields)
    (failure : Failure) (durationMs : Int) (run : Run σ) :
    (run.closeFailed index step output failure durationMs).results =
      run.results ++ [{ stepId := step.id, type := step.type, success := false, durationMs, output,
                        error := some failure.message }] :=
  results_notify _ _

/-- Closing a failed step counts no step. -/
@[simp] theorem completed_closeFailed (index : Nat) (step : Step) (output : Fields)
    (failure : Failure) (durationMs : Int) (run : Run σ) :
    (run.closeFailed index step output failure durationMs).completed = run.completed :=
  completed_notify _ _

/-- Closing a step that did its work records its result. -/
@[simp] theorem results_closeCompleted (index : Nat) (step : Step) (output : Fields)
    (durationMs : Int) (run : Run σ) :
    (run.closeCompleted index step output durationMs).results =
      run.results ++
        [{ stepId := step.id, type := step.type, success := true, durationMs, output }] :=
  results_notify _ _

/-- Closing a step that did its work counts it. -/
@[simp] theorem completed_closeCompleted (index : Nat) (step : Step) (output : Fields)
    (durationMs : Int) (run : Run σ) :
    (run.closeCompleted index step output durationMs).completed = run.completed + 1 :=
  completed_notify _ _

/-- A step leaves the phase as it is. -/
@[simp] theorem phase_advance (index : Nat) (step : Step) (run : Run σ) :
    (run.advance index step).2.controller.phase = run.controller.phase := by
  have hwork : (run.work index step).controller.phase = run.controller.phase := by
    have htold : ((run.notify (.started index step)).perform step).2.controller.phase =
        run.controller.phase := phase_notify _ run
    unfold work
    split
    · exact htold
    · exact htold
  rw [advance_eq]
  split
  · exact hwork
  · split
    · exact (phase_notify _ _).trans hwork
    · exact (phase_notify _ _).trans hwork

/-- The ending of a step that was performed says that it failed or could not be timed. -/
theorem advance_ne_completed (index : Nat) (step : Step) (run : Run σ) :
    (run.advance index step).1 ≠ some .completed := by
  rw [advance_eq]
  split
  · simp
  · split <;> simp

/-! ## All steps -/

/-- Take one step of a list: see whether the run was called off, then pass the step over or perform
it. -/
def take (title : String) (index : Nat) (step : Step) (run : Run σ) : Option Ending × Run σ :=
  if run.controller.cancelRequested then
    (some .cancelled,
      run.note (.info s!"Automation '{title}' cancelled before step {index}"))
  else if !step.enabled then (none, run.skip index step)
  else run.advance index step

/-- A disabled step is passed over unless the run was called off. -/
theorem take_of_disabled {step : Step} (hdisabled : step.enabled = false) {run : Run σ}
    (hgoing : run.controller.cancelRequested = false) (title : String) (index : Nat) :
    run.take title index step = (none, run.skip index step) := by
  simp [take, hgoing, hdisabled]

/-- An enabled step is performed unless the run was called off. -/
theorem take_of_enabled {step : Step} (henabled : step.enabled = true) {run : Run σ}
    (hgoing : run.controller.cancelRequested = false) (title : String) (index : Nat) :
    run.take title index step = run.advance index step := by
  simp [take, hgoing, henabled]

/-- **The loop takes the steps one by one** until one of them ends the run. -/
theorem loop_cons (title : String) (index : Nat) (step : Step) (rest : List Step) (run : Run σ) :
    loop title index (step :: rest) run =
      match run.take title index step with
      | (some ending, after) => (ending, after)
      | (none, after) => loop title (index + 1) rest after := by
  rw [loop, take]
  split
  · rfl
  · split <;> rfl

/-- Taking one step completes no run. -/
theorem take_ne_completed (title : String) (index : Nat) (step : Step) (run : Run σ) :
    (run.take title index step).1 ≠ some .completed := by
  unfold take
  split
  · simp
  · split
    · simp
    · exact advance_ne_completed index step run

/-- Taking a step leaves the phase as it is. -/
@[simp] theorem phase_take (title : String) (index : Nat) (step : Step) (run : Run σ) :
    (run.take title index step).2.controller.phase = run.controller.phase := by
  unfold take
  split
  · rfl
  · split
    · rfl
    · exact phase_advance index step run

/-- The loop leaves the phase as it is: a run is under way until it is closed. -/
@[simp] theorem phase_loop (title : String) (index : Nat) (steps : List Step) (run : Run σ) :
    (loop title index steps run).2.controller.phase = run.controller.phase := by
  induction steps generalizing index run with
  | nil => rfl
  | cons step rest ih =>
    have htake := phase_take title index step run
    rw [loop_cons]
    split
    next ending after heq =>
      rw [heq] at htake
      exact htake
    next after heq =>
      rw [heq] at htake
      exact (ih (index + 1) after).trans htake

/-- **Steps behind a completed loop** are taken from where it ended; behind any other, they are
never reached. -/
theorem loop_append (title : String) (index : Nat) (first second : List Step) (run : Run σ) :
    ((loop title index first run).1 = .completed →
      loop title index (first ++ second) run =
        loop title (index + first.length) second (loop title index first run).2) ∧
    ((loop title index first run).1 ≠ .completed →
      loop title index (first ++ second) run = loop title index first run) := by
  induction first generalizing index run with
  | nil => exact ⟨fun _ => rfl, fun h => absurd rfl h⟩
  | cons step rest ih =>
    have hindex : index + (step :: rest).length = (index + 1) + rest.length := by
      rw [List.length_cons]
      omega
    have htake := take_ne_completed title index step run
    -- a loop that stops at this step is not completed, so only the first half speaks of going on
    rw [List.cons_append, loop_cons, loop_cons, hindex]
    split
    next ending after heq =>
      rw [heq] at htake
      exact ⟨fun h => absurd (congrArg some h) htake, fun _ => rfl⟩
    next after heq => exact ih (index + 1) after

/-! ## The end of a run -/

/-- The result of a run that ended in a certain way, unless the clock gives no finite duration. -/
def conclude (run : Run σ) (startTime : Binary64) (totalSteps : Nat) :
    Ending → Except Fault RunResult
  | .completed => run.finish startTime totalSteps .completed
  | .cancelled => run.finish startTime totalSteps .cancelled (some "cancelled")
  | .failed index failure =>
    run.finish startTime totalSteps .failed (some failure.message) (some index) (some failure.kind)
  | .aborted fault => .error fault

/-- The report of a run, once the time it took is known. -/
def report (run : Run σ) (executionTime : Int) (totalSteps : Nat) (status : Status)
    (error : Option String) (failedStep : Option Int) (errorType : Option String) : RunResult where
  success := status = .completed
  status := status
  executionTime := executionTime
  stepsCompleted := run.completed
  totalSteps := totalSteps
  timestamp := Timestamp.write (run.controller.platform.wallClock run.controller.world)
  error := error
  failedStep := failedStep
  errorType := errorType
  stepResults := run.results

/-- A run that ends has a result exactly if the clock gives a finite duration. -/
theorem finish_eq_ok_iff {run : Run σ} {startTime : Binary64} {totalSteps : Nat} {status : Status}
    {error : Option String} {failedStep : Option Int} {errorType : Option String}
    {result : RunResult} :
    run.finish startTime totalSteps status error failedStep errorType = .ok result ↔
      ∃ executionTime, elapsedMs startTime run.controller.now = .ok executionTime ∧
        result = run.report executionTime totalSteps status error failedStep errorType := by
  unfold finish
  rw [bind_eq_ok_iff]
  constructor
  · rintro ⟨executionTime, htime, h⟩
    exact ⟨executionTime, htime, (Except.ok.inj h).symm⟩
  · rintro ⟨executionTime, htime, rfl⟩
    exact ⟨executionTime, htime, rfl⟩

/-- **What every result says**: the time of the run, the phase it leaves its controller in, the
steps that did their work, and the entries. -/
theorem conclude_eq_ok {run : Run σ} {startTime : Binary64} {totalSteps : Nat} {ending : Ending}
    {result : RunResult} (h : run.conclude startTime totalSteps ending = .ok result) :
    elapsedMs startTime run.controller.now = .ok result.executionTime ∧
      ending.phase = .ended result.status ∧ result.stepsCompleted = run.completed ∧
      result.stepResults = run.results := by
  cases ending with
  | completed =>
    obtain ⟨_, htime, rfl⟩ := finish_eq_ok_iff.mp h
    exact ⟨htime, rfl, rfl, rfl⟩
  | cancelled =>
    obtain ⟨_, htime, rfl⟩ := finish_eq_ok_iff.mp h
    exact ⟨htime, rfl, rfl, rfl⟩
  | failed index failure =>
    obtain ⟨_, htime, rfl⟩ := finish_eq_ok_iff.mp h
    exact ⟨htime, rfl, rfl, rfl⟩
  | aborted fault => cases h

/-- Every result counts the steps in all. -/
theorem totalSteps_of_conclude {run : Run σ} {startTime : Binary64} {totalSteps : Nat}
    {ending : Ending} {result : RunResult}
    (h : run.conclude startTime totalSteps ending = .ok result) :
    result.totalSteps = totalSteps := by
  cases ending with
  | completed =>
    obtain ⟨_, -, rfl⟩ := finish_eq_ok_iff.mp h
    rfl
  | cancelled =>
    obtain ⟨_, -, rfl⟩ := finish_eq_ok_iff.mp h
    rfl
  | failed index failure =>
    obtain ⟨_, -, rfl⟩ := finish_eq_ok_iff.mp h
    rfl
  | aborted fault => cases h

/-- **Closing a run** makes no request, records no event and keeps the variables with the
controller. -/
theorem close_eq (title : String) (startTime : Binary64) (totalSteps : Nat) (ending : Ending)
    (run : Run σ) :
    ∃ log, close title startTime totalSteps (ending, run) =
      { result := run.conclude startTime totalSteps ending
        controller := { run.controller with phase := ending.phase, store := some run.store }
        requests := run.requests
        events := run.events
        log := log } := by
  cases ending with
  | completed =>
    simp only [close, conclude]
    split
    next result hresult => exact ⟨_, by rw [hresult]; rfl⟩
    next fault hresult => exact ⟨_, by rw [hresult]; rfl⟩
  | cancelled => exact ⟨_, rfl⟩
  | failed index failure => exact ⟨_, rfl⟩
  | aborted fault => exact ⟨_, rfl⟩

end Run

/-! ## The start of a run -/

namespace Controller

/-- The run at its start, before the first step. -/
def launch (controller : Controller σ) (automation : Automation) (store : Store) : Run σ where
  controller := { controller with phase := .running }
  store := store
  log := startNotes automation controller.accepted

/-- The steps of an automation that a controller accepts. -/
def steps (controller : Controller σ) (automation : Automation) : List Step :=
  compatible controller.accepted automation.steps

/-- A run without steps is closed as it is launched. -/
theorem start_eq_outcome {controller : Controller σ} (hidle : controller.phase = .idle)
    {automation : Automation} {initial : Value} {store : Store}
    (hstore : Store.ofValue initial = .ok store) (hsteps : controller.steps automation = []) :
    controller.start automation initial =
      let refused := (controller.launch automation store).note
        (.warning s!"Automation '{automation.title.toText}' has no compatible steps")
      refused.outcome (.ended .failed) (refused.finish controller.now 0 .failed
        (some "No compatible steps to execute in this environment")) := by
  have hempty : (compatible controller.accepted automation.steps).isEmpty = true :=
    List.isEmpty_iff.mpr hsteps
  unfold start
  rw [if_neg (fun hne => hne hidle), hstore]
  simp only [hempty]
  rfl

/-- A run with steps is closed as its loop ends. -/
theorem start_eq_close {controller : Controller σ} (hidle : controller.phase = .idle)
    {automation : Automation} {initial : Value} {store : Store}
    (hstore : Store.ofValue initial = .ok store) (hsteps : controller.steps automation ≠ []) :
    controller.start automation initial =
      Run.close automation.title.toText controller.now (controller.steps automation).length
        (Run.loop automation.title.toText 0 (controller.steps automation)
          (controller.launch automation store)) := by
  have hempty : (compatible controller.accepted automation.steps).isEmpty = false := by
    rw [← Bool.not_eq_true, List.isEmpty_iff]
    exact hsteps
  unfold start
  rw [if_neg (fun hne => hne hidle), hstore]
  simp only [hempty]
  rfl

/-- **A run with steps** is launched, looped and closed. -/
theorem start_of_loop {controller : Controller σ} (hidle : controller.phase = .idle)
    {automation : Automation} {initial : Value} {store : Store}
    (hstore : Store.ofValue initial = .ok store) (hsteps : controller.steps automation ≠ [])
    {ending : Ending} {after : Run σ}
    (hloop : Run.loop automation.title.toText 0 (controller.steps automation)
      (controller.launch automation store) = (ending, after)) :
    (controller.start automation initial).result =
        after.conclude controller.now (controller.steps automation).length ending ∧
      (controller.start automation initial).controller =
        { after.controller with phase := ending.phase, store := some after.store } ∧
      (controller.start automation initial).requests = after.requests ∧
      (controller.start automation initial).events = after.events := by
  obtain ⟨log, hclose⟩ := Run.close_eq automation.title.toText controller.now
    (controller.steps automation).length ending after
  rw [start_eq_close hidle hstore hsteps, hloop, hclose]
  exact ⟨rfl, rfl, rfl, rfl⟩

/-- **A run that returns** was launched from an idle controller with variables that can be read;
what it returns is the conclusion of its loop, or the refusal of an automation without steps. -/
theorem start_eq_ok {controller : Controller σ} {automation : Automation} {initial : Value}
    {result : RunResult} (h : (controller.start automation initial).result = .ok result) :
    controller.phase = .idle ∧ ∃ store, Store.ofValue initial = .ok store ∧
      (controller.steps automation = [] ∧
          (∃ executionTime, result =
            ((controller.launch automation store).note (.warning
              s!"Automation '{automation.title.toText}' has no compatible steps")).report
                executionTime 0 .failed
                (some "No compatible steps to execute in this environment") none none) ∨
        controller.steps automation ≠ [] ∧
          ∃ ending after,
            Run.loop automation.title.toText 0 (controller.steps automation)
              (controller.launch automation store) = (ending, after) ∧
            after.conclude controller.now (controller.steps automation).length ending =
              .ok result) := by
  by_cases hidle : controller.phase = .idle
  · cases hstore : Store.ofValue initial with
    | error fault =>
      unfold start at h
      rw [if_neg (fun hne => hne hidle), hstore] at h
      cases h
    | ok store =>
      refine ⟨hidle, store, rfl, ?_⟩
      by_cases hsteps : controller.steps automation = []
      · -- an automation without steps is refused by a result, not by a fault
        left
        rw [start_eq_outcome hidle hstore hsteps] at h
        obtain ⟨executionTime, -, hresult⟩ := Run.finish_eq_ok_iff.mp h
        exact ⟨hsteps, executionTime, hresult⟩
      · right
        obtain ⟨hresult, -⟩ := start_of_loop hidle hstore hsteps rfl
        exact ⟨hsteps, _, _, rfl, hresult.symm.trans h⟩
  · rw [start_of_not_idle hidle] at h
    cases h

end Controller

end Stepwise
