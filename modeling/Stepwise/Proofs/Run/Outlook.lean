import Stepwise.Proofs.Run.Accounting
import Stepwise.Proofs.Run.Persistence

/-! # What is known of a run beforehand

Which steps of an automation an environment can run, and whether there is anything to do at all, is
known without running it (`compatible`, `incompatible`, `canExecute`). A run that is given the
capabilities of the environment bears all of it out (`Controller.Foreseen`): whether it dispatches
some step, how many steps it counts, whether it is refused for want of steps, and that it is
completed without doing anything if every step that it could run is disabled. The main statement is
`Controller.start_foreseen`.

A step is dispatched exactly if an enabled one is left (`Run.exists_mem_moments`); otherwise the
loop passes over all of them (`Run.loop_of_disabled`). -/

namespace Stepwise

variable {σ : Type}

/-! ## Steps put together by position -/

/-- Two lists put together by position: for each place it is given whether its item comes from the
first list. -/
def interleave {α : Type} : List Bool → List α → List α → List α
  | true :: places, item :: first, second => item :: interleave places first second
  | false :: places, first, item :: second => item :: interleave places first second
  | _, _, _ => []

/-- The items that have a property and those that do not, put together by position, are all of
them. -/
theorem interleave_filter {α : Type} (p : α → Bool) (items : List α) :
    interleave (items.map p) (items.filter p) (items.filter fun item => !p item) = items := by
  induction items with
  | nil => rfl
  | cons item rest ih =>
    cases hp : p item with
    | true =>
      rw [List.filter_cons_of_pos hp, List.filter_cons_of_neg (by rw [hp]; decide), List.map_cons,
        hp, interleave, ih]
    | false =>
      rw [List.filter_cons_of_neg (by rw [hp]; decide), List.filter_cons_of_pos (by rw [hp]; rfl),
        List.map_cons, hp, interleave, ih]

/-- No step can be run exactly if all of them cannot. -/
theorem incompatible_eq_iff (capabilities : List String) (steps : List Step) :
    incompatible capabilities steps = steps ↔ compatible capabilities steps = [] := by
  rw [incompatible, compatible, List.filter_eq_self, List.filter_eq_nil_iff]
  simp only [Bool.not_eq_true', Bool.not_eq_true]

/-- There is nothing to do exactly if every step that can be run is disabled. -/
theorem canExecute_eq_false_iff (capabilities : List String) (steps : List Step) :
    canExecute capabilities steps = false ↔
      ∀ step ∈ compatible capabilities steps, step.enabled = false := by
  rw [← Bool.not_eq_true, canExecute_iff]
  simp only [not_exists, not_and, Bool.not_eq_true]

/-! ## Runs that do nothing -/

/-- A finite number less itself is zero. -/
theorem Binary64.sub_self {x : Binary64} (h : x.isFinite = true) : x.sub x = .zero false := by
  cases x with
  | nan => cases h
  | infinite negative => cases h
  | finite negative mantissa exponent =>
    have hsum (n : Nat) : signed negative n + signed (!negative) n = 0 := by
      cases negative with
      | true => exact Int.add_left_neg _
      | false => exact Int.add_right_neg _
    dsimp only [sub, negate, add]
    rw [if_pos (hsum _), Bool.and_not_self]

/-- No time passes from one reading of the clock to the same one, if it is finite. -/
theorem elapsedMs_self {x : Binary64} (h : x.isFinite = true) : elapsedMs x x = .ok 0 := by
  have hround : (Binary64.mul (.zero false) (.roundRatio false 1000 1)).round? = some 0 := by
    decide +kernel
  dsimp only [elapsedMs]
  rw [Binary64.sub_self h, hround]

/-- The result of a step that is passed over. -/
def Step.passedOver (step : Step) : StepResult where
  stepId := step.id
  type := step.type
  success := true
  skipped := true

namespace Run

/-- **Disabled steps are passed over**, all of them: nothing is done but to record it, and nothing
happens meanwhile. -/
theorem loop_of_disabled (title : String) (index : Nat) {steps : List Step}
    (hdisabled : ∀ step ∈ steps, step.enabled = false) {run : Run σ}
    (hcancel : run.controller.cancelRequested = false) :
    (∃ log, loop title index steps run =
      (.completed, { run with results := run.results ++ steps.map Step.passedOver, log })) ∧
    moments title index steps run = [] := by
  induction steps generalizing index run with
  | nil => exact ⟨⟨run.log, by rw [List.map_nil, List.append_nil]; rfl⟩, rfl⟩
  | cons step rest ih =>
    obtain ⟨hstep, hrest⟩ := List.forall_mem_cons.mp hdisabled
    -- passing over the step leaves the run going, and has no moments
    have htake := take_of_disabled hstep hcancel title index
    have hskip : (run.skip index step).controller.cancelRequested = false := hcancel
    obtain ⟨⟨log, hloop⟩, hmoments⟩ := ih (index + 1) hrest hskip
    rw [loop_cons, moments, takeMoments, htake, hstep, Bool.not_false, Bool.or_true]
    refine ⟨⟨log, hloop.trans ?_⟩, hmoments⟩
    rw [List.map_cons, List.append_cons]
    rfl

/-- **An enabled step is dispatched**, and the listener is told before: the first one, unless the
run was called off. -/
theorem exists_mem_moments (title : String) (index : Nat) {steps : List Step}
    (henabled : ∃ step ∈ steps, step.enabled = true) {run : Run σ}
    (hcancel : run.controller.cancelRequested = false) :
    ∃ index' step told dispatched,
      .told (.started index' step) told ∈ moments title index steps run ∧
      .dispatched index' step dispatched ∈ moments title index steps run := by
  induction steps generalizing index run with
  | nil =>
    obtain ⟨step, hstep, -⟩ := henabled
    cases hstep
  | cons step rest ih =>
    cases hstep : step.enabled with
    | true =>
      -- the moments of this step begin with the two
      have htake : run.takeMoments index step = run.advanceMoments index step := by
        rw [takeMoments, hcancel, hstep]
        rfl
      refine ⟨index, step, run, run.notify (.started index step), ?_, ?_⟩
      · rw [moments, htake]
        exact List.mem_append_left _ (List.mem_cons_self ..)
      · rw [moments, htake]
        exact List.mem_append_left _ (List.mem_cons_of_mem _ (List.mem_cons_self ..))
    | false =>
      -- the step is passed over, so the enabled one is behind it
      have hrest : ∃ step ∈ rest, step.enabled = true := by
        obtain ⟨other, hother, henabled⟩ := henabled
        rcases List.mem_cons.mp hother with rfl | hbehind
        · rw [hstep] at henabled
          cases henabled
        · exact ⟨other, hbehind, henabled⟩
      have htake := take_of_disabled hstep hcancel title index
      have hskip : (run.skip index step).controller.cancelRequested = false := hcancel
      obtain ⟨index', step', told, dispatched, htold, hdispatched⟩ := ih (index + 1) hrest hskip
      rw [moments, htake]
      exact ⟨index', step', told, dispatched, List.mem_append_right _ htold,
        List.mem_append_right _ hdispatched⟩

end Run

/-! ## Whole runs -/

namespace Controller

/-- **What is known of a run beforehand**, by the capabilities it is given and the steps of its
automation. Its variables start as `store`; `moments` and `outcome` are what came of it. -/
structure Foreseen (capabilities : List String) (steps : List Step) (store : Store)
    (moments : List (Moment σ)) (outcome : StartOutcome σ) : Prop where
  /-- Some step is dispatched exactly if there is something to do. -/
  dispatches : (∃ index step run, .dispatched index step run ∈ moments) ↔
    canExecute capabilities steps = true
  /-- The listener is told that a step starts exactly if there is something to do. -/
  starts : (∃ index stepId running, .started index stepId running ∈ outcome.events) ↔
    canExecute capabilities steps = true
  /-- The steps that the run counts are all but those that cannot be run. -/
  total result : outcome.result = .ok result →
    result.totalSteps + (incompatible capabilities steps).length = steps.length
  /-- The run is refused for want of steps exactly if no step can be run. -/
  refuses : (∃ result, outcome.result = .ok result ∧
      result.error = some "No compatible steps to execute in this environment" ∧
      result.stepResults = []) ↔
    incompatible capabilities steps = steps
  /-- If there is nothing to do but some step that can be run, the run is completed by passing over
  all of them, and does nothing else. -/
  passes : canExecute capabilities steps = false → compatible capabilities steps ≠ [] →
    ∃ result, outcome.result = .ok result ∧ result.status = .completed ∧
      result.stepResults = (compatible capabilities steps).map Step.passedOver ∧
      outcome.requests = [] ∧ outcome.controller.store = some store

variable {controller : Controller σ} {automation : Automation} {initial : Value} {store : Store}

/-- The steps of a run that is given its capabilities are those that they cover. -/
theorem steps_eq_compatible {capabilities : List String}
    (hcapabilities : controller.capabilities = some capabilities) (automation : Automation) :
    controller.steps automation = compatible capabilities automation.steps := by
  rw [steps, accepted, hcapabilities]
  rfl

/-- A run without an enabled step has no moments. -/
theorem moments_eq_nil (hidle : controller.phase = .idle)
    (hcancel : controller.cancelRequested = false) (hstore : Store.ofValue initial = .ok store)
    (hnone : ¬ ∃ step ∈ controller.steps automation, step.enabled = true) :
    controller.moments automation initial = [] := by
  simp only [not_exists, not_and, Bool.not_eq_true] at hnone
  rw [moments_of_readable hidle hstore]
  exact (Run.loop_of_disabled _ _ hnone hcancel).2

/-- **A run dispatches some step** exactly if an enabled one is left. -/
theorem dispatches_iff (hidle : controller.phase = .idle)
    (hcancel : controller.cancelRequested = false) (hstore : Store.ofValue initial = .ok store) :
    (∃ index step run, .dispatched index step run ∈ controller.moments automation initial) ↔
      ∃ step ∈ controller.steps automation, step.enabled = true := by
  constructor
  · rintro ⟨index, step, run, hdispatched⟩
    by_contra hnone
    rw [moments_eq_nil hidle hcancel hstore hnone] at hdispatched
    cases hdispatched
  · intro henabled
    obtain ⟨index, step, told, dispatched, -, hdispatched⟩ :=
      Run.exists_mem_moments automation.title.toText 0 henabled
        (show (controller.launch automation store).controller.cancelRequested = false from hcancel)
    rw [moments_of_readable hidle hstore]
    exact ⟨index, step, dispatched, hdispatched⟩

/-- **A listener is told that a step starts** exactly if an enabled one is left. -/
theorem starts_iff (hidle : controller.phase = .idle)
    (hcancel : controller.cancelRequested = false) (hstore : Store.ofValue initial = .ok store)
    {listener : Listener} (hlistener : controller.listener = some listener) :
    (∃ index stepId running,
        .started index stepId running ∈ (controller.start automation initial).events) ↔
      ∃ step ∈ controller.steps automation, step.enabled = true := by
  rw [(start_trace controller automation initial).2]
  constructor
  · rintro ⟨index, stepId, running, hstarted⟩
    by_contra hnone
    rw [moments_eq_nil hidle hcancel hstore hnone] at hstarted
    cases hstarted
  · intro henabled
    obtain ⟨index, step, told, dispatched, htold, -⟩ :=
      Run.exists_mem_moments automation.title.toText 0 henabled
        (show (controller.launch automation store).controller.cancelRequested = false from hcancel)
    rw [← moments_of_readable hidle hstore] at htold
    have hpersists : told.controller.listener = some listener :=
      (persists_of_mem_moments htold).listener.trans hlistener
    refine ⟨index, step.id, told.controller.isRunning, List.mem_flatMap.mpr ⟨_, htold, ?_⟩⟩
    rw [Moment.events, hpersists]
    exact List.mem_cons_self ..

/-- **Every result counts the steps** that the run could take. -/
theorem totalSteps_of_start {result : RunResult}
    (h : (controller.start automation initial).result = .ok result) :
    result.totalSteps = (controller.steps automation).length := by
  obtain ⟨-, store', -, ⟨hnone, executionTime, rfl⟩ | ⟨-, ending, after, -, hconclude⟩⟩ :=
    start_eq_ok h
  · rw [hnone]
    rfl
  · exact Run.totalSteps_of_conclude hconclude

/-- **A run is refused for want of steps** exactly if it has none. -/
theorem refused_iff (hidle : controller.phase = .idle) (hstore : Store.ofValue initial = .ok store)
    (hclock : controller.now.isFinite = true) :
    (∃ result, (controller.start automation initial).result = .ok result ∧
      result.error = some "No compatible steps to execute in this environment" ∧
      result.stepResults = []) ↔ controller.steps automation = [] := by
  constructor
  · rintro ⟨result, hresult, herror, hentries⟩
    obtain ⟨-, store', -, ⟨hsteps, -⟩ | ⟨hsteps, ending, after, hloop, hconclude⟩⟩ :=
      start_eq_ok hresult
    · exact hsteps
    · -- a run that took steps ends with another error, or with an entry of the step that failed
      have hlaunch : (controller.launch automation store').Accounted [] := ⟨.nil, nofun, rfl⟩
      have hshown := hlaunch.loop automation.title.toText (controller.steps automation)
      rw [List.length_nil, List.nil_append, hloop] at hshown
      have haccounts := Run.conclude_accounts hshown hsteps hconclude
      cases hstatus : result.status with
      | completed =>
        rw [haccounts.error_iff.mp hstatus] at herror
        cases herror
      | failed =>
        obtain ⟨hnone, -⟩ | ⟨earlier, last, hlast, -⟩ := haccounts.failed hstatus
        · exact hnone
        · rw [hentries] at hlast
          exact absurd hlast.symm (List.append_ne_nil_of_right_ne_nil _ (List.cons_ne_nil _ _))
      | cancelled =>
        obtain ⟨-, -, hcancelled, -⟩ := haccounts.cancelled hstatus
        rw [hcancelled] at herror
        exact absurd (Option.some.inj herror) (by decide)
  · intro hsteps
    obtain ⟨run, hresults, hresult, -, hnow, -⟩ := start_of_no_steps hidle hstore hsteps
    have htime : elapsedMs controller.now run.controller.now = .ok 0 := by
      rw [hnow]
      exact elapsedMs_self hclock
    exact ⟨_, hresult.trans (Run.finish_eq_ok_iff.mpr ⟨0, htime, rfl⟩), rfl, hresults⟩

/-- **A run whose steps are disabled** is completed by passing over all of them. -/
theorem start_of_disabled (hidle : controller.phase = .idle)
    (hcancel : controller.cancelRequested = false) (hstore : Store.ofValue initial = .ok store)
    (hclock : controller.now.isFinite = true) (hsteps : controller.steps automation ≠ [])
    (hdisabled : ∀ step ∈ controller.steps automation, step.enabled = false) :
    ∃ result, (controller.start automation initial).result = .ok result ∧
      result.status = .completed ∧
      result.stepResults = (controller.steps automation).map Step.passedOver ∧
      (controller.start automation initial).requests = [] ∧
      (controller.start automation initial).controller.store = some store := by
  have hgoing : (controller.launch automation store).controller.cancelRequested = false := hcancel
  obtain ⟨⟨log, hloop⟩, -⟩ :=
    Run.loop_of_disabled automation.title.toText 0 hdisabled hgoing
  obtain ⟨hresult, hcontroller, hrequests, -⟩ := start_of_loop hidle hstore hsteps hloop
  refine ⟨_, hresult.trans (Run.finish_eq_ok_iff.mpr ⟨0, elapsedMs_self hclock, rfl⟩), rfl, rfl,
    hrequests, ?_⟩
  rw [hcontroller]
  rfl

/-- **The outlook of a run** that is given its capabilities and followed by a listener. If it was
not called off before and the clock gives a finite reading at its start, all that is known of it
beforehand is borne out; and the steps that can be run and those that cannot, put together by
position, are the steps of the automation. -/
theorem start_foreseen (hidle : controller.phase = .idle)
    (hcancel : controller.cancelRequested = false) {capabilities : List String}
    (hcapabilities : controller.capabilities = some capabilities) {listener : Listener}
    (hlistener : controller.listener = some listener) (hclock : controller.now.isFinite = true)
    (hstore : Store.ofValue initial = .ok store) :
    Foreseen capabilities automation.steps store (controller.moments automation initial)
        (controller.start automation initial) ∧
      interleave (automation.steps.map (·.isCompatible capabilities))
        (compatible capabilities automation.steps)
        (incompatible capabilities automation.steps) = automation.steps := by
  have hsteps := steps_eq_compatible hcapabilities automation
  refine ⟨?_, interleave_filter _ _⟩
  refine ⟨?_, ?_, ?_, ?_, ?_⟩
  · rw [canExecute_iff, ← hsteps]
    exact dispatches_iff hidle hcancel hstore
  · rw [canExecute_iff, ← hsteps]
    exact starts_iff hidle hcancel hstore hlistener
  · intro result hresult
    rw [totalSteps_of_start hresult, hsteps,
      ← length_compatible_add_incompatible capabilities automation.steps, Int.natCast_add]
  · rw [incompatible_eq_iff, ← hsteps]
    exact refused_iff hidle hstore hclock
  · intro hcannot hsome
    rw [canExecute_eq_false_iff, ← hsteps] at hcannot
    rw [← hsteps] at hsome ⊢
    exact start_of_disabled hidle hcancel hstore hclock hsome hcannot

/-- A controller that is given a step type of its own and followed by a listener that asks for
nothing, in a simulated world. -/
def attended : Controller Simulation.World where
  registry := ⟨[("probe", Steps.scripted {})]⟩
  platform := ({} : Simulation.Scenario).platform
  world := {}
  capabilities := some ["probe"]
  listener := some fun _ => []

/-- A step that is disabled, and one of a type that is not there. -/
def leftovers : Automation where
  id := "leftovers"
  title := .text "Leftovers"
  steps := [{ id := "a", type := "probe", enabled := false }, { id := "b", type := "sms" }]

/-- The step that is disabled is counted and passed over; nothing else happens. -/
theorem start_foreseen_leftovers :
    canExecute ["probe"] leftovers.steps = false ∧
      ∃ result, (attended.start leftovers .null).result = .ok result ∧
        result.status = .completed ∧ result.totalSteps = 1 ∧
        result.stepResults =
          [{ stepId := "a", type := "probe", success := true, skipped := true }] ∧
        (attended.start leftovers .null).requests = [] ∧
        (attended.start leftovers .null).controller.store = some {} ∧
        ¬ ∃ index stepId running,
          .started index stepId running ∈ (attended.start leftovers .null).events := by
  have hcannot : canExecute ["probe"] leftovers.steps = false := by decide
  have hstore : Store.ofValue .null = .ok {} := rfl
  obtain ⟨hforeseen, -⟩ : Foreseen ["probe"] leftovers.steps {} (attended.moments leftovers .null)
      (attended.start leftovers .null) ∧ _ :=
    start_foreseen rfl rfl rfl rfl (by decide +kernel) hstore
  obtain ⟨result, hresult, hstatus, hentries, hrequests, hleft⟩ :=
    hforeseen.passes hcannot (by decide)
  refine ⟨hcannot, result, hresult, hstatus, ?_, hentries, hrequests, hleft, ?_⟩
  · have htotal := hforeseen.total result hresult
    have hmissing : (incompatible ["probe"] leftovers.steps).length = 1 := by decide
    have hall : leftovers.steps.length = 2 := rfl
    omega
  · rw [hforeseen.starts, hcannot]
    decide

end Controller

end Stepwise
