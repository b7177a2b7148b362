import Stepwise.Proofs.Run.Stages
import Stepwise.Simulation
import Stepwise.Steps.Scripted
import Stepwise.Steps.Delay

/-! # Runs one after the other

Running the steps of two automations as one is running the first and, if it is completed, going on
with the second where the first left off; if the first fails, the second is never reached.

* **`Run.Resumes earlier n fresh joined`**: the simulation between a run that starts afresh and one
  that goes on behind `earlier`, with the steps numbered from `n` on. Each stage of a run keeps it
  (`Resumes.notify`, `Resumes.advance`), hence so does the loop (`Resumes.loop`).
* **`Controller.Halfway`**: where the joined run stands once the steps of the first automation are
  taken. `Run.loop_append` says how it goes on from there, and `Halfway.start_of_completed` and
  `Halfway.start_of_failed` what that makes of whole runs. -/

namespace Stepwise

variable {σ : Type}

/-! ## Numbering steps from a later index -/

/-- A notice in which the steps are numbered from `n` on. -/
def Notice.shift (n : Nat) : Notice → Notice
  | started index step => .started (n + index) step
  | completed index result => .completed (n + index) result
  | failed index message => .failed (n + index) message

/-- An event in which the steps are numbered from `n` on. -/
def Event.shift (n : Nat) : Event → Event
  | started index stepId running => .started (n + index) stepId running
  | completed index stepId success output => .completed (n + index) stepId success output
  | failed index message => .failed (n + index) message
  | cancelled accepted => .cancelled accepted

/-- An ending in which the steps are numbered from `n` on. -/
def Ending.shift (n : Nat) : Ending → Ending
  | failed index failure => .failed (n + index) failure
  | other => other

/-- A result behind an earlier run of `n` steps: the entries and the count of that run come first,
and the failed step is numbered from `n` on. The joined run has its own time and number of steps.
-/
def RunResult.behind (n : Nat) (entries : List StepResult) (stepsCompleted executionTime : Int)
    (totalSteps : Nat) (result : RunResult) : RunResult :=
  { result with
    executionTime := executionTime
    stepsCompleted := stepsCompleted + result.stepsCompleted
    totalSteps := totalSteps
    failedStep := result.failedStep.map ((n : Int) + ·)
    stepResults := entries ++ result.stepResults }

/-- The listener that answers as if the steps were numbered from `n` on. -/
def Listener.behind (n : Nat) (listener : Listener) : Listener :=
  fun notice => listener (notice.shift n)

@[simp] theorem Notice.shift_zero (notice : Notice) : notice.shift 0 = notice := by
  cases notice <;> simp [shift]

@[simp] theorem Event.shift_zero (event : Event) : event.shift 0 = event := by
  cases event <;> simp [shift]

@[simp] theorem Ending.shift_zero (ending : Ending) : ending.shift 0 = ending := by
  cases ending <;> simp [shift]

@[simp] theorem Listener.behind_zero (listener : Listener) : listener.behind 0 = listener := by
  funext notice
  rw [behind, Notice.shift_zero]

/-- The event of a notice is numbered as the notice is. -/
theorem Notice.event_shift (running : Bool) (n : Nat) (notice : Notice) :
    (notice.shift n).event running = (notice.event running).shift n := by
  cases notice <;> rfl

/-! ## The simulation -/

/-- **Two controllers drive alike**, the steps of the second one being numbered from `n` on. The
capabilities and the variables kept from an earlier run do not matter once a run is under way. -/
structure Controller.Drives (n : Nat) (fresh joined : Controller σ) : Prop where
  /-- The same handlers. -/
  registry : joined.registry = fresh.registry
  /-- The same environment. -/
  platform : joined.platform = fresh.platform
  /-- The same world. -/
  world : joined.world = fresh.world
  /-- The same settings. -/
  settings : joined.settings = fresh.settings
  /-- The same phase. -/
  phase : joined.phase = fresh.phase
  /-- Called off or not alike. -/
  cancelRequested : joined.cancelRequested = fresh.cancelRequested
  /-- The same listener, up to the numbers. -/
  listener : fresh.listener = joined.listener.map (Listener.behind n)

/-- **A run goes on behind an earlier one** as a fresh one does: the same variables, and what it
recorded is put behind what was recorded earlier. -/
structure Run.Resumes (earlier : Run σ) (n : Nat) (fresh joined : Run σ) : Prop where
  /-- The two are driven alike. -/
  controller : fresh.controller.Drives n joined.controller
  /-- The same variables. -/
  store : joined.store = fresh.store
  /-- The results follow the earlier ones. -/
  results : joined.results = earlier.results ++ fresh.results
  /-- The steps that did their work are counted on. -/
  completed : joined.completed = earlier.completed + fresh.completed
  /-- The requests follow the earlier ones. -/
  requests : joined.requests = earlier.requests ++ fresh.requests
  /-- The events follow the earlier ones. -/
  events : joined.events = earlier.events ++ fresh.events.map (Event.shift n)

namespace Controller.Drives

variable {n : Nat} {fresh joined : Controller σ}

/-- The clock shows the same. -/
theorem now (h : fresh.Drives n joined) : joined.now = fresh.now := by
  rw [Controller.now, Controller.now, h.platform, h.world]

/-- Both are under way or not. -/
theorem isRunning (h : fresh.Drives n joined) : joined.isRunning = fresh.isRunning := by
  rw [Controller.isRunning, Controller.isRunning, h.phase]

/-- The work of a step is the same. -/
theorem dispatch (h : fresh.Drives n joined) (step : Step) :
    Run.dispatch joined step = Run.dispatch fresh step := by
  unfold Run.dispatch
  rw [h.registry, h.platform, h.settings]

/-- Calling both off is accepted or refused alike, and leaves them driving alike. -/
theorem cancel (h : fresh.Drives n joined) :
    joined.cancel.1 = fresh.cancel.1 ∧ fresh.cancel.2.1.Drives n joined.cancel.2.1 := by
  have hterminal : joined.phase.isTerminal = fresh.phase.isTerminal := by rw [h.phase]
  unfold Controller.cancel
  rw [hterminal]
  split
  · exact ⟨rfl, h⟩
  · exact ⟨rfl, { h with cancelRequested := rfl }⟩

end Controller.Drives

namespace Run.Resumes

variable {earlier fresh joined : Run σ} {n : Nat}

/-- Notes do not matter. -/
theorem notes (h : Resumes earlier n fresh joined) (log log' : List Note) :
    Resumes earlier n { fresh with log := log } { joined with log := log' } :=
  { h with }

/-- A result recorded by both. -/
theorem record (h : Resumes earlier n fresh joined) (result : StepResult) :
    Resumes earlier n (fresh.record result) (joined.record result) :=
  { h with
    results := by
      show joined.results ++ [result] = earlier.results ++ (fresh.results ++ [result])
      rw [h.results, List.append_assoc] }

/-- An event recorded by both. -/
theorem emit (h : Resumes earlier n fresh joined) (event : Event) :
    Resumes earlier n (fresh.emit event) (joined.emit (event.shift n)) :=
  { h with
    events := by
      show joined.events ++ [event.shift n]
        = earlier.events ++ (fresh.events ++ [event]).map (Event.shift n)
      rw [h.events, List.map_append, List.append_assoc]
      rfl }

/-- Commands obeyed by both. -/
theorem obey (h : Resumes earlier n fresh joined) (commands : List Command) :
    Resumes earlier n (Run.obey commands fresh) (Run.obey commands joined) := by
  induction commands generalizing fresh joined with
  | nil => exact h
  | cons command rest ih =>
    cases command with
    | cancel =>
      obtain ⟨haccepted, hcontroller⟩ := h.controller.cancel
      have hcancelled : Resumes earlier n
          { fresh with
            controller := fresh.controller.cancel.2.1
            log := fresh.log ++ fresh.controller.cancel.2.2 }
          { joined with
            controller := joined.controller.cancel.2.1
            log := joined.log ++ joined.controller.cancel.2.2 } :=
        { h with controller := hcontroller }
      simp only [Run.obey, haccepted]
      exact ih (hcancelled.emit (.cancelled _))
    | assign name value =>
      have hstore : joined.store.set name value = fresh.store.set name value := by rw [h.store]
      exact ih { h with store := hstore }
    | unregister stepType =>
      have hregistry : joined.controller.registry.unregister stepType =
          fresh.controller.registry.unregister stepType := by
        rw [h.controller.registry]
      exact ih { h with controller := { h.controller with registry := hregistry } }
    | restart => exact h.notes _ _
    | fail => exact h.notes _ _

/-- A notice given to both. -/
theorem notify (h : Resumes earlier n fresh joined) (notice : Notice) :
    Resumes earlier n (fresh.notify notice) (joined.notify (notice.shift n)) := by
  unfold Run.notify
  rw [h.controller.listener]
  cases joined.controller.listener with
  | none => exact h
  | some listener =>
    have hevent : (notice.shift n).event joined.controller.isRunning =
        (notice.event fresh.controller.isRunning).shift n := by
      rw [Notice.event_shift, h.controller.isRunning]
    simp only [Option.map_some, hevent]
    exact (h.emit _).obey _

/-- The work of a step done by both: the outcomes are the same. -/
theorem perform (h : Resumes earlier n fresh joined) (step : Step) :
    (joined.perform step).1 = (fresh.perform step).1 ∧
      Resumes earlier n (fresh.perform step).2 (joined.perform step).2 := by
  -- an outcome depends on the handlers, the variables and the world only
  have hrun : (Run.dispatch joined.controller step).run joined.store joined.controller.world =
      (Run.dispatch fresh.controller step).run fresh.store fresh.controller.world := by
    rw [h.controller.dispatch, h.store, h.controller.world]
  refine ⟨congrArg Outcome.result hrun, ?_⟩
  exact { h with
    controller := { h.controller with world := congrArg Outcome.world hrun }
    store := congrArg Outcome.store hrun
    requests := by
      show joined.requests ++ _ = earlier.requests ++ (fresh.requests ++ _)
      rw [h.requests, List.append_assoc, congrArg Outcome.requests hrun] }

/-- A disabled step passed over by both. -/
theorem skip (h : Resumes earlier n fresh joined) (index : Nat) (step : Step) :
    Resumes earlier n (fresh.skip index step) (joined.skip (n + index) step) :=
  (h.notes _ _).record _

/-- A failed step closed by both. -/
theorem closeFailed (h : Resumes earlier n fresh joined) (index : Nat) (step : Step)
    (output : Fields) (failure : Failure) (durationMs : Int) :
    Resumes earlier n (fresh.closeFailed index step output failure durationMs)
      (joined.closeFailed (n + index) step output failure durationMs) :=
  ((h.notes _ _).record _).notify (.failed index failure.message)

/-- A completed step closed by both. -/
theorem closeCompleted (h : Resumes earlier n fresh joined) (index : Nat) (step : Step)
    (output : Fields) (durationMs : Int) :
    Resumes earlier n (fresh.closeCompleted index step output durationMs)
      (joined.closeCompleted (n + index) step output durationMs) := by
  have hcounted : Resumes earlier n { fresh with completed := fresh.completed + 1 }
      { joined with completed := joined.completed + 1 } :=
    { h with
      completed := by
        show joined.completed + 1 = earlier.completed + (fresh.completed + 1)
        rw [h.completed, Nat.add_assoc] }
  exact ((hcounted.record _).notes _ _).notify (.completed index _)

/-- The work of a step judged alike. -/
theorem judge (h : Resumes earlier n fresh joined) (index : Nat) (step : Step) :
    joined.judge (n + index) step = fresh.judge index step := by
  rw [Run.judge, Run.judge]
  exact congrArg verdict ((h.notify (.started index step)).perform step).1

/-- The work of a step done by both. -/
theorem work (h : Resumes earlier n fresh joined) (index : Nat) (step : Step) :
    Resumes earlier n (fresh.work index step) (joined.work (n + index) step) := by
  have hperformed := ((h.notify (.started index step)).perform step).2
  unfold Run.work
  rw [h.judge]
  split
  · exact hperformed.notes _ _
  · exact hperformed

/-- **An enabled step performed by both**: they end alike or go on alike. -/
theorem advance (h : Resumes earlier n fresh joined) (index : Nat) (step : Step) :
    (joined.advance (n + index) step).1 = (fresh.advance index step).1.map (Ending.shift n) ∧
      Resumes earlier n (fresh.advance index step).2 (joined.advance (n + index) step).2 := by
  have hwork := h.work index step
  have htold : (joined.notify (.started (n + index) step)).controller.now =
      (fresh.notify (.started index step)).controller.now :=
    (h.notify (.started index step)).controller.now
  rw [advance_eq, advance_eq, htold, hwork.controller.now, h.judge]
  cases elapsedMs (fresh.notify (.started index step)).controller.now
      (fresh.work index step).controller.now with
  | error fault => exact ⟨rfl, hwork⟩
  | ok durationMs =>
    cases (fresh.judge index step).failure with
    | some failure => exact ⟨rfl, hwork.closeFailed index step _ failure durationMs⟩
    | none => exact ⟨rfl, hwork.closeCompleted index step _ durationMs⟩

/-- **A step taken by both**: they end alike or go on alike. -/
theorem take (h : Resumes earlier n fresh joined) (title title' : String) (index : Nat)
    (step : Step) :
    (joined.take title' (n + index) step).1 = (fresh.take title index step).1.map (Ending.shift n) ∧
      Resumes earlier n (fresh.take title index step).2
        (joined.take title' (n + index) step).2 := by
  unfold Run.take
  rw [h.controller.cancelRequested]
  split
  · exact ⟨rfl, h.notes _ _⟩
  · split
    · exact ⟨rfl, h.skip index step⟩
    · exact h.advance index step

/-- **The loop run by both** ends alike and leaves one behind the other. -/
theorem loop (h : Resumes earlier n fresh joined) (title title' : String) (index : Nat)
    (steps : List Step) :
    (Run.loop title' (n + index) steps joined).1 = (Run.loop title index steps fresh).1.shift n ∧
      Resumes earlier n (Run.loop title index steps fresh).2
        (Run.loop title' (n + index) steps joined).2 := by
  induction steps generalizing fresh joined index with
  | nil => exact ⟨rfl, h⟩
  | cons step rest ih =>
    obtain ⟨hending, hafter⟩ := h.take title title' index step
    rw [loop_cons, loop_cons]
    revert hending hafter
    -- both loops look at what taking their own step came to
    generalize fresh.take title index step = freshTaken
    generalize joined.take title' (n + index) step = joinedTaken
    obtain ⟨freshEnding, freshAfter⟩ := freshTaken
    obtain ⟨joinedEnding, joinedAfter⟩ := joinedTaken
    intro hending hafter
    cases freshEnding with
    | some ending =>
      obtain rfl : joinedEnding = some (ending.shift n) := hending
      exact ⟨rfl, hafter⟩
    | none =>
      obtain rfl : joinedEnding = none := hending
      exact ih hafter (index + 1)

/-- **The results of the two**: the joined one has the entries and the count of the earlier run in
front, and names the failed step by its number in the joined list. -/
theorem conclude (h : Resumes earlier n fresh joined) {startTime startTime' : Binary64}
    {totalSteps : Nat} (totalSteps' : Nat) {ending : Ending} {result : RunResult}
    {executionTime : Int}
    (hresult : fresh.conclude startTime totalSteps ending = .ok result)
    (htime : elapsedMs startTime' joined.controller.now = .ok executionTime) :
    joined.conclude startTime' totalSteps' (ending.shift n) =
      .ok (result.behind n earlier.results earlier.completed executionTime totalSteps') := by
  -- whatever the ending, the two reports differ only in what the earlier run put in front
  have hreport : ∀ status error failedStep errorType ms,
      joined.report executionTime totalSteps' status error
          (failedStep.map ((n : Int) + ·)) errorType =
        (fresh.report ms totalSteps status error failedStep errorType).behind n earlier.results
          earlier.completed executionTime totalSteps' := by
    intro status error failedStep errorType ms
    rw [report, h.completed, h.results, h.controller.platform, h.controller.world, Int.natCast_add]
    rfl
  cases ending with
  | completed =>
    obtain ⟨ms, -, rfl⟩ := finish_eq_ok_iff.mp hresult
    exact finish_eq_ok_iff.mpr ⟨executionTime, htime, (hreport _ _ none _ ms).symm⟩
  | cancelled =>
    obtain ⟨ms, -, rfl⟩ := finish_eq_ok_iff.mp hresult
    exact finish_eq_ok_iff.mpr ⟨executionTime, htime, (hreport _ _ none _ ms).symm⟩
  | failed index failure =>
    obtain ⟨ms, -, rfl⟩ := finish_eq_ok_iff.mp hresult
    have hindex : some ((n + index : Nat) : Int) = (some (index : Int)).map ((n : Int) + ·) := by
      rw [Option.map_some, Int.natCast_add]
    refine finish_eq_ok_iff.mpr ⟨executionTime, htime, ?_⟩
    rw [hindex]
    exact (hreport _ _ (some (index : Int)) _ ms).symm
  | aborted fault => cases hresult

end Run.Resumes

/-! ## Whole runs -/

namespace Controller

/-- The controller that goes on where a run of `reached` steps ended: in the world, with the
handlers and with the request to stop that it left. It accepts the step types `accepted`, which a
run settles when it starts, and its listener counts on. -/
def resume (controller : Controller σ) (accepted : List String) (reached : Nat) : Controller σ :=
  { controller with
    phase := .idle
    store := none
    capabilities := some accepted
    listener := controller.listener.map (Listener.behind reached) }

/-- The steps of a joined automation are those of its parts. -/
theorem steps_append {controller : Controller σ} {first second whole : Automation}
    (hwhole : whole.steps = first.steps ++ second.steps) :
    controller.steps whole = controller.steps first ++ controller.steps second := by
  rw [steps, compatible, hwhole, List.filter_append]
  rfl

/-- Launching a joined automation is launching its first part, notes apart. -/
theorem resumes_launch (controller : Controller σ) (first whole : Automation) (store : Store) :
    (controller.launch first store).Resumes 0 (controller.launch first store)
      (controller.launch whole store) where
  controller :=
    { registry := rfl, platform := rfl, world := rfl, settings := rfl, phase := rfl
      cancelRequested := rfl
      listener := by
        have hid : Listener.behind 0 = id := funext Listener.behind_zero
        rw [hid, Option.map_id]
        rfl }
  store := rfl
  results := rfl
  completed := rfl
  requests := rfl
  events := rfl

/-- **Going on with a second automation** is what a joined run does behind the first one: `reached`
is the run that the first automation ended with, `left` the controller it left, and `joined` the
joined run there. -/
theorem resumes_resume {earlier reached joined : Run σ} {left : Controller σ} {phase : Phase}
    (h : earlier.Resumes 0 reached joined) (hphase : joined.controller.phase = .running)
    (hleft : left = { reached.controller with phase := phase, store := some reached.store })
    (accepted : List String) (n : Nat) (second : Automation) :
    joined.Resumes n ((left.resume accepted n).launch second reached.store) joined := by
  have hid : Listener.behind 0 = id := funext Listener.behind_zero
  have hlistener : left.listener = joined.controller.listener := by
    rw [hleft, h.controller.listener, hid, Option.map_id]
    rfl
  subst hleft
  exact {
    controller :=
      { registry := h.controller.registry, platform := h.controller.platform
        world := h.controller.world, settings := h.controller.settings, phase := hphase
        cancelRequested := h.controller.cancelRequested
        listener := congrArg (Option.map (Listener.behind n)) hlistener }
    store := h.store
    results := (List.append_nil _).symm
    completed := rfl
    requests := (List.append_nil _).symm
    events := (List.append_nil _).symm }

/-- **The joined run at the end of its first part**: it is where the run of the first part is, and
goes on with the second part if the first one is completed; else it ends there. -/
theorem loop_whole {controller : Controller σ} {first second whole : Automation} {store : Store}
    {ending : Ending} {reached : Run σ} (hwhole : whole.steps = first.steps ++ second.steps)
    (hloop : Run.loop first.title.toText 0 (controller.steps first)
      (controller.launch first store) = (ending, reached)) :
    ∃ joined, (controller.launch first store).Resumes 0 reached joined ∧
      joined.controller.phase = .running ∧
      (ending = .completed →
        Run.loop whole.title.toText 0 (controller.steps whole) (controller.launch whole store) =
          Run.loop whole.title.toText (controller.steps first).length (controller.steps second)
            joined) ∧
      (ending ≠ .completed →
        Run.loop whole.title.toText 0 (controller.steps whole) (controller.launch whole store) =
          (ending, joined)) := by
  obtain ⟨hending, hreached⟩ := (resumes_launch controller first whole store).loop
    first.title.toText whole.title.toText 0 (controller.steps first)
  obtain ⟨hcompleted, hstopped⟩ := Run.loop_append whole.title.toText 0 (controller.steps first)
    (controller.steps second) (controller.launch whole store)
  have hphase := Run.phase_loop whole.title.toText 0 (controller.steps first)
    (controller.launch whole store)
  rw [hloop] at hending hreached
  rw [Ending.shift_zero] at hending
  rw [← steps_append hwhole] at hcompleted hstopped
  rw [hending, Nat.zero_add] at hcompleted
  rw [hending] at hstopped
  refine ⟨_, hreached, hphase, hcompleted, fun hne => ?_⟩
  rw [hstopped hne]
  exact Prod.ext hending rfl

/-- **The joined run at the end of its first part.** The first automation, run alone, ended its loop
with `ending` in `reached`, had the outcome `before` and returned `result`; the joined run is at
`joined` there. -/
structure Halfway (controller : Controller σ) (first second whole : Automation) (store : Store)
    (before : StartOutcome σ) (result : RunResult) (ending : Ending) (reached joined : Run σ) :
    Prop where
  /-- The joined run is where the run of the first part is. -/
  resumes : (controller.launch first store).Resumes 0 reached joined
  /-- The joined run is under way. -/
  running : joined.controller.phase = .running
  /-- What the run of the first part left. -/
  left : before.controller =
    { reached.controller with phase := ending.phase, store := some reached.store }
  /-- The result of the first part says how its loop ended. -/
  phase : ending.phase = .ended result.status
  /-- The result of the first part is the conclusion of its loop. -/
  conclude : reached.conclude controller.now (controller.steps first).length ending = .ok result
  /-- The entries so far are those of the first part. -/
  results : joined.results = result.stepResults
  /-- The steps counted so far are those of the first part. -/
  completed : (joined.completed : Int) = result.stepsCompleted
  /-- The requests so far are those of the first part. -/
  requests : joined.requests = before.requests
  /-- The events so far are those of the first part. -/
  events : joined.events = before.events
  /-- The joined run goes on with the second part if the first one is completed. -/
  goes_on : ending = .completed →
    Run.loop whole.title.toText 0 (controller.steps whole) (controller.launch whole store) =
      Run.loop whole.title.toText (controller.steps first).length (controller.steps second) joined
  /-- Else it ends there. -/
  stops : ending ≠ .completed →
    Run.loop whole.title.toText 0 (controller.steps whole) (controller.launch whole store) =
      (ending, joined)

variable {controller : Controller σ} {first second whole : Automation} {initial : Value}
  {before : StartOutcome σ} {result₁ : RunResult}

/-- A run of the first part that returns brings the joined run to the end of its first part. -/
theorem halfway_of_ok (hwhole : whole.steps = first.steps ++ second.steps)
    (hfirst : controller.steps first ≠ []) (hbefore : controller.start first initial = before)
    (hresult₁ : before.result = .ok result₁) :
    controller.phase = .idle ∧ ∃ store, Store.ofValue initial = .ok store ∧
      ∃ ending reached joined,
        controller.Halfway first second whole store before result₁ ending reached joined := by
  obtain ⟨hidle, store, hstore, ⟨hnone, -⟩ | ⟨-, ending, reached, hloop, hconclude⟩⟩ :=
    start_eq_ok (hbefore ▸ hresult₁)
  · exact absurd hnone hfirst
  obtain ⟨-, hleft, hrequests, hevents⟩ := start_of_loop hidle hstore hfirst hloop
  rw [hbefore] at hleft hrequests hevents
  obtain ⟨joined, hresumes, hrunning, hgoes, hstops⟩ := loop_whole hwhole hloop
  obtain ⟨-, hphase, hcount, hentries⟩ := Run.conclude_eq_ok hconclude
  refine ⟨hidle, store, hstore, ending, reached, joined, ?_⟩
  -- nothing was recorded before the first step
  exact {
    resumes := hresumes, running := hrunning, left := hleft, phase := hphase
    conclude := hconclude, goes_on := hgoes, stops := hstops
    results := hresumes.results.trans hentries.symm
    requests := hresumes.requests.trans hrequests.symm
    completed := by
      rw [hresumes.completed, hcount]
      exact congrArg Nat.cast (Nat.zero_add _)
    events := by
      rw [hresumes.events, show Event.shift 0 = id from funext Event.shift_zero, List.map_id]
      exact hevents.symm }

/-- **Behind a completed first part**, the joined run does what a run of the second part does. -/
theorem Halfway.start_of_completed {store : Store} {ending : Ending} {reached joined : Run σ}
    (h : controller.Halfway first second whole store before result₁ ending reached joined)
    (hidle : controller.phase = .idle) (hstore : Store.ofValue initial = .ok store)
    (hwhole : controller.steps whole ≠ []) (hsecond : controller.steps second ≠ [])
    (hcompleted : result₁.status = .completed) {after : StartOutcome σ} {result₂ : RunResult}
    {executionTime : Int}
    (hafter :
      (before.controller.resume controller.accepted (controller.steps first).length).start second
        (.object reached.store.bindings) = after)
    (hresult₂ : after.result = .ok result₂)
    (htime : elapsedMs controller.now after.controller.now = .ok executionTime) :
    (controller.start whole initial).result =
      .ok (result₂.behind (controller.steps first).length result₁.stepResults
        result₁.stepsCompleted executionTime (controller.steps whole).length) ∧
    (controller.start whole initial).requests = before.requests ++ after.requests ∧
    (controller.start whole initial).events =
      before.events ++ after.events.map (Event.shift (controller.steps first).length) ∧
    (controller.start whole initial).controller.store = after.controller.store ∧
    (controller.start whole initial).controller.world = after.controller.world := by
  -- no other ending leaves the phase of a completed run
  have hending : ending = .completed := by
    have hphase := h.phase
    rw [hcompleted] at hphase
    cases ending with
    | completed => rfl
    | cancelled => cases hphase
    | failed index failure => cases hphase
    | aborted fault => cases hphase
  obtain ⟨hidle₂, store₂, hstore₂, ⟨hnone, -⟩ | ⟨-, ending₂, reached₂, hloop₂, hconclude₂⟩⟩ :=
    start_eq_ok (hafter ▸ hresult₂)
  · exact absurd hnone hsecond
  obtain ⟨-, hleft₂, hrequests₂, hevents₂⟩ := start_of_loop hidle₂ hstore₂ hsecond hloop₂
  rw [hafter] at hleft₂ hrequests₂ hevents₂
  -- the second run starts on the variables that the first one left
  obtain rfl : reached.store = store₂ := by
    rw [Store.ofValue, Value.toFields_object] at hstore₂
    exact Except.ok.inj hstore₂
  obtain ⟨hending₂, hreached₂⟩ := (resumes_resume h.resumes h.running h.left controller.accepted
    (controller.steps first).length second).loop second.title.toText whole.title.toText 0
    ((before.controller.resume controller.accepted (controller.steps first).length).steps second)
  rw [hloop₂] at hending₂ hreached₂
  obtain ⟨hresult, hcontroller, hrequests, hevents⟩ := start_of_loop hidle hstore hwhole
    ((h.goes_on hending).trans (Prod.ext hending₂ rfl))
  have hnow : (Run.loop whole.title.toText (controller.steps first).length
      (controller.steps second) joined).2.controller.now = after.controller.now := by
    rw [hleft₂]
    exact hreached₂.controller.now
  refine ⟨?_, ?_, ?_, ?_, ?_⟩
  · rw [hresult, ← h.completed, ← h.results]
    exact hreached₂.conclude _ hconclude₂ (hnow ▸ htime)
  · rw [hrequests, ← h.requests, hrequests₂]
    exact hreached₂.requests
  · rw [hevents, ← h.events, hevents₂]
    exact hreached₂.events
  · rw [hcontroller, hleft₂]
    exact congrArg some hreached₂.store
  · rw [hcontroller, hleft₂]
    exact hreached₂.controller.world

/-- **Behind a first part that failed**, the joined run does nothing more. -/
theorem Halfway.start_of_failed {store : Store} {ending : Ending} {reached joined : Run σ}
    (h : controller.Halfway first second whole store before result₁ ending reached joined)
    (hidle : controller.phase = .idle) (hstore : Store.ofValue initial = .ok store)
    (hwhole : controller.steps whole ≠ []) (hfailed : result₁.status = .failed) :
    (controller.start whole initial).result =
      .ok { result₁ with totalSteps := (controller.steps whole).length } ∧
    (controller.start whole initial).requests = before.requests ∧
    (controller.start whole initial).events = before.events ∧
    (controller.start whole initial).controller.store = before.controller.store ∧
    (controller.start whole initial).controller.world = before.controller.world := by
  have hending : ending ≠ .completed := by
    rintro rfl
    have hphase := h.phase
    rw [hfailed] at hphase
    cases hphase
  obtain ⟨hresult, hcontroller, hrequests, hevents⟩ :=
    start_of_loop hidle hstore hwhole (h.stops hending)
  obtain ⟨htime, -⟩ := Run.conclude_eq_ok h.conclude
  rw [← h.resumes.controller.now] at htime
  have hconclude := h.resumes.conclude (controller.steps whole).length h.conclude htime
  rw [Ending.shift_zero] at hconclude
  refine ⟨?_, hrequests.trans h.requests, hevents.trans h.events, ?_, ?_⟩
  · have hempty : (controller.launch first store).results = [] := rfl
    have hzero : (controller.launch first store).completed = 0 := rfl
    rw [hresult, hconclude, hempty, hzero]
    simp [RunResult.behind]
  · rw [hcontroller, h.left]
    exact congrArg some h.resumes.store
  · rw [hcontroller, h.left]
    exact h.resumes.controller.world

/-- **Runs compose, and stop where they fail.** Let the steps of `whole` be those of `first` and
then those of `second`, some of each being accepted, and let the run of `first` return a result.

If it is completed, the run of `whole` is the run of `first` followed by the run of `second` from
where that ended: entries, requests and events are joined, completed steps are added, a failed step
is numbered behind the steps of `first`, and all else is as the run of `second` has it. If it
failed, the run of `whole` is the run of `first`, save for the number of steps in all. -/
theorem start_append (hwhole : whole.steps = first.steps ++ second.steps)
    (hfirst : controller.steps first ≠ []) (hsecond : controller.steps second ≠ [])
    (hbefore : controller.start first initial = before) (hresult₁ : before.result = .ok result₁) :
    (result₁.status = .completed →
      ∃ store, before.controller.store = some store ∧
        ∀ (after : StartOutcome σ) (result₂ : RunResult) (executionTime : Int),
          (before.controller.resume controller.accepted (controller.steps first).length).start
            second (.object store.bindings) = after →
          after.result = .ok result₂ →
          elapsedMs controller.now after.controller.now = .ok executionTime →
          (controller.start whole initial).result =
            .ok (result₂.behind (controller.steps first).length result₁.stepResults
              result₁.stepsCompleted executionTime (controller.steps whole).length) ∧
          (controller.start whole initial).requests = before.requests ++ after.requests ∧
          (controller.start whole initial).events =
            before.events ++ after.events.map (Event.shift (controller.steps first).length) ∧
          (controller.start whole initial).controller.store = after.controller.store ∧
          (controller.start whole initial).controller.world = after.controller.world) ∧
    (result₁.status = .failed →
      (controller.start whole initial).result =
        .ok { result₁ with totalSteps := (controller.steps whole).length } ∧
      (controller.start whole initial).requests = before.requests ∧
      (controller.start whole initial).events = before.events ∧
      (controller.start whole initial).controller.store = before.controller.store ∧
      (controller.start whole initial).controller.world = before.controller.world) := by
  have hall : controller.steps whole ≠ [] := by
    rw [steps_append hwhole]
    exact List.append_ne_nil_of_left_ne_nil hfirst _
  obtain ⟨hidle, store, hstore, ending, reached, joined, hhalf⟩ :=
    halfway_of_ok hwhole hfirst hbefore hresult₁
  constructor
  · intro hcompleted
    refine ⟨reached.store, congrArg Controller.store hhalf.left, ?_⟩
    intro after result₂ executionTime hafter hresult₂ htime
    exact hhalf.start_of_completed hidle hstore hall hsecond hcompleted hafter hresult₂ htime
  · intro hfailed
    exact hhalf.start_of_failed hidle hstore hall hfailed

/-! ### Remembering and waiting -/

/-- A controller that can remember a count and wait, in a simulated world. -/
def remembering : Controller Simulation.World where
  registry := ⟨[("remember", Steps.scripted { assignments := [("count", .int 5)] }),
    ("delay", Steps.delay)]⟩
  platform := ({} : Simulation.Scenario).platform
  world := {}

/-- Remember, ask for what is not there, and wait. -/
def opening : Automation where
  id := "opening"
  title := .text "Opening"
  steps := [{ id := "a", type := "remember" }, { id := "b", type := "sms" },
    { id := "c", type := "delay", config := [("delay", .int 1500)] }]

/-- Pass a wait over, wait, and fail to wait. -/
def closing : Automation where
  id := "closing"
  title := .text "Closing"
  steps := [{ id := "d", type := "delay", enabled := false },
    { id := "e", type := "delay", config := [("delay", .int 500)] },
    { id := "f", type := "delay", config := [("delay", .bool true)] }]

/-- One after the other. -/
def openingClosing : Automation where
  id := "both"
  title := .text "Both"
  steps := opening.steps ++ closing.steps

/-- What going on with the second one comes to. -/
def goingOn : StartOutcome Simulation.World :=
  ((remembering.start opening .null).controller.resume remembering.accepted 2).start closing
    (.object ((remembering.start opening .null).controller.store.getD {}).bindings)

/-- The joined run waits two seconds in all and fails at the fifth step it can take. -/
theorem start_append_remembering :
    ∃ result, (remembering.start openingClosing .null).result = .ok result ∧
      result.status = .failed ∧ result.failedStep = some 4 ∧ result.stepsCompleted = 3 ∧
      result.executionTime = 2000 := by
  obtain ⟨result₁, hresult₁, hview₁⟩ := exists_ok_of_map
    (remembering.start opening .null).result
    (fun result => (result.status, result.stepsCompleted)) (.completed, 2) (by decide +kernel)
  obtain ⟨hcompleted₁, hcount₁⟩ := Prod.mk.inj hview₁
  obtain ⟨store, hstore, hjoin⟩ := (start_append
    (rfl : openingClosing.steps = opening.steps ++ closing.steps) (by decide) (by decide) rfl
    hresult₁).1 hcompleted₁
  obtain rfl : (remembering.start opening .null).controller.store.getD {} = store := by
    rw [hstore, Option.getD_some]
  obtain ⟨result₂, hresult₂, hview₂⟩ := exists_ok_of_map goingOn.result
    (fun result => (result.status, result.failedStep, result.stepsCompleted)) (.failed, some 2, 1)
    (by decide +kernel)
  obtain ⟨hfailed₂, hrest₂⟩ := Prod.mk.inj hview₂
  obtain ⟨hindex₂, hcount₂⟩ := Prod.mk.inj hrest₂
  obtain ⟨executionTime, htime, htwo⟩ := exists_ok_of_map
    (elapsedMs remembering.now goingOn.controller.now) id 2000 (by decide +kernel)
  obtain ⟨hresult, -⟩ := hjoin goingOn result₂ executionTime rfl hresult₂ htime
  refine ⟨_, hresult, hfailed₂, ?_, ?_, htwo⟩
  · rw [RunResult.behind, hindex₂]
    rfl
  · rw [RunResult.behind, hcount₁, hcount₂]
    rfl

end Controller

end Stepwise
