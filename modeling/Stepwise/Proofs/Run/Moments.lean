import Stepwise.Proofs.Run.Stages

/-! # The moments of a run

A run hands over to code that is not its own at certain *moments*: when the listener is told
something, and when a step is dispatched to its handler. `Controller.moments` lists them in order,
each with the run as it stands then.

The list leaves nothing out: the requests and the events of a run are those of its moments
(`Controller.start_trace`), so what is said of every moment is said of everything that a run does
outside itself. At each of them the run is under way (`Controller.phase_of_mem_moments`), and the
loop breaks off exactly if a step dispatched at one of them could not be timed
(`Run.exists_aborted_iff`). -/

namespace Stepwise

variable {σ : Type}

/-- **A moment at which a run hands over** to code that is not its own, with the run as it stands
then. -/
inductive Moment (σ : Type) where
  /-- The listener is told something. -/
  | told (notice : Notice) (run : Run σ)
  /-- A step is given to its handler. -/
  | dispatched (index : Nat) (step : Step) (run : Run σ)

/-! ## What happens at a moment -/

/-- The index of the step that a notice is about. -/
def Notice.index : Notice → Nat
  | started index _ => index
  | completed index _ => index
  | failed index _ => index

/-- The listener called the run off, and that was accepted. -/
def Event.isCalledOff : Event → Bool
  | cancelled accepted => accepted
  | _ => false

/-- What is recorded of commands, up to where the listener breaks. -/
def Command.events (accepted : Bool) : List Command → List Event
  | [] => []
  | cancel :: rest => .cancelled accepted :: events accepted rest
  | assign .. :: rest | unregister _ :: rest => events accepted rest
  | restart :: _ | fail :: _ => []

namespace Moment

/-- The run as it stands at a moment. -/
def run : Moment σ → Run σ
  | told _ run => run
  | dispatched _ _ run => run

/-- The index of the step that a moment is about. -/
def index : Moment σ → Nat
  | told notice _ => notice.index
  | dispatched index _ _ => index

/-- The requests made at a moment: those of the handler. -/
def requests : Moment σ → List Request
  | told .. => []
  | dispatched _ step run =>
    ((Run.dispatch run.controller step).run run.store run.controller.world).requests

/-- The events recorded at a moment: what the listener is told, and how it calls the run off. -/
def events : Moment σ → List Event
  | told notice run =>
    match run.controller.listener with
    | none => []
    | some listener =>
      notice.event run.controller.isRunning ::
        Command.events (!run.controller.phase.isTerminal) (listener notice)
  | dispatched .. => []

/-- Whether the run is called off at a moment. -/
def callsOff (moment : Moment σ) : Bool := moment.events.any Event.isCalledOff

end Moment

/-- The index of the step at which a run is first called off, if it is. -/
def calledOffAt? (moments : List (Moment σ)) : Option Nat :=
  (moments.find? Moment.callsOff).map Moment.index

/-- What comes behind the moment at which a run is first called off does not matter. -/
theorem calledOffAt?_append (earlier later : List (Moment σ)) :
    calledOffAt? (earlier ++ later) = (calledOffAt? earlier).or (calledOffAt? later) := by
  rw [calledOffAt?, List.find?_append, Option.map_or]
  rfl

/-- A run is called off at one of its moments exactly if there is a first such moment. -/
theorem any_callsOff_eq (moments : List (Moment σ)) :
    moments.any Moment.callsOff = (calledOffAt? moments).isSome := by
  rw [calledOffAt?, Option.isSome_map, Bool.eq_iff_iff, List.any_eq_true, List.find?_isSome]

/-- **Calling a run off** is accepted and noted until the run is over, and then changes nothing. -/
theorem Controller.cancel_spec (controller : Controller σ) :
    controller.cancel.1 = !controller.phase.isTerminal ∧
      controller.cancel.2.1 =
        { controller with
          cancelRequested := controller.cancelRequested || !controller.phase.isTerminal } := by
  refine ⟨controller.cancel_accepted, ?_⟩
  unfold cancel
  cases controller.phase.isTerminal with
  | true => simp
  | false => simp

namespace Run

/-! ## Telling the listener -/

/-- **What commands do** to the events and to the request to stop. -/
theorem obey_events (commands : List Command) (run : Run σ) :
    (obey commands run).events =
        run.events ++ Command.events (!run.controller.phase.isTerminal) commands ∧
      (obey commands run).controller.cancelRequested =
        (run.controller.cancelRequested ||
          (Command.events (!run.controller.phase.isTerminal) commands).any Event.isCalledOff) := by
  -- no command changes the phase, so every call to stop is answered like the first one
  induction commands generalizing run with
  | nil => simp [obey, Command.events]
  | cons command rest ih =>
    cases command with
    | cancel =>
      obtain ⟨haccepted, hcontroller⟩ := run.controller.cancel_spec
      obtain ⟨hevents, hcancelled⟩ := ih ({ run with
        controller := run.controller.cancel.2.1
        log := run.log ++ run.controller.cancel.2.2 }.emit (.cancelled run.controller.cancel.1))
      refine ⟨hevents.trans ?_, hcancelled.trans ?_⟩
      · simp [emit, hcontroller, haccepted, Command.events]
      · simp [emit, hcontroller, Command.events, Event.isCalledOff, Bool.or_assoc]
    | assign name value => exact ih { run with store := run.store.set name value }
    | unregister stepType =>
      exact ih { run with
        controller :=
          { run.controller with registry := run.controller.registry.unregister stepType } }
    | restart => simp [obey, Command.events, note]
    | fail => simp [obey, Command.events, note]

/-- **A notice** records the events of its moment and makes no request. -/
theorem notify_trace (notice : Notice) (run : Run σ) :
    (run.notify notice).events = run.events ++ (Moment.told notice run).events ∧
      (run.notify notice).requests = run.requests ∧
      (run.notify notice).controller.cancelRequested =
        (run.controller.cancelRequested || (Moment.told notice run).callsOff) := by
  have hrequests : (run.notify notice).requests = run.requests := by
    obtain ⟨_, _, _, _, _, h⟩ := notify_eq notice run
    rw [h]
  cases hlistener : run.controller.listener with
  | none =>
    have hsame : run.notify notice = run := by
      rw [notify, hlistener]
    rw [hsame]
    simp [Moment.callsOff, Moment.events, hlistener]
  | some listener =>
    have htold : run.notify notice =
        obey (listener notice) (run.emit (notice.event run.controller.isRunning)) := by
      rw [notify, hlistener]
    obtain ⟨hevents, hcancelled⟩ :=
      obey_events (listener notice) (run.emit (notice.event run.controller.isRunning))
    -- what the listener is told is not itself a way to call the run off
    have hnotice : (notice.event run.controller.isRunning).isCalledOff = false := by
      cases notice <;> rfl
    refine ⟨?_, hrequests, ?_⟩
    · rw [htold, hevents]
      simp [emit, Moment.events, hlistener]
    · rw [htold, hcancelled]
      simp [emit, Moment.callsOff, Moment.events, hlistener, hnotice]

end Run

/-! ## One step -/

namespace Verdict

/-- The result of a step by the verdict on its work. -/
def result (verdict : Verdict) (step : Step) (durationMs : Int) : StepResult where
  stepId := step.id
  type := step.type
  success := verdict.failure.isNone
  durationMs := durationMs
  output := verdict.output
  error := verdict.failure.map Failure.message

/-- What the listener is told when a step ends. -/
def notice (verdict : Verdict) (index : Nat) (result : StepResult) : Notice :=
  match verdict.failure with
  | some failure => .failed index failure.message
  | none => .completed index result

end Verdict

namespace Run

/-- The run once the result of a step is recorded, before the listener is told. -/
def settle (index : Nat) (step : Step) (durationMs : Int) (run : Run σ) : Run σ :=
  let worked := run.work index step
  let result := (run.judge index step).result step durationMs
  match (run.judge index step).failure with
  | some failure =>
    (worked.note (.warning s!"Step {index} failed: {step.describe}: {failure.message}")).record
      result
  | none =>
    ({ worked with completed := worked.completed + 1 }.record result).note
      (.info s!"Step {index} completed: {step.describe}")

/-- **A step that is timed** is settled, and the listener is told; the run ends if it failed. -/
theorem advance_of_timed {index : Nat} {step : Step} {run : Run σ} {durationMs : Int}
    (h : elapsedMs (run.notify (.started index step)).controller.now
      (run.work index step).controller.now = .ok durationMs) :
    run.advance index step =
      ((run.judge index step).failure.map (Ending.failed index),
        (run.settle index step durationMs).notify ((run.judge index step).notice index
          ((run.judge index step).result step durationMs))) := by
  rw [advance_eq, h, settle, Verdict.notice, Verdict.result]
  cases (run.judge index step).failure with
  | some failure => rfl
  | none => rfl

/-- A step that cannot be timed breaks the run off. -/
theorem advance_of_untimed {index : Nat} {step : Step} {run : Run σ} {fault : Fault}
    (h : elapsedMs (run.notify (.started index step)).controller.now
      (run.work index step).controller.now = .error fault) :
    run.advance index step = (some (.aborted fault), run.work index step) := by
  rw [advance_eq, h]

/-- What the work of a step comes to, but for the note on it. -/
theorem work_eq (index : Nat) (step : Step) (run : Run σ) :
    ∃ log, run.work index step =
      { ((run.notify (.started index step)).perform step).2 with log := log } := by
  unfold work
  split
  · exact ⟨_, rfl⟩
  · exact ⟨_, rfl⟩

/-- What is recorded when a step is settled, but for the count and the note on it. -/
theorem settle_eq (index : Nat) (step : Step) (durationMs : Int) (run : Run σ) :
    ∃ completed log, run.settle index step durationMs =
      { run.work index step with
        results := run.results ++ [(run.judge index step).result step durationMs]
        completed, log } := by
  rw [settle, ← results_work index step run]
  cases (run.judge index step).failure with
  | some failure => exact ⟨_, _, rfl⟩
  | none => exact ⟨_, _, rfl⟩

/-! ## The moments of a step -/

/-- The moments of an enabled step: the listener is told, the step is dispatched and, if it is
timed, the listener is told again. -/
def advanceMoments (index : Nat) (step : Step) (run : Run σ) : List (Moment σ) :=
  let told := run.notify (.started index step)
  .told (.started index step) run :: .dispatched index step told ::
    match elapsedMs told.controller.now (run.work index step).controller.now with
    | .ok durationMs =>
      let verdict := run.judge index step
      [.told (verdict.notice index (verdict.result step durationMs))
        (run.settle index step durationMs)]
    | .error _ => []

/-- The moments of a step that is timed end with its closing notice. -/
theorem advanceMoments_of_timed {index : Nat} {step : Step} {run : Run σ} {durationMs : Int}
    (h : elapsedMs (run.notify (.started index step)).controller.now
      (run.work index step).controller.now = .ok durationMs) :
    run.advanceMoments index step =
      [.told (.started index step) run,
        .dispatched index step (run.notify (.started index step))] ++
        [.told ((run.judge index step).notice index
            ((run.judge index step).result step durationMs))
          (run.settle index step durationMs)] := by
  simp only [advanceMoments, h, List.cons_append, List.nil_append]

/-- The moments of a step that cannot be timed end with its work. -/
theorem advanceMoments_of_untimed {index : Nat} {step : Step} {run : Run σ} {fault : Fault}
    (h : elapsedMs (run.notify (.started index step)).controller.now
      (run.work index step).controller.now = .error fault) :
    run.advanceMoments index step =
      [.told (.started index step) run,
        .dispatched index step (run.notify (.started index step))] := by
  simp only [advanceMoments, h]

/-- The moments of a step of a list: none if the run was called off or the step is disabled. -/
def takeMoments (index : Nat) (step : Step) (run : Run σ) : List (Moment σ) :=
  if run.controller.cancelRequested || !step.enabled then [] else run.advanceMoments index step

/-- **The moments of the loop**, in order. -/
def moments (title : String) : Nat → List Step → Run σ → List (Moment σ)
  | _, [], _ => []
  | index, step :: rest, run =>
    run.takeMoments index step ++
      match run.take title index step with
      | (some _, _) => []
      | (none, after) => moments title (index + 1) rest after

/-- **The loop at a step**: the step ends it, or it goes on behind the step. -/
theorem loop_cases (title : String) (index : Nat) (step : Step) (rest : List Step) (run : Run σ) :
    (∃ ending after, run.take title index step = (some ending, after) ∧
      loop title index (step :: rest) run = (ending, after) ∧
      moments title index (step :: rest) run = run.takeMoments index step) ∨
    ∃ after, run.take title index step = (none, after) ∧
      loop title index (step :: rest) run = loop title (index + 1) rest after ∧
      moments title index (step :: rest) run =
        run.takeMoments index step ++ moments title (index + 1) rest after := by
  rw [loop_cons, moments]
  cases run.take title index step with
  | mk ending? after =>
    cases ending? with
    | some ending => exact .inl ⟨ending, after, rfl, rfl, List.append_nil _⟩
    | none => exact .inr ⟨after, rfl, rfl, rfl⟩

/-- **A run goes on to another one** by way of some moments: their events and requests are recorded,
and the run is called off if it was before or is at one of them. -/
structure Follows (run : Run σ) (moments : List (Moment σ)) (after : Run σ) : Prop where
  /-- The events of the moments are recorded. -/
  events : after.events = run.events ++ moments.flatMap Moment.events
  /-- The requests of the moments are recorded. -/
  requests : after.requests = run.requests ++ moments.flatMap Moment.requests
  /-- The run is called off if it was before or is at one of the moments. -/
  cancelRequested : after.controller.cancelRequested =
    (run.controller.cancelRequested || moments.any Moment.callsOff)

namespace Follows

variable {run middle after : Run σ} {first second : List (Moment σ)}

/-- Nothing happens by way of no moments. -/
theorem refl (run : Run σ) : run.Follows [] run := ⟨by simp, by simp, by simp⟩

/-- First some moments, then others. -/
theorem trans (h : run.Follows first middle) (h' : middle.Follows second after) :
    run.Follows (first ++ second) after where
  events := by rw [h'.events, h.events, List.flatMap_append, List.append_assoc]
  requests := by rw [h'.requests, h.requests, List.flatMap_append, List.append_assoc]
  cancelRequested := by
    rw [h'.cancelRequested, h.cancelRequested, List.any_append, Bool.or_assoc]

/-- The listener is told. -/
theorem told (notice : Notice) (run : Run σ) :
    run.Follows [.told notice run] (run.notify notice) := by
  obtain ⟨hevents, hrequests, hcancelled⟩ := notify_trace notice run
  refine ⟨?_, ?_, ?_⟩
  · rw [hevents, List.flatMap_singleton]
  · rw [hrequests]
    simp [Moment.requests]
  · rw [hcancelled]
    simp

/-- A step is dispatched. -/
theorem dispatched (index : Nat) (step : Step) (run : Run σ) :
    run.Follows [.dispatched index step run] (run.perform step).2 := by
  refine ⟨?_, ?_, ?_⟩
  · simp [perform, Moment.events]
  · simp [perform, Moment.requests]
  · simp [perform, Moment.callsOff, Moment.events]

end Follows

/-- **An enabled step** goes by way of its moments. -/
theorem follows_advance (index : Nat) (step : Step) (run : Run σ) :
    run.Follows (run.advanceMoments index step) (run.advance index step).2 := by
  have hworked : run.Follows
      [.told (.started index step) run, .dispatched index step (run.notify (.started index step))]
      (run.work index step) := by
    obtain ⟨log, hwork⟩ := work_eq index step run
    have hperformed := (Follows.told (.started index step) run).trans
      (Follows.dispatched index step (run.notify (.started index step)))
    rw [hwork]
    exact ⟨hperformed.events, hperformed.requests, hperformed.cancelRequested⟩
  cases htime : elapsedMs (run.notify (.started index step)).controller.now
      (run.work index step).controller.now with
  | error fault =>
    rw [advance_of_untimed htime, advanceMoments_of_untimed htime]
    exact hworked
  | ok durationMs =>
    rw [advance_of_timed htime, advanceMoments_of_timed htime]
    -- settling the step adds its result and a note, which no moment speaks of
    have hsettled : run.Follows
        [.told (.started index step) run, .dispatched index step (run.notify (.started index step))]
        (run.settle index step durationMs) := by
      obtain ⟨completed, log, hsettle⟩ := settle_eq index step durationMs run
      rw [hsettle]
      exact ⟨hworked.events, hworked.requests, hworked.cancelRequested⟩
    exact hsettled.trans (Follows.told _ _)

/-- **A step of a list** goes by way of its moments. -/
theorem follows_take (title : String) (index : Nat) (step : Step) (run : Run σ) :
    run.Follows (run.takeMoments index step) (run.take title index step).2 := by
  unfold take takeMoments
  cases run.controller.cancelRequested with
  | true =>
    have hsame := Follows.refl run
    exact ⟨hsame.events, hsame.requests, hsame.cancelRequested⟩
  | false =>
    cases step.enabled with
    | false =>
      have hsame := Follows.refl run
      exact ⟨hsame.events, hsame.requests, hsame.cancelRequested⟩
    | true => exact follows_advance index step run

/-- **The loop** goes by way of its moments. -/
theorem follows_loop (title : String) (index : Nat) (steps : List Step) (run : Run σ) :
    run.Follows (moments title index steps run) (loop title index steps run).2 := by
  induction steps generalizing index run with
  | nil => exact Follows.refl run
  | cons step rest ih =>
    have htake := follows_take title index step run
    obtain ⟨ending, after, heq, hloop, hmoments⟩ | ⟨after, heq, hloop, hmoments⟩ :=
      loop_cases title index step rest run
    · rw [hloop, hmoments]
      rw [heq] at htake
      exact htake
    · rw [hloop, hmoments]
      rw [heq] at htake
      exact htake.trans (ih (index + 1) after)

/-! ## What holds at every moment -/

/-- The moments of a step are about that step, and find the run in the same phase. -/
theorem mem_takeMoments {index : Nat} {step : Step} {run : Run σ} {moment : Moment σ}
    (h : moment ∈ run.takeMoments index step) :
    moment.index = index ∧ moment.run.controller.phase = run.controller.phase := by
  have htold : (run.notify (.started index step)).controller.phase = run.controller.phase :=
    phase_notify _ run
  have hopening : ∀ moment ∈ ([.told (.started index step) run,
      .dispatched index step (run.notify (.started index step))] : List (Moment σ)),
      moment.index = index ∧ moment.run.controller.phase = run.controller.phase := by
    intro moment hmoment
    rw [List.mem_cons, List.mem_singleton] at hmoment
    rcases hmoment with rfl | rfl
    · exact ⟨rfl, rfl⟩
    · exact ⟨rfl, htold⟩
  unfold takeMoments at h
  split at h
  · cases h
  · cases htime : elapsedMs (run.notify (.started index step)).controller.now
        (run.work index step).controller.now with
    | error fault =>
      rw [advanceMoments_of_untimed htime] at h
      exact hopening moment h
    | ok durationMs =>
      rw [advanceMoments_of_timed htime, List.mem_append, List.mem_singleton] at h
      rcases h with h | rfl
      · exact hopening moment h
      · refine ⟨?_, ?_⟩
        · show ((run.judge index step).notice index _).index = index
          unfold Verdict.notice
          split
          · rfl
          · rfl
        · obtain ⟨log, hwork⟩ := work_eq index step run
          obtain ⟨completed, log', hsettle⟩ := settle_eq index step durationMs run
          show (run.settle index step durationMs).controller.phase = run.controller.phase
          rw [hsettle, hwork]
          exact htold

/-- **The moments of the loop** are about its steps, and find the run in the same phase. -/
theorem mem_moments {title : String} {index : Nat} {steps : List Step} {run : Run σ}
    {moment : Moment σ} (h : moment ∈ moments title index steps run) :
    index ≤ moment.index ∧ moment.index < index + steps.length ∧
      moment.run.controller.phase = run.controller.phase := by
  induction steps generalizing index run with
  | nil => cases h
  | cons step rest ih =>
    have hphase := phase_take title index step run
    have hhere : moment ∈ run.takeMoments index step → index ≤ moment.index ∧
        moment.index < index + (step :: rest).length ∧
        moment.run.controller.phase = run.controller.phase := by
      intro htake
      obtain ⟨hindex, hsame⟩ := mem_takeMoments htake
      rw [hindex, List.length_cons]
      exact ⟨Nat.le_refl _, by omega, hsame⟩
    obtain ⟨ending, after, heq, -, hmoments⟩ | ⟨after, heq, -, hmoments⟩ :=
      loop_cases title index step rest run
    · rw [hmoments] at h
      exact hhere h
    · rw [hmoments, List.mem_append] at h
      rw [heq] at hphase
      rcases h with h | h
      · exact hhere h
      · obtain ⟨hle, hlt, hsame⟩ := ih h
        rw [List.length_cons]
        exact ⟨by omega, by omega, hsame.trans hphase⟩

end Run

/-! ## Whole runs -/

namespace Controller

/-- **The moments of a run**: none unless the controller is idle and the variables can be read. -/
def moments (controller : Controller σ) (automation : Automation) (initial : Value) :
    List (Moment σ) :=
  if controller.phase = .idle then
    match Store.ofValue initial with
    | .ok store =>
      Run.moments automation.title.toText 0 (controller.steps automation)
        (controller.launch automation store)
    | .error _ => []
  else []

variable {controller : Controller σ} {automation : Automation} {initial : Value}

/-- The moments of a run whose variables can be read are those of its loop. -/
theorem moments_of_readable (hidle : controller.phase = .idle) {store : Store}
    (hstore : Store.ofValue initial = .ok store) :
    controller.moments automation initial =
      Run.moments automation.title.toText 0 (controller.steps automation)
        (controller.launch automation store) := by
  rw [moments, if_pos hidle, hstore]

/-- A controller that was started before has no more moments. -/
theorem moments_of_not_idle (h : controller.phase ≠ .idle) :
    controller.moments automation initial = [] := by
  rw [moments, if_neg h]

/-- **A start with variables that cannot be read** is refused, but leaves the controller running. -/
theorem start_of_unreadable (hidle : controller.phase = .idle) {fault : Fault}
    (hstore : Store.ofValue initial = .error fault) :
    controller.start automation initial =
      { result := .error fault, controller := { controller with phase := .running } } := by
  unfold start
  rw [if_neg (fun hne => hne hidle), hstore]

/-- **An automation without steps** is refused by a result, unless the clock gives no finite
duration. -/
theorem start_of_no_steps (hidle : controller.phase = .idle) {store : Store}
    (hstore : Store.ofValue initial = .ok store) (hsteps : controller.steps automation = []) :
    ∃ run : Run σ, run.results = [] ∧
      (controller.start automation initial).result = run.finish controller.now 0 .failed
        (some "No compatible steps to execute in this environment") ∧
      (controller.start automation initial).controller =
        { controller with phase := .ended .failed, store := some store } ∧
      run.controller.now = controller.now ∧
      (controller.start automation initial).requests = [] ∧
      (controller.start automation initial).events = [] := by
  rw [start_eq_outcome hidle hstore hsteps]
  exact ⟨_, rfl, rfl, rfl, rfl, rfl, rfl⟩

/-- **A run does nothing outside its moments**: its requests and its events are theirs. -/
theorem start_trace (controller : Controller σ) (automation : Automation) (initial : Value) :
    (controller.start automation initial).requests =
        (controller.moments automation initial).flatMap Moment.requests ∧
      (controller.start automation initial).events =
        (controller.moments automation initial).flatMap Moment.events := by
  by_cases hidle : controller.phase = .idle
  · cases hstore : Store.ofValue initial with
    | error fault =>
      rw [start_of_unreadable hidle hstore, moments, if_pos hidle, hstore]
      exact ⟨rfl, rfl⟩
    | ok store =>
      rw [moments_of_readable hidle hstore]
      by_cases hsteps : controller.steps automation = []
      · obtain ⟨run, -, -, -, -, hrequests, hevents⟩ := start_of_no_steps hidle hstore hsteps
        rw [hsteps, hrequests, hevents]
        exact ⟨rfl, rfl⟩
      · obtain ⟨-, -, hrequests, hevents⟩ := start_of_loop hidle hstore hsteps rfl
        have hfollows := Run.follows_loop automation.title.toText 0 (controller.steps automation)
          (controller.launch automation store)
        exact ⟨hrequests.trans hfollows.requests, hevents.trans hfollows.events⟩
  · rw [start_of_not_idle hidle, moments_of_not_idle hidle]
    exact ⟨rfl, rfl⟩

/-- **At every moment the run is under way.** -/
theorem phase_of_mem_moments {moment : Moment σ}
    (h : moment ∈ controller.moments automation initial) :
    moment.run.controller.phase = .running := by
  unfold moments at h
  split at h
  · split at h
    · exact (Run.mem_moments h).2.2
    · cases h
  · cases h

end Controller

end Stepwise
