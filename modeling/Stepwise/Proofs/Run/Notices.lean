import Stepwise.Proofs.Run.Accounting
import Stepwise.Proofs.Run.Cancellation
import Stepwise.Proofs.Run.Persistence

/-! # What a listener is told

The notices that a listener receives can be read off the result of the run (`RunResult.notices`,
`Controller.start_tells`). Nothing is said of a step that was passed over. Of any other, the listener
is told that it starts, and then that it was performed, with its entry, or that it failed, with its
error. Whatever the listener asks for in between, and however often it breaks, it is told neither
more nor less.

Each step that a run takes adds one entry, and what is told at its moments is what that entry says
(`Run.take_tells`); the loop follows by induction (`Run.loop_tells`). -/

namespace Stepwise

variable {σ : Type}

/-! ## Notices read off a result -/

/-- **What an entry says that the listener was told** of its step. -/
def StepResult.notices (index : Nat) (step : Step) (entry : StepResult) : List Notice :=
  if entry.skipped then []
  else if entry.success then [.started index step, .completed index entry]
  else .started index step :: entry.error.toList.map (.failed index)

/-- What entries say that the listener was told of their steps, the first one having the given
index. -/
def noticesFrom : Nat → List Step → List StepResult → List Notice
  | index, step :: steps, entry :: entries =>
    entry.notices index step ++ noticesFrom (index + 1) steps entries
  | _, _, _ => []

/-- **What a result says that the listener was told**, `steps` being all that the run could take. -/
def RunResult.notices (steps : List Step) (result : RunResult) : List Notice :=
  noticesFrom 0 steps result.stepResults

/-- Whether a notice is about a step that failed. -/
def Notice.isFailed : Notice → Bool
  | failed .. => true
  | _ => false

@[simp] theorem noticesFrom_nil (index : Nat) (steps : List Step) :
    noticesFrom index steps [] = [] := by
  cases steps <;> rfl

/-- No failure is told of a step that succeeded. -/
theorem isFailed_of_success {index : Nat} {step : Step} {entry : StepResult}
    (h : entry.success = true) {notice : Notice} (hnotice : notice ∈ entry.notices index step) :
    notice.isFailed = false := by
  rw [StepResult.notices] at hnotice
  cases hskipped : entry.skipped with
  | true =>
    rw [if_pos hskipped] at hnotice
    cases hnotice
  | false =>
    rw [if_neg (by rw [hskipped]; exact Bool.false_ne_true), if_pos h, List.mem_cons,
      List.mem_singleton] at hnotice
    rcases hnotice with rfl | rfl <;> rfl

/-- All that is told of a step but the last is no failure. -/
theorem isFailed_of_mem_dropLast {index : Nat} {step : Step} {entry : StepResult} {notice : Notice}
    (hnotice : notice ∈ (entry.notices index step).dropLast) : notice.isFailed = false := by
  cases hsuccess : entry.success with
  | true => exact isFailed_of_success hsuccess (List.dropLast_subset _ hnotice)
  | false =>
    rw [StepResult.notices, hsuccess, if_neg Bool.false_ne_true] at hnotice
    split at hnotice
    · cases hnotice
    · -- only the notice of the start is told before the last one
      cases herror : entry.error with
      | none =>
        rw [herror] at hnotice
        cases hnotice
      | some message =>
        rw [herror] at hnotice
        rw [List.mem_singleton.mp hnotice]
        rfl

/-- **A failure is told last** if only the last entry may be one of a failure. -/
theorem isFailed_of_mem_dropLast_noticesFrom {index : Nat} {steps : List Step}
    {entries : List StepResult} (h : ∀ entry ∈ entries.dropLast, entry.success = true)
    {notice : Notice} (hnotice : notice ∈ (noticesFrom index steps entries).dropLast) :
    notice.isFailed = false := by
  induction entries generalizing index steps with
  | nil =>
    rw [noticesFrom_nil] at hnotice
    cases hnotice
  | cons entry rest ih =>
    cases steps with
    | nil => cases hnotice
    | cons step steps =>
      rw [noticesFrom] at hnotice
      cases rest with
      | nil =>
        rw [noticesFrom_nil, List.append_nil] at hnotice
        exact isFailed_of_mem_dropLast hnotice
      | cons next rest =>
        rw [List.dropLast_cons_of_ne_nil (List.cons_ne_nil _ _)] at h
        obtain ⟨hsuccess, hrest⟩ := List.forall_mem_cons.mp h
        rw [List.dropLast_append] at hnotice
        split at hnotice
        · exact isFailed_of_mem_dropLast hnotice
        · rcases List.mem_append.mp hnotice with hhere | hbehind
          · exact isFailed_of_success hsuccess hhere
          · exact ih hrest hbehind

/-! ## Notices given at moments -/

/-- The notice that the listener is given at a moment, if it is told something then. -/
def Moment.notice? : Moment σ → Option Notice
  | told notice _ => some notice
  | dispatched .. => none

/-- Whether an event is one of telling the listener something. -/
def Event.isNotice : Event → Bool
  | cancelled _ => false
  | _ => true

/-- Commands leave no events but those of calling the run off. -/
theorem Command.isNotice_of_mem_events {accepted : Bool} {commands : List Command} {event : Event}
    (h : event ∈ Command.events accepted commands) : event.isNotice = false := by
  induction commands with
  | nil => cases h
  | cons command rest ih =>
    cases command with
    | cancel =>
      rcases List.mem_cons.mp h with rfl | hrest
      · rfl
      · exact ih hrest
    | assign name value => exact ih h
    | unregister stepType => exact ih h
    | restart => cases h
    | fail => cases h

/-- **The events of a moment** hold the notice that is given then, while the run is under way. -/
theorem Moment.filter_events {moment : Moment σ} {listener : Listener}
    (hlistener : moment.run.controller.listener = some listener)
    (hphase : moment.run.controller.phase = .running) :
    moment.events.filter Event.isNotice = (moment.notice?.map (Notice.event true)).toList := by
  cases moment with
  | dispatched index step run => rfl
  | told notice run =>
    have hrunning : run.controller.isRunning = true := by
      rw [Controller.isRunning, show run.controller.phase = .running from hphase]
      rfl
    have hnotice : (notice.event true).isNotice = true := by
      cases notice <;> rfl
    have hcommands : (Command.events (!run.controller.phase.isTerminal)
        (listener notice)).filter Event.isNotice = [] := by
      rw [List.filter_eq_nil_iff]
      intro event hevent
      rw [Command.isNotice_of_mem_events hevent]
      exact Bool.false_ne_true
    rw [Moment.events, show run.controller.listener = some listener from hlistener]
    dsimp only
    rw [hrunning, List.filter_cons_of_pos hnotice, hcommands]
    rfl

namespace Run

/-! ## One step -/

/-- What is told when a step ends is what its entry says of it, behind the notice of its start. -/
theorem notices_result (verdict : Verdict) (index : Nat) (step : Step) (durationMs : Int) :
    (verdict.result step durationMs).notices index step =
      [.started index step, verdict.notice index (verdict.result step durationMs)] := by
  rw [StepResult.notices, Verdict.notice, Verdict.result]
  cases verdict.failure with
  | none => rfl
  | some failure => rfl

/-- **Taking a step** ends the run before the step if it was called off. Otherwise it adds an entry,
and what is told meanwhile is what the entry says. -/
theorem take_tells {title : String} {index : Nat} {step : Step} {run : Run σ}
    (htimed : ∀ fault, (run.take title index step).1 ≠ some (.aborted fault)) :
    ((run.take title index step).1 = some .cancelled ∧
      (run.take title index step).2.results = run.results ∧ run.takeMoments index step = []) ∨
    ∃ entry, (run.take title index step).2.results = run.results ++ [entry] ∧
      (run.takeMoments index step).filterMap Moment.notice? = entry.notices index step ∧
      entry.success = entry.error.isNone ∧
      ((run.take title index step).1 = none → entry.success = true) := by
  unfold take takeMoments at *
  cases hcalled : run.controller.cancelRequested with
  | true => exact .inl ⟨rfl, rfl, rfl⟩
  | false =>
    cases henabled : step.enabled with
    | false => exact .inr ⟨_, rfl, rfl, rfl, fun _ => rfl⟩
    | true =>
      rw [hcalled, henabled] at htimed
      right
      show ∃ entry, (run.advance index step).2.results = run.results ++ [entry] ∧
        (run.advanceMoments index step).filterMap Moment.notice? = entry.notices index step ∧
        entry.success = entry.error.isNone ∧
        ((run.advance index step).1 = none → entry.success = true)
      cases htime : elapsedMs (run.notify (.started index step)).controller.now
          (run.work index step).controller.now with
      | error fault =>
        refine absurd ?_ (htimed fault)
        show (run.advance index step).1 = _
        rw [advance_of_untimed htime]
      | ok durationMs =>
        refine ⟨(run.judge index step).result step durationMs, results_advance_of_timed htime,
          ?_, ?_, ?_⟩
        · rw [advanceMoments_of_timed htime, notices_result]
          rfl
        · rw [Verdict.result]
          cases (run.judge index step).failure with
          | none => rfl
          | some failure => rfl
        · intro hending
          rw [advance_of_timed htime] at hending
          rw [Verdict.result, Option.map_eq_none_iff.mp hending]
          rfl

/-! ## All steps -/

/-- **The loop** adds entries, at most one for each step, and what is told meanwhile is what these
say, unless it breaks off. Only the last one may be the entry of a failure. -/
theorem loop_tells {title : String} {index : Nat} {steps : List Step} {run : Run σ}
    (htimed : ∀ fault, (loop title index steps run).1 ≠ .aborted fault) :
    ∃ entries, (loop title index steps run).2.results = run.results ++ entries ∧
      entries.length ≤ steps.length ∧
      (moments title index steps run).filterMap Moment.notice? = noticesFrom index steps entries ∧
      (∀ entry ∈ entries, entry.success = entry.error.isNone) ∧
      ∀ entry ∈ entries.dropLast, entry.success = true := by
  induction steps generalizing index run with
  | nil => exact ⟨[], (List.append_nil _).symm, Nat.le_refl 0, rfl, nofun, nofun⟩
  | cons step rest ih =>
    obtain ⟨ending, after, heq, hloop, hmoments⟩ | ⟨after, heq, hloop, hmoments⟩ :=
      loop_cases title index step rest run
    · -- the loop ends as the step does, with an entry for it or none
      have htake : ∀ fault, (run.take title index step).1 ≠ some (.aborted fault) := by
        rw [hloop] at htimed
        rw [heq]
        exact fun fault hfault => htimed fault (Option.some.inj hfault)
      rw [hloop, hmoments]
      obtain ⟨-, hresults, hnone⟩ | ⟨entry, hresults, hnotices, herror, -⟩ := take_tells htake
      · rw [heq] at hresults
        rw [hnone]
        exact ⟨[], by rw [hresults, List.append_nil], Nat.zero_le _, rfl, nofun, nofun⟩
      · rw [heq] at hresults
        refine ⟨[entry], hresults, Nat.succ_le_succ (Nat.zero_le _), ?_, by simpa using herror,
          nofun⟩
        rw [hnotices, noticesFrom, noticesFrom_nil, List.append_nil]
    · -- the step went well, and what comes behind it is told behind it
      have htake : ∀ fault, (run.take title index step).1 ≠ some (.aborted fault) := by
        rw [heq]
        exact fun _ => nofun
      rw [hloop] at htimed
      obtain ⟨entries, hrest, hlength, hnotices', herror', hsuccess'⟩ := ih htimed
      obtain ⟨hcancelled, -⟩ | ⟨entry, hresults, hnotices, herror, hsuccess⟩ := take_tells htake
      · rw [heq] at hcancelled
        cases hcancelled
      · rw [heq] at hresults hsuccess
        refine ⟨entry :: entries, ?_, Nat.succ_le_succ hlength, ?_,
          List.forall_mem_cons.mpr ⟨herror, herror'⟩, ?_⟩
        · rw [hloop, hrest, hresults, List.append_assoc]
          rfl
        · rw [hmoments, List.filterMap_append, hnotices, hnotices', noticesFrom]
        · intro other hother
          cases entries with
          | nil => cases hother
          | cons next entries =>
            rcases List.mem_cons.mp hother with rfl | hlater
            · exact hsuccess rfl
            · exact hsuccess' other hlater

end Run

/-! ## Whole runs -/

namespace Controller

variable {controller : Controller σ} {automation : Automation} {initial : Value}

/-- What a run records of telling its listener is what it tells at its moments. -/
theorem filter_events_start {listener : Listener} (hlistener : controller.listener = some listener) :
    (controller.start automation initial).events.filter Event.isNotice =
      ((controller.moments automation initial).filterMap Moment.notice?).map
        (Notice.event true) := by
  rw [(start_trace controller automation initial).2, List.filter_flatMap, List.map_filterMap,
    List.filterMap_eq_flatMap_toList]
  refine List.flatMap_congr fun moment hmoment => ?_
  have hpersists := persists_of_mem_moments hmoment
  exact Moment.filter_events (hpersists.listener.trans hlistener) (phase_of_mem_moments hmoment)

/-- **A listener is told what the result says**, whatever it asks for and however often it breaks.
For each step that was not passed over, in order, it is told that the step starts, and then that it
was performed, with its entry, or that it failed, with its error. It is told nothing else, all of it
while the run is under way, and a failure is told last. Every entry is of one of the steps, and it
has an error if its step failed. -/
theorem start_tells {listener : Listener} (hlistener : controller.listener = some listener)
    {result : RunResult} (h : (controller.start automation initial).result = .ok result) :
    (controller.moments automation initial).filterMap Moment.notice? =
        result.notices (controller.steps automation) ∧
      (controller.start automation initial).events.filter Event.isNotice =
        (result.notices (controller.steps automation)).map (Notice.event true) ∧
      result.stepResults.length ≤ (controller.steps automation).length ∧
      (∀ entry ∈ result.stepResults, entry.success = entry.error.isNone) ∧
      ∀ notice ∈ (result.notices (controller.steps automation)).dropLast,
        notice.isFailed = false := by
  rw [filter_events_start hlistener]
  obtain ⟨hidle, store, hstore, hrun⟩ := start_eq_ok h
  rw [moments_of_readable hidle hstore]
  obtain ⟨hsteps, executionTime, rfl⟩ | ⟨-, ending, after, hloop, hconclude⟩ := hrun
  · rw [hsteps]
    exact ⟨rfl, rfl, Nat.le_refl 0, nofun, nofun⟩
  · have htimed : ∀ fault, (Run.loop automation.title.toText 0 (controller.steps automation)
        (controller.launch automation store)).1 ≠ .aborted fault := by
      rw [hloop]
      rintro fault rfl
      cases hconclude
    obtain ⟨entries, hresults, hlength, hnotices, herror, hsuccess⟩ := Run.loop_tells htimed
    obtain ⟨-, -, -, hentries⟩ := Run.conclude_eq_ok hconclude
    rw [hloop] at hresults
    -- nothing was recorded before the first step
    have hall : result.stepResults = entries := hentries.trans hresults
    rw [RunResult.notices, hall, hnotices]
    exact ⟨rfl, rfl, hlength, herror, fun notice hnotice =>
      isFailed_of_mem_dropLast_noticesFrom hsuccess hnotice⟩

/-- A controller of steps that work or break, followed by a listener that breaks whenever a step
starts, starts the controller again whenever one was performed, and calls the run off when one
fails. -/
def meddled : Controller Simulation.World where
  registry := ⟨[("probe", Steps.scripted {}),
    ("broken", Steps.scripted { failure := some (.external "") })]⟩
  platform := ({} : Simulation.Scenario).platform
  world := {}
  listener := some fun
    | .started .. => [.fail]
    | .completed .. => [.restart]
    | .failed .. => [.cancel]

/-- A step that is passed over, one that works, one that breaks and one behind it. -/
def errands : Automation where
  id := "errands"
  title := .text "Errands"
  steps := [{ id := "a", type := "probe", enabled := false }, { id := "b", type := "probe" },
    { id := "c", type := "broken" }, { id := "d", type := "probe" }]

/-- The run fails at its third step. Its listener is told of two starts, one step performed and one
failure, the last of these behind all others. -/
theorem start_tells_errands :
    ∃ result, (meddled.start errands .null).result = .ok result ∧ result.status = .failed ∧
      result.stepResults.map StepResult.skipped = [true, false, false] ∧
      (result.notices (meddled.steps errands)).map Notice.isFailed = [false, false, false, true] ∧
      (meddled.moments errands .null).filterMap Moment.notice? =
        result.notices (meddled.steps errands) := by
  obtain ⟨result, hresult, hview⟩ := exists_ok_of_map
    (meddled.start errands .null).result
    (fun result => (result.status, result.stepResults.map StepResult.skipped,
      (result.notices (meddled.steps errands)).map Notice.isFailed))
    (.failed, [true, false, false], [false, false, false, true])
    (by decide +kernel)
  obtain ⟨hfailed, hrest⟩ := Prod.mk.inj hview
  obtain ⟨hskipped, hnotices⟩ := Prod.mk.inj hrest
  exact ⟨result, hresult, hfailed, hskipped, hnotices, (start_tells rfl hresult).1⟩

end Controller

end Stepwise
