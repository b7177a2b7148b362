import Stepwise.Proofs.Run.Notices

/-! # Runs that are alike

Two runs may differ inside and still come to the same. To show it, one names a relation between
runs that agree and checks that everything that is done to both keeps it: that is a *likeness*
(`Run.Likeness`). The rest follows once and for all. Under a likeness the two runs take every step
alike (`Likeness.take`), their loops end alike and tell the same (`Likeness.loop`), and so they are
refused alike or closed with the same result (`Likeness.start`). -/

namespace Stepwise

variable {σ : Type}

namespace Run

/-- **Two runs agree** on what their results, their requests and their next steps depend on, but for
the handlers and the listener. -/
structure Agrees (run run' : Run σ) : Prop where
  /-- The same environment. -/
  platform : run'.controller.platform = run.controller.platform
  /-- The same world. -/
  world : run'.controller.world = run.controller.world
  /-- Called off or not alike. -/
  cancelRequested : run'.controller.cancelRequested = run.controller.cancelRequested
  /-- The same results so far. -/
  results : run'.results = run.results
  /-- As many steps did their work so far. -/
  completed : run'.completed = run.completed

namespace Agrees

variable {run run' : Run σ}

/-- The clock shows the same. -/
theorem now (h : run.Agrees run') : run'.controller.now = run.controller.now := by
  rw [Controller.now, Controller.now, h.platform, h.world]

/-- Both are finished with the same result. -/
theorem finish (h : run.Agrees run') (startTime : Binary64) (totalSteps : Nat) (status : Status)
    (error : Option String) (failedStep : Option Int) (errorType : Option String) :
    run'.finish startTime totalSteps status error failedStep errorType =
      run.finish startTime totalSteps status error failedStep errorType := by
  unfold Run.finish
  rw [h.now, h.platform, h.world, h.completed, h.results]

/-- Both are concluded with the same result. -/
theorem conclude (h : run.Agrees run') (startTime : Binary64) (totalSteps : Nat)
    (ending : Ending) :
    run'.conclude startTime totalSteps ending = run.conclude startTime totalSteps ending := by
  cases ending with
  | completed => exact h.finish ..
  | cancelled => exact h.finish ..
  | failed index failure => exact h.finish ..
  | aborted fault => rfl

end Agrees

/-- **A likeness** is a relation between runs that agree, which is kept by everything that is done
to both. Only the steps that are `served` have to be performed alike. -/
structure Likeness (served : Step → Prop) (alike : Run σ → Run σ → Prop) : Prop where
  /-- Runs that are alike agree. -/
  agrees {run run' : Run σ} (h : alike run run') : run.Agrees run'
  /-- Both leave notes, which do not matter. -/
  notes {run run' : Run σ} (h : alike run run') (log log' : List Note) :
    alike { run with log := log } { run' with log := log' }
  /-- Both record a result. -/
  record {run run' : Run σ} (h : alike run run') (result : StepResult) :
    alike (run.record result) (run'.record result)
  /-- Both count a step. -/
  count {run run' : Run σ} (h : alike run run') :
    alike { run with completed := run.completed + 1 } { run' with completed := run'.completed + 1 }
  /-- Both tell their listeners. -/
  notify {run run' : Run σ} (h : alike run run') (notice : Notice) :
    alike (run.notify notice) (run'.notify notice)
  /-- Both perform a step that is served, with the same outcome. -/
  perform {run run' : Run σ} (h : alike run run') {step : Step} (hserved : served step) :
    (run'.perform step).1 = (run.perform step).1 ∧
      alike (run.perform step).2 (run'.perform step).2

namespace Likeness

variable {served : Step → Prop} {alike : Run σ → Run σ → Prop} {run run' : Run σ} {step : Step}

/-! ## One step -/

/-- Both pass over a disabled step. -/
theorem skip (likeness : Likeness served alike) (h : alike run run') (index : Nat) (step : Step) :
    alike (run.skip index step) (run'.skip index step) :=
  likeness.record (likeness.notes h _ _) _

/-- The work of a step is judged alike. -/
theorem judge (likeness : Likeness served alike) (h : alike run run') (hserved : served step)
    (index : Nat) : run'.judge index step = run.judge index step := by
  rw [Run.judge, Run.judge]
  exact congrArg verdict (likeness.perform (likeness.notify h _) hserved).1

/-- Both work on a step. -/
theorem work (likeness : Likeness served alike) (h : alike run run') (hserved : served step)
    (index : Nat) : alike (run.work index step) (run'.work index step) := by
  have hperformed := (likeness.perform (likeness.notify h (.started index step)) hserved).2
  unfold Run.work
  rw [likeness.judge h hserved]
  split
  · exact likeness.notes hperformed _ _
  · exact hperformed

/-- Both settle a step. -/
theorem settle (likeness : Likeness served alike) (h : alike run run') (hserved : served step)
    (index : Nat) (durationMs : Int) :
    alike (run.settle index step durationMs) (run'.settle index step durationMs) := by
  have hwork := likeness.work h hserved index
  unfold Run.settle
  rw [likeness.judge h hserved]
  dsimp only
  cases (run.judge index step).failure with
  | some failure => exact likeness.record (likeness.notes hwork _ _) _
  | none => exact likeness.notes (likeness.record (likeness.count hwork) _) _ _

/-- **Both perform an enabled step**: they end alike or go on alike, and tell the same. -/
theorem advance (likeness : Likeness served alike) (h : alike run run') (hserved : served step)
    (index : Nat) :
    (run'.advance index step).1 = (run.advance index step).1 ∧
      alike (run.advance index step).2 (run'.advance index step).2 ∧
      (run'.advanceMoments index step).filterMap Moment.notice? =
        (run.advanceMoments index step).filterMap Moment.notice? := by
  have htold := (likeness.agrees (likeness.notify h (.started index step))).now
  have hwork := likeness.work h hserved index
  have hjudge := likeness.judge h hserved index
  -- the clocks show the same before and after the work, so both are timed alike or not at all
  have htime : elapsedMs (run'.notify (.started index step)).controller.now
        (run'.work index step).controller.now =
      elapsedMs (run.notify (.started index step)).controller.now
        (run.work index step).controller.now := by
    rw [htold, (likeness.agrees hwork).now]
  cases hread : elapsedMs (run.notify (.started index step)).controller.now
      (run.work index step).controller.now with
  | error fault =>
    have hread' := htime.trans hread
    rw [advance_of_untimed hread, advance_of_untimed hread', advanceMoments_of_untimed hread,
      advanceMoments_of_untimed hread']
    exact ⟨rfl, hwork, rfl⟩
  | ok durationMs =>
    have hread' := htime.trans hread
    rw [advance_of_timed hread, advance_of_timed hread', advanceMoments_of_timed hread,
      advanceMoments_of_timed hread', hjudge]
    exact ⟨rfl, likeness.notify (likeness.settle h hserved index durationMs) _, rfl⟩

/-- **Both take a step of a list**: they end alike or go on alike, and tell the same. -/
theorem take (likeness : Likeness served alike) (h : alike run run')
    (hserved : step.enabled = true → served step) (title title' : String) (index : Nat) :
    (run'.take title' index step).1 = (run.take title index step).1 ∧
      alike (run.take title index step).2 (run'.take title' index step).2 ∧
      (run'.takeMoments index step).filterMap Moment.notice? =
        (run.takeMoments index step).filterMap Moment.notice? := by
  unfold Run.take Run.takeMoments
  rw [(likeness.agrees h).cancelRequested]
  cases run.controller.cancelRequested with
  | true => exact ⟨rfl, likeness.notes h _ _, rfl⟩
  | false =>
    cases henabled : step.enabled with
    | false => exact ⟨rfl, likeness.skip h index step, rfl⟩
    | true => exact likeness.advance h (hserved henabled) index

/-! ## All steps -/

/-- **The loops of both** end alike and tell the same. -/
theorem loop (likeness : Likeness served alike) (h : alike run run') {steps : List Step}
    (hserved : ∀ step ∈ steps, step.enabled = true → served step) (title title' : String)
    (index : Nat) :
    (Run.loop title' index steps run').1 = (Run.loop title index steps run).1 ∧
      alike (Run.loop title index steps run).2 (Run.loop title' index steps run').2 ∧
      (moments title' index steps run').filterMap Moment.notice? =
        (moments title index steps run).filterMap Moment.notice? := by
  induction steps generalizing run run' index with
  | nil => exact ⟨rfl, h, rfl⟩
  | cons step rest ih =>
    obtain ⟨hstep, hrest⟩ := List.forall_mem_cons.mp hserved
    obtain ⟨hending, hafter, hnotices⟩ := likeness.take h hstep title title' index
    rw [loop_cons, loop_cons, moments, moments]
    revert hending hafter
    -- both loops look at what taking their own step came to
    generalize run.take title index step = taken
    generalize run'.take title' index step = taken'
    obtain ⟨ending?, after⟩ := taken
    obtain ⟨ending?', after'⟩ := taken'
    intro hending hafter
    obtain rfl : ending?' = ending? := hending
    cases ending?' with
    | some ending =>
      refine ⟨rfl, hafter, ?_⟩
      rw [List.append_nil, List.append_nil]
      exact hnotices
    | none =>
      obtain ⟨hending, hlast, hlater⟩ := ih hafter hrest (index + 1)
      refine ⟨hending, hlast, ?_⟩
      rw [List.filterMap_append, List.filterMap_append, hnotices, hlater]

end Likeness

end Run

/-! ## Whole runs -/

/-- **How the outcomes of runs that are alike compare**: both were refused and left their
controllers in the same phase, or runs that are alike were closed with the same result. -/
inductive StartOutcome.Alike (alike : Run σ → Run σ → Prop) (controller controller' : Controller σ) :
    StartOutcome σ → StartOutcome σ → Prop
  /-- Both were refused. -/
  | refused (fault : Fault) (phase : Phase) :
      Alike alike controller controller'
        { result := .error fault, controller := { controller with phase } }
        { result := .error fault, controller := { controller' with phase } }
  /-- Both were closed. -/
  | closed {run run' : Run σ} (h : alike run run') (phase : Phase)
      (result : Except Fault RunResult) :
      Alike alike controller controller' (run.outcome phase result) (run'.outcome phase result)

/-- Runs whose loops ended alike are closed alike. -/
theorem Run.Likeness.close {served : Step → Prop} {alike : Run σ → Run σ → Prop}
    (likeness : Likeness served alike) {ended ended' : Ending × Run σ} (hending : ended'.1 = ended.1)
    (h : alike ended.2 ended'.2) (controller controller' : Controller σ) (title title' : String)
    (startTime : Binary64) (totalSteps : Nat) :
    StartOutcome.Alike alike controller controller' (Run.close title startTime totalSteps ended)
      (Run.close title' startTime totalSteps ended') := by
  obtain ⟨ending, run⟩ := ended
  obtain ⟨ending', run'⟩ := ended'
  obtain rfl : ending' = ending := hending
  obtain ⟨log, hclose⟩ := close_eq title startTime totalSteps ending' run
  obtain ⟨log', hclose'⟩ := close_eq title' startTime totalSteps ending' run'
  rw [hclose, hclose', (likeness.agrees h).conclude]
  exact .closed (likeness.notes h log log') ending'.phase _

/-- **Runs launched alike** over the same steps have outcomes that are alike, and tell the same. -/
theorem Run.Likeness.start {served : Step → Prop} {alike : Run σ → Run σ → Prop}
    (likeness : Likeness served alike) {controller controller' : Controller σ}
    {automation automation' : Automation} (hphase : controller'.phase = controller.phase)
    (hlaunch : ∀ store,
      alike (controller.launch automation store) (controller'.launch automation' store))
    (hsteps : controller'.steps automation' = controller.steps automation)
    (hserved : ∀ step ∈ controller.steps automation, step.enabled = true → served step)
    (initial : Value) :
    StartOutcome.Alike alike controller controller' (controller.start automation initial)
        (controller'.start automation' initial) ∧
      (controller'.moments automation' initial).filterMap Moment.notice? =
        (controller.moments automation initial).filterMap Moment.notice? := by
  by_cases hidle : controller.phase = .idle
  · have hidle' : controller'.phase = .idle := hphase.trans hidle
    cases hstore : Store.ofValue initial with
    | error fault =>
      -- both are refused before there is a run
      rw [Controller.start_of_unreadable hidle hstore,
        Controller.start_of_unreadable hidle' hstore, Controller.moments, Controller.moments,
        if_pos hidle, if_pos hidle', hstore]
      exact ⟨.refused fault .running, rfl⟩
    | ok store =>
      have hagrees := likeness.agrees (hlaunch store)
      have hnow : controller'.now = controller.now := hagrees.now
      rw [Controller.moments_of_readable hidle hstore, Controller.moments_of_readable hidle' hstore,
        hsteps]
      by_cases hempty : controller.steps automation = []
      · -- without steps both are closed as they were launched, but for a note
        rw [Controller.start_eq_outcome hidle hstore hempty,
          Controller.start_eq_outcome hidle' hstore (hsteps.trans hempty), hempty, hnow]
        have hnoted := likeness.notes (hlaunch store)
        dsimp only [Run.note]
        rw [(likeness.agrees (hnoted _ _)).finish]
        exact ⟨.closed (hnoted _ _) _ _, rfl⟩
      · rw [Controller.start_eq_close hidle hstore hempty,
          Controller.start_eq_close hidle' hstore (hsteps ▸ hempty), hsteps, hnow]
        obtain ⟨hending, hafter, hnotices⟩ := likeness.loop (hlaunch store) hserved
          automation.title.toText automation'.title.toText 0
        exact ⟨likeness.close hending hafter _ _ _ _ _ _, hnotices⟩
  · have hidle' : controller'.phase ≠ .idle := by
      rw [hphase]
      exact hidle
    -- a controller that was started before stays in the phase in which it is
    have hsame : { controller' with phase := controller.phase } = controller' := by
      rw [← hphase]
    have hrefused := @StartOutcome.Alike.refused _ alike controller controller'
      (.controllerUsed controller.phase.name) controller.phase
    rw [hsame] at hrefused
    rw [Controller.start_of_not_idle hidle, Controller.start_of_not_idle hidle',
      Controller.moments_of_not_idle hidle, Controller.moments_of_not_idle hidle', hphase]
    exact ⟨hrefused, rfl⟩

end Stepwise
