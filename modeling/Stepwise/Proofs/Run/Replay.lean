import Stepwise.Proofs.Run.Accounting
import Stepwise.Proofs.Run.Cancellation
import Stepwise.Proofs.Run.Persistence

/-! # The entries of a run as a log of its variables

With the built-in handlers, the variables at the end of a run can be told from its result alone:
they are the initial ones with the bindings that the entries report, one after the other
(`Store.replay`, `Controller.start_replays`). An entry reports a binding if a `set-variable` step
did its work; it holds the name and the value that were bound.

What carries this is that no other step binds anything, and that a step which fails binds nothing
(`Run.store_dispatched`). So the claim is kept by each step (`Run.Replays.take`) and, by induction,
by the loop. The listener of the run is taken to bind no variables of its own. -/

namespace Stepwise

variable {σ : Type}

/-! ## Replaying entries -/

/-- Whether an entry reports a binding: a `set-variable` step did its work. -/
def StepResult.isBinding (entry : StepResult) : Bool := entry.isDone && entry.type == "set-variable"

namespace Store

/-- The variables after what an entry reports. -/
def replayEntry (store : Store) (entry : StepResult) : Store :=
  if entry.isBinding then
    store.set (Value.field "name" entry.output).toText (Value.field "value" entry.output)
  else store

/-- **The variables after what some entries report**, in order. -/
def replay (store : Store) (entries : List StepResult) : Store := entries.foldl replayEntry store

/-- One more entry. -/
theorem replay_concat (store : Store) (entries : List StepResult) (entry : StepResult) :
    store.replay (entries ++ [entry]) = (store.replay entries).replayEntry entry := by
  rw [replay, List.foldl_append]
  rfl

end Store

namespace Run

/-! ## The work of one step -/

/-- The verdict on a binding that was reported. -/
theorem verdict_binding (name : String) (value : Value) :
    verdict (.ok (.object [("name", .text name), ("value", value)])) =
      { output := [("name", .text name), ("value", value)] } :=
  rfl

/-- Every fault is a failure. -/
theorem failure_verdict_error (fault : Fault) :
    ∃ failure, (verdict (.error fault)).failure = some failure := by
  show ∃ failure, (verdictOfFault fault).failure = some failure
  unfold verdictOfFault
  split
  · exact ⟨_, rfl⟩
  · exact ⟨_, rfl⟩

/-- **Only a `set-variable` step that does its work binds a variable.** -/
theorem store_dispatched {run : Run σ} (hdraws : run.controller.registry.DrawsOnBuiltIn)
    {step : Step}
    (h : step.type ≠ "set-variable" ∨ (verdict (run.perform step).1).failure ≠ none) :
    (run.perform step).2.store = run.store := by
  by_cases htype : step.type = "set-variable"
  · have hfailed := h.resolve_left fun hne => hne htype
    obtain ⟨fault, -, hstore⟩ | ⟨name, value, hvalue, -⟩ :=
      dispatch_setVariable hdraws htype run.store run.controller.world
    · exact hstore
    · refine absurd ?_ hfailed
      rw [perform, hvalue, verdict_binding]
  · exact store_dispatch hdraws htype run.store run.controller.world

/-- An entry reports a binding if its step did its work and is of the type that binds. -/
theorem isBinding_result (verdict : Verdict) (step : Step) (durationMs : Int) :
    (verdict.result step durationMs).isBinding =
      (verdict.failure.isNone && step.type == "set-variable") := by
  rw [StepResult.isBinding, StepResult.isDone, Verdict.result, Bool.not_false, Bool.and_true]

/-- **The entry of a step says what it bound**: replaying it leads from the variables before the
step to those behind it. -/
theorem replayEntry_perform {run : Run σ} (hdraws : run.controller.registry.DrawsOnBuiltIn)
    (step : Step) (durationMs : Int) :
    let entry := (verdict (run.perform step).1).result step durationMs
    (run.perform step).2.store = run.store.replayEntry entry ∧
      (entry.isBinding = true →
        ∃ name value, entry.output = [("name", .text name), ("value", value)]) := by
  intro entry
  have hbinding : entry.isBinding = ((verdict (run.perform step).1).failure.isNone &&
      step.type == "set-variable") := isBinding_result _ step durationMs
  -- an entry that reports no binding belongs to a step that binds nothing
  have hnone : (step.type ≠ "set-variable" ∨ (verdict (run.perform step).1).failure ≠ none) →
      entry.isBinding = false → (run.perform step).2.store = run.store.replayEntry entry ∧
        (entry.isBinding = true →
          ∃ name value, entry.output = [("name", .text name), ("value", value)]) := by
    intro hother hfree
    rw [Store.replayEntry, hfree]
    exact ⟨store_dispatched hdraws hother, nofun⟩
  by_cases htype : step.type = "set-variable"
  · obtain ⟨fault, hfault, -⟩ | ⟨name, value, hvalue, hstore⟩ :=
      dispatch_setVariable hdraws htype run.store run.controller.world
    · obtain ⟨failure, hfailure⟩ := failure_verdict_error fault
      have hfailed : (verdict (run.perform step).1).failure = some failure := by
        rw [← hfailure, ← hfault]
        rfl
      rw [hfailed] at hbinding hnone
      exact hnone (.inr nofun) hbinding
    · have hverdict : verdict (run.perform step).1 =
          { output := [("name", .text name), ("value", value)] } := by
        rw [← verdict_binding, ← hvalue]
        rfl
      have houtput : entry.output = [("name", .text name), ("value", value)] := by
        show (verdict (run.perform step).1).output = _
        rw [hverdict]
      rw [hverdict, htype, beq_self_eq_true] at hbinding
      have hreported : entry.isBinding = true := hbinding
      refine ⟨?_, fun _ => ⟨name, value, houtput⟩⟩
      rw [Store.replayEntry, if_pos hreported, houtput]
      exact hstore
  · refine hnone (.inl htype) ?_
    rw [hbinding, beq_eq_false_iff_ne.mpr htype, Bool.and_false]

/-! ## The invariant -/

/-- **The results so far replay to the variables** as they are now. -/
structure Replays (initial : Store) (run : Run σ) : Prop where
  /-- The variables are those that the entries lead to. -/
  store : run.store = initial.replay run.results
  /-- An entry that reports a binding holds a name and a value. -/
  entries : ∀ entry ∈ run.results, entry.isBinding = true →
    ∃ name value, entry.output = [("name", .text name), ("value", value)]

namespace Replays

variable {initial : Store} {run : Run σ}

/-- One more entry, and the variables that it leads to. -/
theorem concat (h : run.Replays initial) {after : Run σ} {entry : StepResult}
    (hresults : after.results = run.results ++ [entry])
    (hstore : after.store = run.store.replayEntry entry)
    (hentry : entry.isBinding = true →
      ∃ name value, entry.output = [("name", .text name), ("value", value)]) :
    after.Replays initial where
  store := by rw [hstore, h.store, hresults, Store.replay_concat]
  entries := by
    intro other hother
    rw [hresults, List.mem_append, List.mem_singleton] at hother
    rcases hother with hearlier | rfl
    · exact h.entries other hearlier
    · exact hentry

/-- **A step that is timed** keeps the claim. -/
theorem advance (h : run.Replays initial) (hdraws : run.controller.registry.DrawsOnBuiltIn)
    (hspared : run.controller.IsSpared Command.assigns) {index : Nat} {step : Step}
    {durationMs : Int}
    (htime : elapsedMs (run.notify (.started index step)).controller.now
      (run.work index step).controller.now = .ok durationMs) :
    (run.advance index step).2.Replays initial := by
  have htold : (run.notify (.started index step)).store = run.store := store_notify hspared _
  have hsettled : (run.settle index step durationMs).store =
      ((run.notify (.started index step)).perform step).2.store := by
    obtain ⟨log, hwork⟩ := work_eq index step run
    obtain ⟨completed, log', hsettle⟩ := settle_eq index step durationMs run
    rw [hsettle, hwork]
  obtain ⟨hstore, hentry⟩ := replayEntry_perform
    ((persists_notify (.started index step) run).drawsOnBuiltIn hdraws) step durationMs
  refine h.concat (results_advance_of_timed htime) ?_ hentry
  have hspared' := (persists_settle index step durationMs run).isSpared hspared
  rw [advance_of_timed htime]
  dsimp only
  rw [store_notify hspared', hsettled, hstore, htold]
  rfl

/-- **A step of a list** keeps the claim, unless it breaks the run off. -/
theorem take (h : run.Replays initial) (hdraws : run.controller.registry.DrawsOnBuiltIn)
    (hspared : run.controller.IsSpared Command.assigns) {title : String} {index : Nat} {step : Step}
    (htimed : ∀ fault, (run.take title index step).1 ≠ some (.aborted fault)) :
    (run.take title index step).2.Replays initial := by
  unfold Run.take at htimed ⊢
  split
  · exact ⟨h.store, h.entries⟩
  next hgoing =>
    rw [if_neg hgoing] at htimed
    split
    · exact h.concat rfl rfl nofun
    next henabled =>
      rw [if_neg henabled] at htimed
      cases htime : elapsedMs (run.notify (.started index step)).controller.now
          (run.work index step).controller.now with
      | error fault =>
        rw [advance_of_untimed htime] at htimed
        exact absurd rfl (htimed fault)
      | ok durationMs => exact h.advance hdraws hspared htime

/-- **The loop** keeps the claim, unless it breaks off. -/
theorem loop (h : run.Replays initial) (hdraws : run.controller.registry.DrawsOnBuiltIn)
    (hspared : run.controller.IsSpared Command.assigns) {title : String} {index : Nat}
    {steps : List Step} (htimed : ∀ fault, (Run.loop title index steps run).1 ≠ .aborted fault) :
    (Run.loop title index steps run).2.Replays initial := by
  induction steps generalizing index run with
  | nil => exact h
  | cons step rest ih =>
    obtain ⟨ending, after, heq, hloop, -⟩ | ⟨after, heq, hloop, -⟩ :=
      loop_cases title index step rest run
    · -- the loop ends as the step does, so neither breaks off
      have hstep : ∀ fault, (run.take title index step).1 ≠ some (.aborted fault) := by
        rw [hloop] at htimed
        rw [heq]
        exact fun fault hfault => htimed fault (Option.some.inj hfault)
      have hkept := h.take hdraws hspared hstep
      rw [heq] at hkept
      rw [hloop]
      exact hkept
    · have hstep : ∀ fault, (run.take title index step).1 ≠ some (.aborted fault) := by
        rw [heq]
        exact fun _ => nofun
      have hkept := h.take hdraws hspared hstep
      have hpersists := persists_take title index step run
      rw [heq] at hkept hpersists
      rw [hloop] at htimed ⊢
      exact ih hkept (hpersists.drawsOnBuiltIn hdraws) (hpersists.isSpared hspared) htimed

end Replays

end Run

namespace Controller

/-- **The entries of a run replay to its variables.** Let the handlers be the built-in ones. If the
listener binds no variables, those of a run that returns are the initial ones with what its entries
report to have been bound, each of which holds the name and the value. And whatever the listener
does, a step that is dispatched binds nothing unless it is of the type that does and does its
work. -/
theorem start_replays {controller : Controller σ} {automation : Automation} {initial : Value}
    (hbuiltIn : controller.registry.IsBuiltIn) :
    (controller.IsSpared Command.assigns →
      ∀ result, (controller.start automation initial).result = .ok result →
        ∃ store, Store.ofValue initial = .ok store ∧
          (controller.start automation initial).controller.store =
            some (store.replay result.stepResults) ∧
          ∀ entry ∈ result.stepResults, entry.isBinding = true →
            ∃ name value, entry.output = [("name", .text name), ("value", value)]) ∧
    ∀ index step, ∀ run : Run σ,
      .dispatched index step run ∈ controller.moments automation initial →
      (step.type ≠ "set-variable" ∨ (verdict (run.perform step).1).failure ≠ none) →
        (run.perform step).2.store = run.store := by
  have hdraws : controller.registry.DrawsOnBuiltIn := hbuiltIn.drawsOnBuiltIn
  refine ⟨fun hspared result hresult => ?_, fun index step run hmoment hnone => ?_⟩
  · obtain ⟨hidle, store, hstore, hrun⟩ := start_eq_ok hresult
    refine ⟨store, hstore, ?_⟩
    obtain ⟨hsteps, executionTime, rfl⟩ | ⟨hsteps, ending, after, hloop, hconclude⟩ := hrun
    · obtain ⟨-, -, -, hcontroller, -⟩ := start_of_no_steps hidle hstore hsteps
      rw [hcontroller]
      exact ⟨rfl, nofun⟩
    · obtain ⟨-, hcontroller, -⟩ := start_of_loop hidle hstore hsteps hloop
      have hlaunched : (controller.launch automation store).Replays store := ⟨rfl, nofun⟩
      have htimed : ∀ fault, (Run.loop automation.title.toText 0 (controller.steps automation)
          (controller.launch automation store)).1 ≠ .aborted fault := by
        rw [hloop]
        rintro fault rfl
        cases hconclude
      have hreplays := hlaunched.loop hdraws hspared htimed
      rw [hloop] at hreplays
      obtain ⟨-, -, -, hresults⟩ := Run.conclude_eq_ok hconclude
      rw [hcontroller, hresults, hreplays.store]
      exact ⟨rfl, hreplays.entries⟩
  · have hlater := (persists_of_mem_moments hmoment).drawsOnBuiltIn hdraws
    exact Run.store_dispatched hlater hnone

/-- A device whose listener calls nothing off and binds nothing. -/
def recording : Controller Simulation.World where
  registry := .device
  platform := ({} : Simulation.Scenario).platform
  world := {}
  listener := some fun _ => []

/-- Three bindings, of which the last one takes the place of the first; a disabled one, a step that
only reads, and a binding without a name, which fails. -/
def bindings : Automation where
  id := "bindings"
  title := .text "Bindings"
  steps := [
    { id := "a", type := "set-variable", config := [("name", .text " x "), ("value", .int 1)] },
    { id := "b", type := "set-variable", enabled := false
      config := [("name", .text "z"), ("value", .int 0)] },
    { id := "c", type := "set-variable"
      config := [("name", .text "y"), ("value", .text "\x7b\x7bx\x7d\x7d")] },
    { id := "d", type := "get-variable", config := [("name", .text "y")] },
    { id := "e", type := "set-variable", config := [("name", .text "x"), ("value", .int 2)] },
    { id := "f", type := "set-variable", config := [("name", .text " "), ("value", .int 3)] }]

/-- Three entries report a binding, and the variables behind the failure are what they lead to. -/
theorem start_replays_bindings :
    ∃ result store, (recording.start bindings .null).result = .ok result ∧
      result.status = .failed ∧
      result.stepResults.map StepResult.isBinding = [true, false, true, false, true, false] ∧
      (recording.start bindings .null).controller.store =
        some (Store.replay store result.stepResults) ∧
      (Store.replay store result.stepResults).names = ["x", "y"] := by
  obtain ⟨result, hresult, hview⟩ := exists_ok_of_map (recording.start bindings .null).result
    (fun result => (result.status, result.stepResults.map StepResult.isBinding))
    (.failed, [true, false, true, false, true, false]) (by decide +kernel)
  obtain ⟨hstatus, hentries⟩ := Prod.mk.inj hview
  have hspared : recording.IsSpared Command.assigns := by
    rintro listener ⟨rfl⟩ notice command hcommand
    cases hcommand
  obtain ⟨hreplay, -⟩ :=
    start_replays (.inl ⟨_, rfl⟩ : recording.registry.IsBuiltIn)
  obtain ⟨store, -, hstore, -⟩ := hreplay hspared result hresult
  have hnames : (recording.start bindings .null).controller.store.map Store.names =
      some ["x", "y"] := by
    decide +kernel
  rw [hstore] at hnames
  exact ⟨result, store, hresult, hstatus, hentries, hstore, Option.some.inj hnames⟩

end Controller

end Stepwise
