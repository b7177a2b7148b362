import Stepwise.Proofs.Run.Accounting
import Stepwise.Proofs.Run.Composition
import Stepwise.Proofs.Run.Persistence

/-! # The steps that matter to a run

A run is decided by the enabled steps that it accepts. The disabled ones among the accepted steps
and those that it does not accept may be added, removed or changed: the run makes the same requests,
leaves the same variables, ends alike and has the same entries but for those that were passed over
(`Controller.start_of_same_enabled`).

Such steps shift the numbers of the others, so the runs that are compared number their steps
differently. `Run.Abreast` relates two runs that stand alike but for numbers and for entries that
were passed over. The loop over some steps goes abreast of the loop over the enabled ones alone
(`Run.Abreast.loop`); two automations with the same enabled steps are compared by that loop. -/

namespace Stepwise

variable {σ : Type}

/-! ## Results that say the same -/

/-- **Two results say the same of the steps that matter**, `steps` and `steps'` being all that the
two runs could take: they may differ in the number of steps, in the entries of steps that were
passed over, and in how the failed step is numbered. -/
structure RunResult.SaysSame (steps steps' : List Step) (result result' : RunResult) : Prop where
  /-- A success or none. -/
  success : result'.success = result.success
  /-- The same status. -/
  status : result'.status = result.status
  /-- The same error. -/
  error : result'.error = result.error
  /-- The same kind of fault. -/
  errorType : result'.errorType = result.errorType
  /-- As many steps did their work. -/
  stepsCompleted : result'.stepsCompleted = result.stepsCompleted
  /-- The same entries of steps that were not passed over, in order. -/
  stepResults : result'.stepResults.filter (fun entry => !entry.skipped) =
    result.stepResults.filter (fun entry => !entry.skipped)
  /-- No failed step, or the same one: the enabled steps in front of it are the same. -/
  failedStep : result.failedStep = none ∧ result'.failedStep = none ∨
    ∃ before step rest before' rest', steps = before ++ step :: rest ∧
      steps' = before' ++ step :: rest' ∧ step.enabled = true ∧
      before'.filter Step.enabled = before.filter Step.enabled ∧
      result.failedStep = some (before.length : Int) ∧
      result'.failedStep = some (before'.length : Int)

/-- **Two starts return the same**: results that say the same, or the same fault. -/
inductive RunResult.ReturnsSame (steps steps' : List Step) :
    Except Fault RunResult → Except Fault RunResult → Prop
  /-- Results that say the same. -/
  | ok {result result' : RunResult} (h : result.SaysSame steps steps' result') :
      ReturnsSame steps steps' (.ok result) (.ok result')
  /-- The same fault. -/
  | error (fault : Fault) : ReturnsSame steps steps' (.error fault) (.error fault)

/-! ## Listeners that do not count -/

/-- Steps that are numbered from zero on keep their numbers. -/
theorem Listener.map_behind_zero (listener : Option Listener) :
    listener.map (Listener.behind 0) = listener := by
  rw [show Listener.behind 0 = id from funext Listener.behind_zero, Option.map_id]
  rfl

namespace Controller

/-- **The numbers of steps do not matter** to a controller: its listener answers alike, however the
steps are numbered. -/
def IsUncounted (controller : Controller σ) : Prop :=
  ∀ n, controller.listener.map (Listener.behind n) = controller.listener

/-- Without a listener, numbers do not matter. -/
theorem isUncounted_of_no_listener {controller : Controller σ} (h : controller.listener = none) :
    controller.IsUncounted := by
  intro n
  rw [h]
  rfl

/-- Where numbers do not matter, the steps may be numbered from anywhere. -/
theorem Drives.renumber {n : Nat} {fresh joined : Controller σ} (h : fresh.Drives n joined)
    (huncounted : joined.IsUncounted) (m : Nat) : fresh.Drives m joined :=
  { h with listener := h.listener.trans ((huncounted n).trans (huncounted m).symm) }

end Controller

namespace Run

/-! ## Runs abreast -/

/-- **Two runs are abreast**: they stand alike, but for how they number steps and for the entries
that were passed over. -/
structure Abreast (run run' : Run σ) : Prop where
  /-- The two are driven alike. -/
  controller : run.controller.Drives 0 run'.controller
  /-- The same variables. -/
  store : run'.store = run.store
  /-- The same entries of steps that were not passed over. -/
  results : run'.results.filter (fun entry => !entry.skipped) =
    run.results.filter (fun entry => !entry.skipped)
  /-- As many steps did their work. -/
  completed : run'.completed = run.completed
  /-- The same requests. -/
  requests : run'.requests = run.requests

/-- The run as it stands, with nothing recorded yet. -/
def afresh (run : Run σ) : Run σ :=
  { run with results := [], completed := 0, requests := [], events := [] }

namespace Abreast

variable {run run' : Run σ}

/-- A run that passes a disabled step over stays abreast. -/
theorem skip (h : run.Abreast run') (index : Nat) (step : Step) :
    (run.skip index step).Abreast run' :=
  { h with
    controller := { h.controller with }
    results := by
      rw [h.results]
      simp [Run.skip, record, note] }

/-- **A run goes on as the other one does afresh**, however its steps are numbered. -/
theorem resumes (h : run.Abreast run') (huncounted : run'.controller.IsUncounted) (n : Nat) :
    run'.Resumes n run.afresh run' where
  controller := h.controller.renumber huncounted n
  store := h.store
  results := (List.append_nil _).symm
  completed := rfl
  requests := (List.append_nil _).symm
  events := (List.append_nil _).symm

/-- A run is abreast of itself. -/
theorem refl (run : Run σ) : run.Abreast run where
  controller :=
    { registry := rfl, platform := rfl, world := rfl, settings := rfl, phase := rfl
      cancelRequested := rfl
      listener := (Listener.map_behind_zero _).symm }
  store := rfl
  results := rfl
  completed := rfl
  requests := rfl

/-- **A step taken by both** keeps them abreast. They end alike or go on alike, as a fresh run
does whose first step this is. -/
theorem take (h : run.Abreast run') (huncounted : run.controller.IsUncounted)
    (title title' : String) (index index' : Nat) (step : Step) :
    (run.take title index step).1 =
        (run.afresh.take title 0 step).1.map (Ending.shift index) ∧
      (run'.take title' index' step).1 =
        (run.afresh.take title 0 step).1.map (Ending.shift index') ∧
      (run.take title index step).2.Abreast (run'.take title' index' step).2 := by
  have hlistener : run.controller.listener = run'.controller.listener :=
    h.controller.listener.trans (Listener.map_behind_zero _)
  have huncounted' : run'.controller.IsUncounted := by
    intro n
    rw [← hlistener]
    exact huncounted n
  obtain ⟨hending, hafter⟩ :=
    ((refl run).resumes huncounted index).take title title 0 step
  obtain ⟨hending', hafter'⟩ := (h.resumes huncounted' index').take title title' 0 step
  rw [Nat.add_zero] at hending hafter hending' hafter'
  refine ⟨hending, hending', ?_⟩
  -- both are where the fresh run is, each behind what it had recorded before
  have hsame : (run.take title index step).2.controller.listener =
      (run'.take title' index' step).2.controller.listener :=
    (persists_take title index step run).listener.trans
      (hlistener.trans (persists_take title' index' step run').listener.symm)
  exact {
    controller :=
      { registry := hafter'.controller.registry.trans hafter.controller.registry.symm
        platform := hafter'.controller.platform.trans hafter.controller.platform.symm
        world := hafter'.controller.world.trans hafter.controller.world.symm
        settings := hafter'.controller.settings.trans hafter.controller.settings.symm
        phase := hafter'.controller.phase.trans hafter.controller.phase.symm
        cancelRequested :=
          hafter'.controller.cancelRequested.trans hafter.controller.cancelRequested.symm
        listener := hsame.trans (Listener.map_behind_zero _).symm }
    store := hafter'.store.trans hafter.store.symm
    results := by
      rw [hafter.results, hafter'.results, List.filter_append, List.filter_append, h.results]
    completed := by rw [hafter.completed, hafter'.completed, h.completed]
    requests := by rw [hafter.requests, hafter'.requests, h.requests] }

end Abreast

end Run

/-! ## Endings that correspond -/

/-- **Two endings correspond**: the first one is of a loop over `steps`, the second one of a loop
over the enabled steps among them, numbered from `index` and from `index'` on. A failed step has as
many enabled steps in front of it in both. -/
inductive Ending.Corresponds (steps : List Step) (index index' : Nat) : Ending → Ending → Prop
  /-- Both are complete. -/
  | completed : Corresponds steps index index' .completed .completed
  /-- Both failed at the same step. -/
  | failed {before rest : List Step} {step : Step} (failure : Failure)
      (hsteps : steps = before ++ step :: rest) (henabled : step.enabled = true) :
      Corresponds steps index index' (.failed (index + before.length) failure)
        (.failed (index' + (before.filter Step.enabled).length) failure)
  /-- Both broke off. -/
  | aborted (fault : Fault) : Corresponds steps index index' (.aborted fault) (.aborted fault)

namespace Ending.Corresponds

variable {step : Step} {rest : List Step} {index index' : Nat} {ending ending' : Ending}

/-- A disabled step in front is counted in the first loop only. -/
theorem cons_disabled (h : Corresponds rest (index + 1) index' ending ending')
    (hdisabled : step.enabled = false) :
    Corresponds (step :: rest) index index' ending ending' := by
  cases h with
  | completed => exact .completed
  | @failed before behind failed failure hsteps henabled =>
    have hcount : ((step :: before).filter Step.enabled).length =
        (before.filter Step.enabled).length := by
      rw [List.filter_cons_of_neg (by rw [hdisabled]; exact Bool.false_ne_true)]
    rw [show index + 1 + before.length = index + (step :: before).length by simp; omega, ← hcount]
    exact .failed failure (congrArg (step :: ·) hsteps) henabled
  | aborted fault => exact .aborted fault

/-- An enabled step in front is counted in both loops. -/
theorem cons_enabled (h : Corresponds rest (index + 1) (index' + 1) ending ending')
    (henabled : step.enabled = true) :
    Corresponds (step :: rest) index index' ending ending' := by
  cases h with
  | completed => exact .completed
  | @failed before behind failed failure hsteps hfailed =>
    have hcount : index' + 1 + (before.filter Step.enabled).length =
        index' + ((step :: before).filter Step.enabled).length := by
      rw [List.filter_cons_of_pos henabled, List.length_cons]
      omega
    rw [show index + 1 + before.length = index + (step :: before).length by simp; omega, hcount]
    exact .failed failure (congrArg (step :: ·) hsteps) hfailed
  | aborted fault => exact .aborted fault

end Ending.Corresponds

namespace Run

/-- What an enabled step may come to: the run goes on, it fails at the step, or it breaks off. -/
theorem ending_of_advance (index : Nat) (step : Step) (run : Run σ) :
    (run.advance index step).1 = none ∨
      (∃ failure, (run.advance index step).1 = some (.failed index failure)) ∨
      ∃ fault, (run.advance index step).1 = some (.aborted fault) := by
  rw [advance_eq]
  split
  · exact .inr (.inr ⟨_, rfl⟩)
  · split
    · exact .inr (.inl ⟨_, rfl⟩)
    · exact .inl rfl

/-- **A step during which nobody calls the run off** leaves it going. -/
theorem going_of_take {title : String} {index : Nat} {step : Step} {rest : List Step}
    {run after : Run σ} (hgoing : run.controller.cancelRequested = false)
    (hquiet : (moments title index (step :: rest) run).any Moment.callsOff = false)
    (htake : run.take title index step = (none, after)) :
    after.controller.cancelRequested = false ∧
      (moments title (index + 1) rest after).any Moment.callsOff = false := by
  rw [moments, htake, List.any_append, Bool.or_eq_false_iff] at hquiet
  obtain ⟨hhere, hbehind⟩ := hquiet
  have hfollows := (follows_take title index step run).cancelRequested
  rw [htake, hgoing, hhere] at hfollows
  exact ⟨hfollows, hbehind⟩

/-- **How both runs take an enabled step**: both go on, or both end there, alike. -/
theorem Abreast.take_cases {run run' : Run σ} (h : run.Abreast run')
    (huncounted : run.controller.IsUncounted) (title title' : String) (index index' : Nat)
    {step : Step} (henabled : step.enabled = true)
    (hgoing : run.controller.cancelRequested = false) (rest : List Step) :
    (∃ after after', run.take title index step = (none, after) ∧
      run'.take title' index' step = (none, after') ∧ after.Abreast after') ∨
    ∃ ending ending' after after', run.take title index step = (some ending, after) ∧
      run'.take title' index' step = (some ending', after') ∧ after.Abreast after' ∧
      Ending.Corresponds (step :: rest) index index' ending ending' := by
  obtain ⟨hending, hending', hafter⟩ := h.take huncounted title title' index index' step
  have hafresh : run.afresh.controller.cancelRequested = false := hgoing
  have hfresh := ending_of_advance 0 step run.afresh
  rw [← take_of_enabled henabled hafresh title] at hfresh
  rcases hfresh with hnone | ⟨failure, hfailed⟩ | ⟨fault, haborted⟩
  · rw [hnone] at hending hending'
    exact .inl ⟨_, _, Prod.ext hending rfl, Prod.ext hending' rfl, hafter⟩
  · rw [hfailed] at hending hending'
    have hhere : Ending.Corresponds (step :: rest) index index' (.failed (index + 0) failure)
        (.failed (index' + 0) failure) :=
      @Ending.Corresponds.failed _ index index' [] rest step failure rfl henabled
    exact .inr ⟨_, _, _, _, Prod.ext hending rfl, Prod.ext hending' rfl, hafter, hhere⟩
  · rw [haborted] at hending hending'
    exact .inr ⟨_, _, _, _, Prod.ext hending rfl, Prod.ext hending' rfl, hafter, .aborted fault⟩

/-- **The loop goes abreast of the loop over the enabled steps alone**, as long as nobody calls the
run off. -/
theorem Abreast.loop {run run' : Run σ} (h : run.Abreast run')
    (huncounted : run.controller.IsUncounted) (title title' : String) {index : Nat}
    (index' : Nat) {steps : List Step} (hgoing : run.controller.cancelRequested = false)
    (hquiet : (moments title index steps run).any Moment.callsOff = false) :
    Ending.Corresponds steps index index' (loop title index steps run).1
        (Run.loop title' index' (steps.filter Step.enabled) run').1 ∧
      (Run.loop title index steps run).2.Abreast
        (Run.loop title' index' (steps.filter Step.enabled) run').2 := by
  induction steps generalizing index index' run run' with
  | nil => exact ⟨.completed, h⟩
  | cons step rest ih =>
    cases henabled : step.enabled with
    | false =>
      -- only the first loop sees the step, and passes it over
      have htake := take_of_disabled henabled hgoing title index
      obtain ⟨hstill, hbehind⟩ := going_of_take hgoing hquiet htake
      obtain ⟨hcorresponds, habreast⟩ :=
        ih (h.skip index step) huncounted index' hstill hbehind
      rw [loop_cons, htake, List.filter_cons_of_neg (by rw [henabled]; exact Bool.false_ne_true)]
      exact ⟨hcorresponds.cons_disabled henabled, habreast⟩
    | true =>
      rw [loop_cons, List.filter_cons_of_pos henabled, loop_cons]
      obtain ⟨after, after', htake, htake', hafter⟩ |
          ⟨ending, ending', after, after', htake, htake', hafter, hcorresponds⟩ :=
        h.take_cases huncounted title title' index index' henabled hgoing rest
      · obtain ⟨hstill, hbehind⟩ := going_of_take hgoing hquiet htake
        have hpersists := persists_take title index step run
        rw [htake] at hpersists
        have hstays : after.controller.IsUncounted := by
          intro n
          rw [hpersists.listener]
          exact huncounted n
        obtain ⟨hcorresponds, habreast⟩ := ih hafter hstays (index' + 1) hstill hbehind
        rw [htake, htake']
        exact ⟨hcorresponds.cons_enabled henabled, habreast⟩
      · rw [htake, htake']
        exact ⟨hcorresponds, hafter⟩

/-- Two runs that are abreast of one run are abreast of each other. -/
theorem Abreast.of_common {run run' common : Run σ} (h : run.Abreast common)
    (h' : run'.Abreast common) : run.Abreast run' where
  controller :=
    { registry := h'.controller.registry.symm.trans h.controller.registry
      platform := h'.controller.platform.symm.trans h.controller.platform
      world := h'.controller.world.symm.trans h.controller.world
      settings := h'.controller.settings.symm.trans h.controller.settings
      phase := h'.controller.phase.symm.trans h.controller.phase
      cancelRequested := h'.controller.cancelRequested.symm.trans h.controller.cancelRequested
      listener := by
        rw [Listener.map_behind_zero, h.controller.listener, h'.controller.listener] }
  store := h'.store.symm.trans h.store
  results := h'.results.symm.trans h.results
  completed := h'.completed.symm.trans h.completed
  requests := h'.requests.symm.trans h.requests

/-- **Runs abreast that end at the same time** return the same, if the same step failed or none. -/
theorem Abreast.finish {run run' : Run σ} (h : run.Abreast run') {steps steps' : List Step}
    (startTime : Binary64) (status : Status) (error : Option String) (errorType : Option String)
    {failedStep failedStep' : Option Int}
    (hfailed : failedStep = none ∧ failedStep' = none ∨
      ∃ before step rest before' rest', steps = before ++ step :: rest ∧
        steps' = before' ++ step :: rest' ∧ step.enabled = true ∧
        before'.filter Step.enabled = before.filter Step.enabled ∧
        failedStep = some (before.length : Int) ∧ failedStep' = some (before'.length : Int)) :
    RunResult.ReturnsSame steps steps'
      (run.finish startTime steps.length status error failedStep errorType)
      (run'.finish startTime steps'.length status error failedStep' errorType) := by
  unfold Run.finish
  rw [h.controller.now]
  cases elapsedMs startTime run.controller.now with
  | error fault => exact .error fault
  | ok executionTime =>
    exact .ok
      { success := rfl
        status := rfl
        error := rfl
        errorType := rfl
        stepsCompleted := congrArg Nat.cast h.completed
        stepResults := h.results
        failedStep := hfailed }

/-- **Runs abreast whose loops correspond to a common one** leave the same phase and return the
same. -/
theorem Abreast.conclude {run run' : Run σ} (h : run.Abreast run') {steps steps' : List Step}
    (hsame : steps'.filter Step.enabled = steps.filter Step.enabled)
    {ending ending' common : Ending} (hending : ending.Corresponds steps 0 0 common)
    (hending' : ending'.Corresponds steps' 0 0 common) (startTime : Binary64) :
    ending'.phase = ending.phase ∧
      RunResult.ReturnsSame steps steps' (run.conclude startTime steps.length ending)
        (run'.conclude startTime steps'.length ending') := by
  cases hending with
  | completed =>
    cases hending'
    exact ⟨rfl, h.finish startTime .completed none none (.inl ⟨rfl, rfl⟩)⟩
  | @failed before rest step failure hsteps henabled =>
    -- both failed behind as many enabled steps, hence behind the same ones
    generalize hcount : 0 + (before.filter Step.enabled).length = count at hending'
    cases hending' with
    | @failed before' rest' step' _ hsteps' henabled' =>
      rw [hsteps, hsteps', List.filter_append, List.filter_append,
        List.filter_cons_of_pos henabled, List.filter_cons_of_pos henabled'] at hsame
      obtain ⟨hbefore, hbehind⟩ := List.append_inj hsame (by omega)
      obtain ⟨rfl, -⟩ := List.cons.inj hbehind
      refine ⟨rfl, h.finish startTime .failed (some failure.message) (some failure.kind) (.inr ?_)⟩
      exact ⟨before, step', rest, before', rest', hsteps, hsteps', henabled, hbefore,
        by rw [Nat.zero_add], by rw [Nat.zero_add]⟩
  | aborted fault =>
    cases hending'
    exact ⟨rfl, .error fault⟩

end Run

namespace Controller

variable {controller : Controller σ} {automation automation' : Automation} {initial : Value}

/-- A run that records no accepted call to stop is called off at none of its moments. -/
theorem quiet_of_events
    (h : ∀ event ∈ (controller.start automation initial).events, event.isCalledOff = false)
    (hidle : controller.phase = .idle) {store : Store}
    (hstore : Store.ofValue initial = .ok store) :
    (Run.moments automation.title.toText 0 (controller.steps automation)
      (controller.launch automation store)).any Moment.callsOff = false := by
  rw [(start_trace controller automation initial).2, moments_of_readable hidle hstore] at h
  rw [List.any_eq_false]
  intro moment hmoment hcalls
  obtain ⟨event, hevent, hcalled⟩ := List.any_eq_true.mp hcalls
  have hquiet := h event (List.mem_flatMap.mpr ⟨moment, hmoment, hevent⟩)
  rw [hcalled] at hquiet
  cases hquiet

/-- **Only the enabled steps that a run accepts make a difference.** Let two automations have the
same enabled steps among those that the controller accepts, let it accept some step of each, and let
nobody call the run off. Then the two runs make the same requests, leave the same variables, world
and phase, and return the same. -/
theorem start_of_same_enabled (huncounted : controller.IsUncounted)
    (hgoing : controller.cancelRequested = false)
    (hquiet : ∀ event ∈ (controller.start automation initial).events, event.isCalledOff = false)
    (hquiet' : ∀ event ∈ (controller.start automation' initial).events, event.isCalledOff = false)
    (hsteps : controller.steps automation ≠ []) (hsteps' : controller.steps automation' ≠ [])
    (hsame : (controller.steps automation').filter Step.enabled =
      (controller.steps automation).filter Step.enabled) :
    (controller.start automation' initial).requests =
        (controller.start automation initial).requests ∧
      (controller.start automation' initial).controller.store =
        (controller.start automation initial).controller.store ∧
      (controller.start automation' initial).controller.world =
        (controller.start automation initial).controller.world ∧
      (controller.start automation' initial).controller.phase =
        (controller.start automation initial).controller.phase ∧
      RunResult.ReturnsSame (controller.steps automation) (controller.steps automation')
        (controller.start automation initial).result
        (controller.start automation' initial).result := by
  by_cases hidle : controller.phase = .idle
  · cases hstore : Store.ofValue initial with
    | error fault =>
      rw [start_of_unreadable hidle hstore, start_of_unreadable hidle hstore]
      exact ⟨rfl, rfl, rfl, rfl, .error fault⟩
    | ok store =>
      -- both loops go abreast of the one over the enabled steps, which are the same
      have hlaunch := Run.Abreast.refl (controller.launch automation store)
      have hlaunch' : (controller.launch automation' store).Abreast
          (controller.launch automation store) :=
        { hlaunch with controller := { hlaunch.controller with } }
      obtain ⟨hending, hafter⟩ := hlaunch.loop huncounted automation.title.toText ""
        0 hgoing (quiet_of_events hquiet hidle hstore)
      obtain ⟨hending', hafter'⟩ := hlaunch'.loop huncounted automation'.title.toText ""
        0 hgoing (quiet_of_events hquiet' hidle hstore)
      rw [hsame] at hending' hafter'
      have habreast := hafter.of_common hafter'
      obtain ⟨hresult, hcontroller, hrequests, -⟩ := start_of_loop hidle hstore hsteps rfl
      obtain ⟨hresult', hcontroller', hrequests', -⟩ := start_of_loop hidle hstore hsteps' rfl
      obtain ⟨hphase, hreturns⟩ := habreast.conclude hsame hending hending' controller.now
      rw [hresult, hresult', hcontroller, hcontroller', hrequests, hrequests']
      exact ⟨habreast.requests, congrArg some habreast.store, habreast.controller.world, hphase,
        hreturns⟩
  · rw [start_of_not_idle hidle, start_of_not_idle hidle]
    exact ⟨rfl, rfl, rfl, rfl, .error _⟩

/-- A controller that can remember a count and break, in a simulated world. -/
def breaking : Controller Simulation.World where
  registry := ⟨[("remember", Steps.scripted { assignments := [("count", .int 5)] }),
    ("broken", Steps.scripted { failure := some (.external "no signal") })]⟩
  platform := ({} : Simulation.Scenario).platform
  world := {}

/-- Remember and break, with a disabled step and one of a type that is not there between them. -/
def crowded : Automation where
  id := "crowded"
  title := .text "Crowded"
  steps := [{ id := "a", type := "remember" },
    { id := "b", type := "broken", enabled := false,
      config := [("url", .text "\x7b\x7bmissing\x7d\x7d")] },
    { id := "c", type := "fax" }, { id := "d", type := "broken" }]

/-- Remember and break. -/
def bare : Automation where
  id := "bare"
  title := .text "Bare"
  steps := [{ id := "a", type := "remember" }, { id := "d", type := "broken" }]

/-- Both break at the step `d`, which is the third one that the first run can take and the second
one of the other. -/
theorem start_of_same_enabled_breaking :
    ∃ result result', (breaking.start crowded .null).result = .ok result ∧
      (breaking.start bare .null).result = .ok result' ∧
      result.failedStep = some 2 ∧ result'.failedStep = some 1 ∧
      result.SaysSame (breaking.steps crowded) (breaking.steps bare) result' := by
  obtain ⟨result, hresult, hindex⟩ := exists_ok_of_map (breaking.start crowded .null).result
    RunResult.failedStep (some 2) (by decide +kernel)
  obtain ⟨result', hresult', hindex'⟩ := exists_ok_of_map (breaking.start bare .null).result
    RunResult.failedStep (some 1) (by decide +kernel)
  obtain ⟨-, -, -, -, hreturns⟩ := @start_of_same_enabled _ breaking crowded bare .null
    (isUncounted_of_no_listener rfl) rfl (by decide +kernel) (by decide +kernel) (by decide)
    (by decide) rfl
  rw [hresult, hresult'] at hreturns
  cases hreturns with
  | ok hsays => exact ⟨result, result', hresult, hresult', hindex, hindex', hsays⟩

end Controller

end Stepwise
