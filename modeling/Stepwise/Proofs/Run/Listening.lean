import Stepwise.Proofs.Run.Likeness
import Stepwise.Proofs.Run.Persistence

/-! # Listeners that only listen

A listener that binds no variable, removes no handler and does not call the run off makes no
difference to the run, however often it breaks or starts the controller again
(`Controller.start_muted`).

A run and the one that nobody listens to are related by `Run.Mutes`: they differ in the listener,
the events and the notes. That is a likeness (`Run.likeness_mutes`), since a notice to such a
listener changes the events and the notes only (`Run.notify_of_spared`). -/

namespace Stepwise

variable {σ : Type}

/-- Whether a command changes anything of the run, if it is obeyed. -/
def Command.meddles : Command → Bool
  | cancel | assign .. | unregister _ => true
  | restart | fail => false

namespace Controller

/-- A controller without its listener. -/
def muted (controller : Controller σ) : Controller σ := { controller with listener := none }

end Controller

namespace Run

/-! ## What such a listener does -/

/-- Commands that do not meddle leave notes at most. -/
theorem obey_of_spared {commands : List Command}
    (h : ∀ command ∈ commands, command.meddles = false) (run : Run σ) :
    ∃ log, obey commands run = { run with log } := by
  cases commands with
  | nil => exact ⟨run.log, rfl⟩
  | cons command rest =>
    have hcommand := h command List.mem_cons_self
    cases command with
    | cancel => cases hcommand
    | assign name value => cases hcommand
    | unregister stepType => cases hcommand
    | restart => exact ⟨_, rfl⟩
    | fail => exact ⟨_, rfl⟩

/-- **A notice to a listener that does not meddle** changes the events and the notes only. -/
theorem notify_of_spared {run : Run σ} (h : run.controller.IsSpared Command.meddles)
    (notice : Notice) : ∃ events log, run.notify notice = { run with events, log } := by
  unfold notify
  split
  · exact ⟨run.events, run.log, rfl⟩
  next listener hlistener =>
    obtain ⟨log, hobey⟩ := obey_of_spared (h listener hlistener notice)
      (run.emit (notice.event run.controller.isRunning))
    exact ⟨_, log, hobey⟩

/-- Nothing is told where there is no listener. -/
theorem notify_of_no_listener {run : Run σ} (h : run.controller.listener = none)
    (notice : Notice) : run.notify notice = run := by
  unfold notify
  rw [h]

/-! ## The likeness -/

/-- **A run and the one that nobody listens to**: they differ in the listener, which does not
meddle, and in what is recorded of telling it. -/
def Mutes (run muted : Run σ) : Prop :=
  run.controller.IsSpared Command.meddles ∧
    ∃ events log, muted = { run with controller := run.controller.muted, events, log }

/-- **Nobody need listen**: whatever is done to both runs, they differ no more than that. -/
theorem likeness_mutes : Likeness (fun _ => True) (Mutes (σ := σ)) where
  agrees := by
    rintro run _ ⟨-, events, log, rfl⟩
    exact ⟨rfl, rfl, rfl, rfl, rfl⟩
  notes := by
    rintro run _ ⟨hspared, events, log, rfl⟩ _ log'
    exact ⟨hspared, events, log', rfl⟩
  record := by
    rintro run _ ⟨hspared, events, log, rfl⟩ result
    exact ⟨hspared, events, log, rfl⟩
  count := by
    rintro run _ ⟨hspared, events, log, rfl⟩
    exact ⟨hspared, events, log, rfl⟩
  notify := by
    rintro run _ ⟨hspared, events, log, rfl⟩ notice
    obtain ⟨events', log', htold⟩ := notify_of_spared hspared notice
    rw [htold, notify_of_no_listener rfl]
    exact ⟨hspared, events, log, rfl⟩
  perform := by
    -- a step cannot see whether somebody listens
    rintro run _ ⟨hspared, events, log, rfl⟩ step -
    exact ⟨rfl, hspared, events, _, rfl⟩

end Run

/-! ## Whole runs -/

/-- Outcomes of runs that differ in who listens differ in that only. -/
theorem StartOutcome.Alike.muted {controller : Controller σ} {outcome outcome' : StartOutcome σ}
    (h : Alike Run.Mutes controller controller.muted outcome outcome') :
    outcome'.result = outcome.result ∧ outcome'.requests = outcome.requests ∧
      outcome'.controller = outcome.controller.muted := by
  cases h with
  | refused fault phase => exact ⟨rfl, rfl, rfl⟩
  | closed h phase result =>
    obtain ⟨-, events, log, rfl⟩ := h
    exact ⟨rfl, rfl, rfl⟩

namespace Controller

/-- **A listener that does not meddle makes no difference.** Let it break or start the controller
again as often as it likes, but never call the run off, bind a variable or remove a handler. Then
the run makes the same requests as without it, returns the same, and leaves the controller as it is
left without it, with the same variables, world and phase. Whenever something is told, the
controller refuses to be started again, and stays as it is. -/
theorem start_muted {controller : Controller σ} (hspared : controller.IsSpared Command.meddles)
    (automation : Automation) (initial : Value) :
    (controller.muted.start automation initial).result =
        (controller.start automation initial).result ∧
      (controller.muted.start automation initial).requests =
        (controller.start automation initial).requests ∧
      (controller.muted.start automation initial).controller =
        (controller.start automation initial).controller.muted ∧
      ∀ moment ∈ controller.moments automation initial, ∀ other values,
        moment.run.controller.start other values =
          { result := .error (.controllerUsed "running"), controller := moment.run.controller } := by
  have hphase : controller.muted.phase = controller.phase := rfl
  have hsteps : controller.muted.steps automation = controller.steps automation := rfl
  have hlaunch : ∀ store, Run.Mutes (controller.launch automation store)
      (controller.muted.launch automation store) :=
    fun store => ⟨hspared, [], _, rfl⟩
  obtain ⟨halike, -⟩ :=
    Run.likeness_mutes.start hphase hlaunch hsteps (fun _ _ _ => trivial) initial
  obtain ⟨hresult, hrequests, hcontroller⟩ := halike.muted
  refine ⟨hresult, hrequests, hcontroller, ?_⟩
  intro moment hmoment other values
  have hrunning := phase_of_mem_moments hmoment
  have hused : moment.run.controller.phase ≠ .idle := by
    rw [hrunning]
    exact nofun
  rw [start_of_not_idle hused, hrunning]
  rfl

/-- A device with everything wired, followed by a listener that breaks or starts the controller
again whatever it is told. -/
def pestered : Controller Simulation.World where
  registry := .device
  platform := ({} : Simulation.Scenario).platform
  world := {}
  listener := some fun
    | .started .. => [.fail]
    | .completed .. => [.restart]
    | .failed .. => [.restart, .fail]

/-- Bind a number, call it, and call none. -/
def dialing : Automation where
  id := "dialing"
  title := .text "Dialing"
  steps := [
    { id := "a", type := "set-variable"
      config := [("name", .text "number"), ("value", .text "+1555")] },
    { id := "b", type := "call", config := [("phoneNumber", .text "\x7b\x7bnumber\x7d\x7d")] },
    { id := "c", type := "call", config := [("phoneNumber", .text " ")] }]

/-- The listener is told six times. The run makes one request and fails at its third step, as it
does without the listener. -/
theorem start_muted_dialing :
    ∃ result, (pestered.start dialing .null).result = .ok result ∧ result.failedStep = some 2 ∧
      (pestered.start dialing .null).events.length = 6 ∧
      (pestered.muted.start dialing .null).result = .ok result ∧
      (pestered.muted.start dialing .null).requests.length = 1 := by
  obtain ⟨result, hresult, hfailed⟩ := exists_ok_of_map (pestered.start dialing .null).result
    RunResult.failedStep (some 2) (by decide +kernel)
  have hspared : pestered.IsSpared Command.meddles := by
    rintro listener ⟨rfl⟩ notice command hcommand
    cases notice with
    | started index step =>
      rw [List.mem_singleton.mp hcommand]
      rfl
    | completed index entry =>
      rw [List.mem_singleton.mp hcommand]
      rfl
    | failed index message =>
      rcases List.mem_cons.mp hcommand with rfl | hlast
      · rfl
      · rw [List.mem_singleton.mp hlast]
        rfl
  have hcalls : (pestered.start dialing .null).requests.length = 1 := by decide +kernel
  obtain ⟨hsame, hrequests, -⟩ := start_muted hspared dialing .null
  exact ⟨result, hresult, hfailed, by decide +kernel, hsame.trans hresult, hrequests ▸ hcalls⟩

end Controller

end Stepwise
