import Stepwise.Proofs.Bindings.Lookup
import Stepwise.Proofs.Execution.Dispatch
import Stepwise.Proofs.Run.Moments

/-! # What persists through a run

A run touches its controller in few places. The work of a step moves the world on; a listener may
call the run off, bind variables and remove handlers. The environment, the settings and the listener
itself stay as they are, and no handler is ever added (`Controller.Persists`).

This holds from each stage of a run to the next one, so it holds at every moment of the run
(`Controller.persists_of_mem_moments`). A listener that is known not to ask for something
(`Controller.IsSpared`) leaves more as it is: all handlers, or all variables. -/

namespace Stepwise

variable {σ : Type}

/-! ## Commands that are not given -/

/-- Whether a command binds a variable. -/
def Command.assigns : Command → Bool
  | assign .. => true
  | _ => false

/-- Whether a command removes a handler. -/
def Command.unregisters : Command → Bool
  | unregister _ => true
  | _ => false

namespace Controller

/-- **A controller is spared some commands** if its listener never asks for them. -/
def IsSpared (asks : Command → Bool) (controller : Controller σ) : Prop :=
  ∀ listener, controller.listener = some listener →
    ∀ notice, ∀ command ∈ listener notice, asks command = false

/-- Without a listener, a controller is spared every command. -/
theorem isSpared_of_no_listener {controller : Controller σ} (h : controller.listener = none)
    (asks : Command → Bool) : controller.IsSpared asks := by
  intro listener hlistener
  rw [h] at hlistener
  cases hlistener

/-- **What persists of a controller** from one point of a run to a later one. -/
structure Persists (earlier later : Controller σ) : Prop where
  /-- The same environment. -/
  platform : later.platform = earlier.platform
  /-- The same settings. -/
  settings : later.settings = earlier.settings
  /-- The same listener. -/
  listener : later.listener = earlier.listener
  /-- No other handlers. -/
  handlers : later.registry.handlers ⊆ earlier.registry.handlers
  /-- The same handlers, unless the listener removes some. -/
  registry : earlier.IsSpared Command.unregisters → later.registry = earlier.registry

namespace Persists

variable {first second third : Controller σ}

/-- All persists when nothing changes. -/
theorem refl (controller : Controller σ) : controller.Persists controller :=
  ⟨rfl, rfl, rfl, List.Subset.refl _, fun _ => rfl⟩

/-- What persists up to some point and from there on persists throughout. -/
theorem trans (h : first.Persists second) (h' : second.Persists third) : first.Persists third where
  platform := h'.platform.trans h.platform
  settings := h'.settings.trans h.settings
  listener := h'.listener.trans h.listener
  handlers := List.Subset.trans h'.handlers h.handlers
  registry := by
    intro hspared
    have hstill : second.IsSpared Command.unregisters :=
      fun listener hlistener => hspared listener (h.listener ▸ hlistener)
    exact (h'.registry hstill).trans (h.registry hspared)

/-- What is left of a built-in registry is left of it later. -/
theorem drawsOnBuiltIn (h : first.Persists second) (hdraws : first.registry.DrawsOnBuiltIn) :
    second.registry.DrawsOnBuiltIn := by
  obtain ⟨source, hsource, hsubset⟩ := hdraws
  exact ⟨source, hsource, List.Subset.trans h.handlers hsubset⟩

/-- What a controller is spared, it is spared later. -/
theorem isSpared (h : first.Persists second) {asks : Command → Bool}
    (hspared : first.IsSpared asks) : second.IsSpared asks :=
  fun listener hlistener => hspared listener (h.listener ▸ hlistener)

end Persists

/-- Calling a run off touches no handler. -/
theorem registry_cancel (controller : Controller σ) :
    controller.cancel.2.1.registry = controller.registry := by
  rw [controller.cancel_spec.2]

end Controller

namespace Run

/-! ## The listener -/

/-- Commands add no handler. -/
theorem handlers_obey (commands : List Command) (run : Run σ) :
    (obey commands run).controller.registry.handlers ⊆ run.controller.registry.handlers := by
  induction commands generalizing run with
  | nil => exact List.Subset.refl _
  | cons command rest ih =>
    cases command with
    | cancel =>
      have hsame : run.controller.cancel.2.1.registry.handlers ⊆
          run.controller.registry.handlers := by
        rw [Controller.registry_cancel]
        exact List.Subset.refl _
      exact List.Subset.trans (ih _) hsame
    | assign name value => exact ih _
    | unregister stepType => exact List.Subset.trans (ih _) (Bindings.erase_subset _ _)
    | restart => exact List.Subset.refl _
    | fail => exact List.Subset.refl _

/-- Commands that remove no handler keep them all. -/
theorem registry_obey {commands : List Command}
    (h : ∀ command ∈ commands, command.unregisters = false) (run : Run σ) :
    (obey commands run).controller.registry = run.controller.registry := by
  induction commands generalizing run with
  | nil => rfl
  | cons command rest ih =>
    obtain ⟨hcommand, hrest⟩ := List.forall_mem_cons.mp h
    cases command with
    | cancel => exact (ih hrest _).trans (Controller.registry_cancel _)
    | assign name value => exact ih hrest _
    | unregister stepType => cases hcommand
    | restart => rfl
    | fail => rfl

/-- Commands that bind no variable keep them all as they are. -/
theorem store_obey {commands : List Command}
    (h : ∀ command ∈ commands, command.assigns = false) (run : Run σ) :
    (obey commands run).store = run.store := by
  induction commands generalizing run with
  | nil => rfl
  | cons command rest ih =>
    obtain ⟨hcommand, hrest⟩ := List.forall_mem_cons.mp h
    cases command with
    | cancel => exact ih hrest _
    | assign name value => cases hcommand
    | unregister stepType => exact ih hrest _
    | restart => rfl
    | fail => rfl

/-- A notice leaves the variables as they are if the listener never binds any. -/
theorem store_notify {run : Run σ} (h : run.controller.IsSpared Command.assigns) (notice : Notice) :
    (run.notify notice).store = run.store := by
  unfold notify
  split
  · rfl
  next listener hlistener => exact store_obey (h listener hlistener notice) _

/-- **A notice** leaves the environment of a run as it is. -/
theorem persists_notify (notice : Notice) (run : Run σ) :
    run.controller.Persists (run.notify notice).controller := by
  obtain ⟨_, _, _, _, _, heq⟩ := notify_eq notice run
  refine ⟨by rw [heq], by rw [heq], by rw [heq], ?_, fun hspared => ?_⟩
  · unfold notify
    split
    · exact List.Subset.refl _
    · exact handlers_obey _ _
  · unfold notify
    split
    · rfl
    next listener hlistener => exact registry_obey (hspared listener hlistener notice) _

/-! ## One step -/

/-- **The work of a step** leaves its environment as it is. -/
theorem persists_work (index : Nat) (step : Step) (run : Run σ) :
    run.controller.Persists (run.work index step).controller := by
  obtain ⟨log, hwork⟩ := work_eq index step run
  have htold := persists_notify (.started index step) run
  rw [hwork]
  exact ⟨htold.platform, htold.settings, htold.listener, htold.handlers, htold.registry⟩

/-- A step that is settled leaves its environment as it is. -/
theorem persists_settle (index : Nat) (step : Step) (durationMs : Int) (run : Run σ) :
    run.controller.Persists (run.settle index step durationMs).controller := by
  obtain ⟨completed, log, hsettle⟩ := settle_eq index step durationMs run
  rw [hsettle]
  exact persists_work index step run

/-- **A step of a list** leaves its environment as it is. -/
theorem persists_take (title : String) (index : Nat) (step : Step) (run : Run σ) :
    run.controller.Persists (run.take title index step).2.controller := by
  unfold take
  split
  · exact .refl _
  · split
    · exact .refl _
    · cases htime : elapsedMs (run.notify (.started index step)).controller.now
          (run.work index step).controller.now with
      | error fault =>
        rw [advance_of_untimed htime]
        exact persists_work index step run
      | ok durationMs =>
        rw [advance_of_timed htime]
        exact (persists_settle index step durationMs run).trans (persists_notify _ _)

/-! ## Every moment -/

/-- The moments of a step find its environment as it was. -/
theorem persists_of_mem_takeMoments {index : Nat} {step : Step} {run : Run σ} {moment : Moment σ}
    (h : moment ∈ run.takeMoments index step) : run.controller.Persists moment.run.controller := by
  have hopening : ∀ moment ∈ ([.told (.started index step) run,
      .dispatched index step (run.notify (.started index step))] : List (Moment σ)),
      run.controller.Persists moment.run.controller := by
    intro moment hmoment
    rw [List.mem_cons, List.mem_singleton] at hmoment
    rcases hmoment with rfl | rfl
    · exact .refl _
    · exact persists_notify _ run
  unfold takeMoments at h
  split at h
  · cases h
  · cases htime : elapsedMs (run.notify (.started index step)).controller.now
        (run.work index step).controller.now with
    | error fault =>
      rw [advanceMoments_of_untimed htime] at h
      exact hopening moment h
    | ok durationMs =>
      rw [advanceMoments_of_timed htime, List.mem_append, List.mem_singleton] at h
      rcases h with h | rfl
      · exact hopening moment h
      · exact persists_settle index step durationMs run

/-- **The moments of the loop** find its environment as it was. -/
theorem persists_of_mem_moments {title : String} {index : Nat} {steps : List Step} {run : Run σ}
    {moment : Moment σ} (h : moment ∈ moments title index steps run) :
    run.controller.Persists moment.run.controller := by
  induction steps generalizing index run with
  | nil => cases h
  | cons step rest ih =>
    obtain ⟨ending, after, heq, -, hmoments⟩ | ⟨after, heq, -, hmoments⟩ :=
      loop_cases title index step rest run
    · rw [hmoments] at h
      exact persists_of_mem_takeMoments h
    · have htake := persists_take title index step run
      rw [heq] at htake
      rw [hmoments, List.mem_append] at h
      rcases h with h | h
      · exact persists_of_mem_takeMoments h
      · exact htake.trans (ih h)

end Run

/-- **Every moment of a run** finds the environment as it was at the start. -/
theorem Controller.persists_of_mem_moments {controller : Controller σ} {automation : Automation}
    {initial : Value} {moment : Moment σ} (h : moment ∈ controller.moments automation initial) :
    controller.Persists moment.run.controller := by
  unfold moments at h
  split at h
  · split at h
    next store _ =>
      have hlaunch : controller.Persists (controller.launch automation store).controller :=
        ⟨rfl, rfl, rfl, List.Subset.refl _, fun _ => rfl⟩
      exact hlaunch.trans (Run.persists_of_mem_moments h)
    · cases h
  · cases h

end Stepwise
