import Stepwise.Proofs.Bindings.History
import Stepwise.Proofs.Run.Shortfall

/-! # Registries under any sequence of registrations

Handlers may be registered and unregistered in any order. A registry then has, for each step type,
the handler that was registered for it last, unless the type was unregistered after that, and the
types stand in the order in which they came to be registered (`Registry.Tells`).

The capabilities of such a registry are what it can do on a platform: the types whose handler is
equipped (`Registry.Serves`). As the steps of a run are chosen by these capabilities, every step
that is dispatched has a handler, as long as the registry stays as it was: if it fails, it fails of
its own (`Registry.FailsOwn`). `Registry.performAll_tells` puts all this together. -/

namespace Stepwise

variable {σ : Type}

namespace Registry

open History

/-! ## Operations -/

/-- A call that changes a registry. -/
inductive Operation (σ : Type) where
  /-- Register a handler for its step type. -/
  | register (handler : Handler σ)
  /-- Remove the handler of a step type. -/
  | unregister (stepType : String)

/-- What an operation changes: a handler without a step type is refused. -/
def Operation.changes : Operation σ → History (Handler σ)
  | register handler => if handler.stepType = "" then [] else [.bound handler.stepType handler]
  | unregister stepType => [.removed stepType]

/-- The registry after an operation; what is refused leaves it. -/
def perform (registry : Registry σ) : Operation σ → Registry σ
  | .register handler =>
    match registry.register handler with
    | .ok changed => changed
    | .error _ => registry
  | .unregister stepType => registry.unregister stepType

/-- The registry after some operations. -/
def performAll (registry : Registry σ) (operations : List (Operation σ)) : Registry σ :=
  operations.foldl perform registry

/-- The history of a registry to which some operations were done: its handlers were registered one
after the other. -/
def historyAfter (registry : Registry σ) (operations : List (Operation σ)) : History (Handler σ) :=
  operations.foldl (fun history operation => operation.changes ++ history)
    (ofBindings registry.handlers)

/-- **A registry as it can be built**: its step types are distinct, and each has a handler of that
type. -/
structure IsKeyed (registry : Registry σ) : Prop where
  /-- The step types are distinct. -/
  distinct : registry.stepTypes.Nodup
  /-- A handler is registered under its own step type. -/
  stepType_eq {stepType : String} {handler : Handler σ}
    (hget : registry.get? stepType = some handler) : handler.stepType = stepType

/-- **A registry tells a history**: what it holds is what the history says. -/
structure Tells (registry : Registry σ) (history : History (Handler σ)) : Prop where
  /-- The step types are distinct. -/
  distinct : registry.stepTypes.Nodup
  /-- The size is their number. -/
  size_eq : registry.size = registry.stepTypes.length
  /-- They are those that were registered and not unregistered after that. -/
  mem_stepTypes_iff : ∀ stepType,
    stepType ∈ registry.stepTypes ↔ (history.value? stepType).isSome = true
  /-- They stand in the order in which they came to be registered. -/
  ordered : registry.stepTypes.Pairwise history.Precedes
  /-- The handler of a step type is the one registered for it last. -/
  get?_eq : ∀ stepType, registry.get? stepType = history.value? stepType
  /-- It is a handler of that type. -/
  stepType_eq : ∀ stepType handler, registry.get? stepType = some handler →
    handler.stepType = stepType

/-- **How a registry takes a handler.** -/
structure Takes (registry : Registry σ) (handler : Handler σ) : Prop where
  /-- One without a step type is refused, and nothing changes. -/
  refused : handler.stepType = "" →
    registry.register handler = .error (.untypedHandler handler.name) ∧
      registry.perform (.register handler) = registry
  /-- One for a step type that is registered takes the place of the one before. -/
  replaced : handler.stepType ≠ "" → handler.stepType ∈ registry.stepTypes →
    (registry.perform (.register handler)).stepTypes = registry.stepTypes
  /-- One for a step type that is unregistered first comes last. -/
  moved : handler.stepType ≠ "" →
    ((registry.perform (.unregister handler.stepType)).perform (.register handler)).stepTypes =
      registry.stepTypes.erase handler.stepType ++ [handler.stepType]

/-- **A step fails of its own**: its configuration cannot be resolved, or its handler refuses it or
fails to perform it. -/
inductive FailsOwn (controller : Controller σ) (step : Step) (handler : Handler σ) (store : Store)
    (world : σ) (fault : Fault) : Prop
  /-- A reference cannot be looked up. -/
  | unresolved (hconfig : Template.resolveFields store step.config = .error fault)
  /-- The handler refuses the configuration. -/
  | refused {config : Fields} (hconfig : Template.resolveFields store step.config = .ok config)
      (hvalid : handler.validate config = .error fault)
  /-- The handler fails. -/
  | performed {config : Fields} (hconfig : Template.resolveFields store step.config = .ok config)
      (hvalid : handler.validate config = .ok ())
      (hfails : ((handler.execute config ⟨controller.platform, controller.settings, step⟩).run store
        world).result = .error fault)

/-- **What a registry can do.** -/
structure Serves (registry : Registry σ) : Prop where
  /-- The capabilities on a platform are the step types whose handler is equipped there. -/
  mem_capabilities_iff : ∀ platform stepType, stepType ∈ registry.capabilities platform ↔
    ∃ handler, registry.get? stepType = some handler ∧ handler.IsEquipped platform
  /-- With more collaborators there are no fewer capabilities. -/
  capabilities_mono : ∀ platform platform' : Platform σ,
    (∀ c, platform.wired c = true → platform'.wired c = true) →
      registry.capabilities platform ⊆ registry.capabilities platform'
  /-- A run that chooses its steps by the capabilities finds a handler for each step that it
  dispatches, if the registry stays as it is: if the step fails, then of its own. -/
  finds : ∀ (controller : Controller σ) (automation : Automation) (initial : Value),
    controller.registry = registry → controller.capabilities = none →
    (∀ moment ∈ controller.moments automation initial,
      moment.run.controller.registry = registry) →
    ∀ index step run, .dispatched index step run ∈ controller.moments automation initial →
      ∃ handler, run.controller.registry.get? step.type = some handler ∧
        FailsOnly (FailsOwn run.controller step handler run.store run.controller.world)
          ((Run.dispatch run.controller step).run run.store run.controller.world).result

/-! ## One operation -/

variable {registry : Registry σ} {history : History (Handler σ)}

/-- A handler with a step type is registered. -/
theorem register_of_ne {handler : Handler σ} (h : handler.stepType ≠ "") (registry : Registry σ) :
    registry.perform (.register handler) = ⟨registry.handlers.put handler.stepType handler⟩ := by
  rw [perform, register, if_neg h]

/-- A handler without a step type is refused. -/
theorem register_of_eq {handler : Handler σ} (h : handler.stepType = "") (registry : Registry σ) :
    registry.register handler = .error (.untypedHandler handler.name) ∧
      registry.perform (.register handler) = registry := by
  rw [perform, register, if_pos h]
  exact ⟨rfl, rfl⟩

/-- **An operation is recounted.** -/
theorem perform_recounts (h : registry.handlers.Recounts history) (operation : Operation σ) :
    (registry.perform operation).handlers.Recounts (operation.changes ++ history) := by
  cases operation with
  | register handler =>
    rw [Operation.changes]
    split
    next hempty =>
      rw [(register_of_eq hempty registry).2]
      exact h
    next hne =>
      rw [register_of_ne hne]
      exact h.bound handler.stepType handler
  | unregister stepType => exact h.removed stepType

/-- **An operation keeps every handler under its own step type.** -/
theorem IsKeyed.perform (h : registry.IsKeyed) (operation : Operation σ) :
    (registry.perform operation).IsKeyed := by
  cases operation with
  | register handler =>
    by_cases hempty : handler.stepType = ""
    · rw [(register_of_eq hempty registry).2]
      exact h
    · rw [register_of_ne hempty]
      -- only the type that is registered has another handler than before
      refine ⟨Bindings.nodup_names_put h.distinct _ _, fun {stepType found} hget => ?_⟩
      by_cases heq : handler.stepType = stepType
      · subst heq
        rw [get?, Bindings.find?_put] at hget
        rw [Option.some.inj hget]
      · rw [get?, Bindings.find?_put_ne heq] at hget
        exact h.stepType_eq hget
  | unregister removed =>
    refine ⟨Bindings.nodup_names_erase h.distinct removed, fun {stepType found} hget => ?_⟩
    by_cases heq : removed = stepType
    · subst heq
      cases (Bindings.find?_erase_self h.distinct removed).symm.trans hget
    · exact h.stepType_eq ((Bindings.find?_erase_ne heq registry.handlers).symm.trans hget)

/-- How a registry with distinct step types takes a handler. -/
theorem takes (hdistinct : registry.stepTypes.Nodup) (handler : Handler σ) :
    registry.Takes handler where
  refused := fun hempty => register_of_eq hempty registry
  replaced := by
    intro hne hmem
    rw [register_of_ne hne, stepTypes, Bindings.names_put]
    exact if_pos hmem
  moved := by
    intro hne
    have hremoved : handler.stepType ∉ (registry.unregister handler.stepType).handlers.names := by
      rw [unregister, Bindings.names_erase]
      exact hdistinct.not_mem_erase
    rw [register_of_ne hne, stepTypes, Bindings.names_put]
    show (if handler.stepType ∈ (registry.unregister handler.stepType).handlers.names then _
      else _) = _
    rw [if_neg hremoved]
    exact congrArg (· ++ [handler.stepType]) (Bindings.names_erase _ _)

/-! ## Sequences of operations -/

/-- Some operations are recounted. -/
theorem performAll_recounts (h : registry.IsKeyed) (operations : List (Operation σ)) :
    (registry.performAll operations).handlers.Recounts (registry.historyAfter operations) := by
  -- by induction on the operations, from any registry that recounts any history
  have hstep : ∀ (operations : List (Operation σ)) (registry : Registry σ) history,
      registry.handlers.Recounts history →
        (registry.performAll operations).handlers.Recounts
          (operations.foldl (fun history operation => operation.changes ++ history) history) := by
    intro operations
    induction operations with
    | nil => exact fun _ _ hrecounts => hrecounts
    | cons operation rest ih =>
      exact fun registry history hrecounts => ih _ _ (perform_recounts hrecounts operation)
  exact hstep operations registry _ (Bindings.recounts_ofBindings h.distinct)

/-- Some operations keep every handler under its own step type. -/
theorem IsKeyed.performAll (h : registry.IsKeyed) (operations : List (Operation σ)) :
    (registry.performAll operations).IsKeyed := by
  induction operations generalizing registry with
  | nil => exact h
  | cons operation rest ih => exact ih (h.perform operation)

/-- The built-in registries are as they can be built. -/
theorem IsBuiltIn.isKeyed (h : registry.IsBuiltIn) : registry.IsKeyed :=
  ⟨h.nodup_names, fun hget => h.stepType_eq hget⟩

end Registry

/-! ## Runs -/

/-- The steps that are dispatched are among those of the loop. -/
theorem Run.mem_steps_of_dispatched {title : String} {index called : Nat} {steps : List Step}
    {step : Step} {run before : Run σ}
    (h : .dispatched called step before ∈ moments title index steps run) : step ∈ steps := by
  induction steps generalizing index run with
  | nil => cases h
  | cons next rest ih =>
    have hhere : .dispatched called step before ∈ run.takeMoments index next →
        step ∈ next :: rest := by
      intro htake
      unfold takeMoments at htake
      split at htake
      · cases htake
      · rw [(dispatched_mem_advanceMoments.mp htake).2.1]
        exact List.mem_cons_self
    obtain ⟨ending, after, -, -, hmoments⟩ | ⟨after, -, -, hmoments⟩ :=
      loop_cases title index next rest run
    · rw [hmoments] at h
      exact hhere h
    · rw [hmoments, List.mem_append] at h
      rcases h with h | h
      · exact hhere h
      · exact List.mem_cons_of_mem _ (ih h)

/-- The steps that a run dispatches are those that it accepts. -/
theorem Controller.mem_steps_of_dispatched {controller : Controller σ} {automation : Automation}
    {initial : Value} {index : Nat} {step : Step} {run : Run σ}
    (h : .dispatched index step run ∈ controller.moments automation initial) :
    step ∈ controller.steps automation := by
  unfold moments at h
  split at h
  · split at h
    · exact Run.mem_steps_of_dispatched h
    · cases h
  · cases h

namespace Registry

variable {registry : Registry σ}

/-- **A step that has a handler** fails of its own, if it fails. -/
theorem dispatch_failsOwn {controller : Controller σ} {step : Step} {handler : Handler σ}
    (hget : controller.registry.get? step.type = some handler) (store : Store) (world : σ) :
    FailsOnly (FailsOwn controller step handler store world)
      ((Run.dispatch controller step).run store world).result := by
  intro fault hfault
  have hdispatch := Run.dispatchesTo controller step store world
  -- of the ways to dispatch a step only the one without a handler is excluded
  generalize (Run.dispatch controller step).run store world = outcome at hdispatch hfault
  cases hdispatch with
  | unknown hnone => cases hget.symm.trans hnone
  | unresolved hconfig =>
    obtain rfl := Except.error.inj hfault
    exact .unresolved hconfig
  | refused hfound hconfig hvalid =>
    obtain rfl := Option.some.inj (hget.symm.trans hfound)
    obtain rfl := Except.error.inj hfault
    exact .refused hconfig hvalid
  | performed hfound hconfig hvalid =>
    obtain rfl := Option.some.inj (hget.symm.trans hfound)
    exact .performed hconfig hvalid (map_eq_error_iff.mp hfault)

/-- What a registry with distinct step types can do. -/
theorem serves (hdistinct : registry.stepTypes.Nodup) : registry.Serves where
  mem_capabilities_iff := fun _ _ => mem_capabilities hdistinct
  capabilities_mono := by
    intro platform platform' hmore stepType hmem
    obtain ⟨handler, hget, hequipped⟩ := (mem_capabilities hdistinct).mp hmem
    refine (mem_capabilities hdistinct).mpr ⟨handler, hget, fun name hname => ?_⟩
    obtain ⟨c, hc, hwired⟩ := hequipped name hname
    exact ⟨c, hc, hmore c hwired⟩
  finds := by
    rintro controller automation initial rfl hdefault hkept index step run hdispatched
    -- the filter has found a handler, and it is looked up again in the same registry
    obtain ⟨handler, hget, -⟩ := Controller.equipped_of_mem_steps hdistinct hdefault
      (Controller.mem_steps_of_dispatched hdispatched)
    have hsame : run.controller.registry = controller.registry := hkept _ hdispatched
    rw [← hsame] at hget
    exact ⟨handler, hget, dispatch_failsOwn hget run.store run.controller.world⟩

/-- **A registry under any sequence of registrations.** Let a registry start as it can be built.
After any registrations and removals it holds what its history says, takes every handler as it
should, and can do what the collaborators of a platform allow; and a run by its capabilities never
wants for a handler. -/
theorem performAll_tells (h : registry.IsKeyed) (operations : List (Operation σ)) :
    (registry.performAll operations).Tells (registry.historyAfter operations) ∧
      (∀ handler, (registry.performAll operations).Takes handler) ∧
      (registry.performAll operations).Serves := by
  have hrecounts := performAll_recounts h operations
  have hkeyed := h.performAll operations
  refine ⟨⟨hkeyed.distinct, (List.length_map Prod.fst).symm, fun stepType => ?_, hrecounts.ordered,
    hrecounts.find?, fun _ _ => hkeyed.stepType_eq⟩, takes hkeyed.distinct, serves hkeyed.distinct⟩
  rw [Option.isSome_iff_exists]
  exact hrecounts.mem_names_iff

/-- The handler of mails is removed from the registry of a browser and registered again, and then
the one of pauses is registered once more; a handler without a step type is refused. Mails come last
then, and pauses stay where they were. -/
theorem performAll_tells_moved :
    let operations : List (Operation Unit) := [.unregister "email", .register Steps.mail,
      .register Steps.delay, .register { (Steps.loop : Handler Unit) with stepType := "" }]
    let changed := browser.performAll operations
    (browser : Registry Unit).IsKeyed ∧ changed.Tells (browser.historyAfter operations) ∧
      (∀ handler, changed.Takes handler) ∧ changed.Serves ∧
      changed.stepTypes = ["notification", "delay", "set-variable", "get-variable", "text-op",
        "math-op", "sms", "call", "open-url", "location", "clipboard", "open-app", "email"] := by
  intro operations changed
  have hkeyed : (browser : Registry Unit).IsKeyed := IsBuiltIn.isKeyed (.inr rfl)
  obtain ⟨htells, htakes, hserves⟩ := performAll_tells hkeyed operations
  exact ⟨hkeyed, htells, htakes, hserves, by decide⟩

end Registry

end Stepwise
