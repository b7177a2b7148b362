import Stepwise.Proofs.Bindings.Lookup
import Stepwise.Proofs.Execution.Restraint
import Stepwise.Run

/-! # The work of one step

A step is dispatched in stages: its handler is found, its configuration is resolved and checked, and
then the handler performs it. Up to that point nothing happens but that notes are left
(`Action.Reads`), so there are three outcomes (`Run.DispatchesTo`): there is no handler, the
configuration is refused, or the step is performed.

The rest says what follows for the handlers of a built-in registry, and for what is left of them
when some were removed (`Registry.DrawsOnBuiltIn`): which steps bind variables
(`Run.store_dispatch`, `Run.dispatch_setVariable`) and how a step fails (`Run.dispatch_failsAt`). -/

namespace Stepwise

/-! ## Actions that only look -/

variable {σ α β : Type}

/-- **An action looks up a value**: it gives the value and leaves the store and the world as they
are, without any request. -/
def Action.Reads (action : Action σ α) (store : Store) (world : σ) (value : α) : Prop :=
  ∃ log, action.run store world = { result := .ok value, store, world, log }

namespace Action.Reads

variable {store : Store} {world : σ}

/-- Giving a value. -/
theorem pure (value : α) : (pure value : Action σ α).Reads store world value := ⟨[], rfl⟩

/-- Giving the value of a computation that has one. -/
theorem lift {result : Except Fault α} {value : α} (h : result = .ok value) :
    (liftM result : Action σ α).Reads store world value := by
  subst h
  exact ⟨[], rfl⟩

/-- Looking at the store. -/
theorem getStore : (getStore : Action σ Store).Reads store world store := ⟨[], rfl⟩

/-- Leaving a note. -/
theorem note (entry : Note) : (note entry : Action σ Unit).Reads store world () := ⟨[entry], rfl⟩

/-- **Behind a look** an action goes on as if there had been none, but for the notes. -/
theorem run_bind {first : Action σ α} {a : α} (h : first.Reads store world a)
    (next : α → Action σ β) :
    ∃ log, (first >>= next).run store world = { (next a).run store world with log } := by
  obtain ⟨log, hfirst⟩ := h
  refine ⟨log ++ ((next a).run store world).log, ?_⟩
  rw [run_bind_ok (by rw [hfirst]), hfirst]
  rfl

/-- One look after the other. -/
theorem bind {first : Action σ α} {next : α → Action σ β} {a : α} {b : β}
    (h : first.Reads store world a) (hnext : (next a).Reads store world b) :
    (first >>= next).Reads store world b := by
  obtain ⟨log, hrun⟩ := h.run_bind next
  obtain ⟨log', hlater⟩ := hnext
  exact ⟨log, by rw [hrun, hlater]⟩

/-- Leaving a note for each name. -/
theorem notes (entry : String → Note) (names : List String) :
    (names.forM fun name => Action.note (σ := σ) (entry name)).Reads store world () := by
  induction names with
  | nil => exact pure ()
  | cons name rest ih => exact (note (entry name)).bind ih

end Action.Reads

/-- **What an action comes to**, but for the notes that it leaves. -/
def Action.ComesTo (action : Action σ α) (store : Store) (world : σ) (outcome : Outcome σ α) :
    Prop :=
  ∃ log, action.run store world = { outcome with log }

/-- Behind a look an action comes to what it would have come to without. -/
theorem Action.Reads.comesTo_bind {store : Store} {world : σ} {first : Action σ α}
    {next : α → Action σ β} {a : α} {outcome : Outcome σ β} (h : first.Reads store world a)
    (hnext : (next a).ComesTo store world outcome) :
    (first >>= next).ComesTo store world outcome := by
  obtain ⟨log, hrun⟩ := h.run_bind next
  obtain ⟨log', hlater⟩ := hnext
  exact ⟨log, by rw [hrun, hlater]⟩

/-- **A call with no request behind it** comes to what is made of the answer. -/
theorem Action.comesTo_call_bind {platform : Platform σ} {attempt : String} {request : Request}
    {next : request.Reply → Action σ β} {store : Store} {world world' : σ}
    {answer : Except Fault request.Reply} {result : Except Fault β}
    (hanswer : platform.answer request world = (answer, world'))
    (herror : ∀ fault, answer = .error fault → result = .error (fault.ofCall attempt))
    (hok : ∀ reply, answer = .ok reply →
      (next reply).ComesTo store world' { result, store, world := world' }) :
    (Action.call platform attempt request >>= next).ComesTo store world
      { result, store, world := world', requests := [request] } := by
  have hcall := Action.run_call platform attempt request store world
  rw [hanswer] at hcall
  cases answer with
  | error fault =>
    refine ⟨[], ?_⟩
    rw [run_bind_error (congrArg Outcome.result hcall), hcall, herror fault rfl]
  | ok reply =>
    obtain ⟨log, hlater⟩ := hok reply rfl
    refine ⟨log, ?_⟩
    rw [run_bind_ok (congrArg Outcome.result hcall), hcall]
    dsimp only
    rw [hlater]
    rfl

/-- Wrapping up the value of an action. -/
theorem Action.run_bind_pure (action : Action σ α) (wrap : α → β) (store : Store) (world : σ) :
    (action >>= fun value => Pure.pure (wrap value)).run store world =
      { action.run store world with result := (action.run store world).result.map wrap } := by
  cases hresult : (action.run store world).result with
  | error fault =>
    rw [run_bind_error hresult]
    rfl
  | ok value =>
    rw [run_bind_ok hresult]
    simp only [run_pure, List.append_nil]
    rfl

/-! ## Dispatching a step -/

namespace Run

variable {controller : Controller σ} {step : Step} {store : Store} {world : σ}

/-- **What dispatching a step comes to**, but for the notes. -/
inductive DispatchesTo (controller : Controller σ) (step : Step) (store : Store) (world : σ) :
    Outcome σ Value → Prop
  /-- There is no handler for the step. -/
  | unknown {log : List Note} (hget : controller.registry.get? step.type = none) :
      DispatchesTo controller step store world
        { result := .error (.unsupported "a handler" (some step.type)), store, world, log }
  /-- A reference cannot be looked up. -/
  | unresolved {fault : Fault} {log : List Note}
      (hconfig : Template.resolveFields store step.config = .error fault) :
      DispatchesTo controller step store world { result := .error fault, store, world, log }
  /-- The handler refuses the configuration. -/
  | refused {handler : Handler σ} {config : Fields} {fault : Fault} {log : List Note}
      (hget : controller.registry.get? step.type = some handler)
      (hconfig : Template.resolveFields store step.config = .ok config)
      (hvalid : handler.validate config = .error fault) :
      DispatchesTo controller step store world { result := .error fault, store, world, log }
  /-- The handler performs the step; a report that counts as false is replaced by an empty one. -/
  | performed {handler : Handler σ} {config : Fields} {log : List Note}
      (hget : controller.registry.get? step.type = some handler)
      (hconfig : Template.resolveFields store step.config = .ok config)
      (hvalid : handler.validate config = .ok ()) :
      DispatchesTo controller step store world
        { (handler.execute config ⟨controller.platform, controller.settings, step⟩).run store
            world with
          result :=
            ((handler.execute config ⟨controller.platform, controller.settings, step⟩).run store
              world).result.map (·.orElse (.object []))
          log }

namespace DispatchesTo

/-- The notes do not matter. -/
theorem withLog {outcome : Outcome σ Value} (h : DispatchesTo controller step store world outcome)
    (log : List Note) : DispatchesTo controller step store world { outcome with log } := by
  cases h with
  | unknown hget => exact .unknown hget
  | unresolved hconfig => exact .unresolved hconfig
  | refused hget hconfig hvalid => exact .refused hget hconfig hvalid
  | performed hget hconfig hvalid => exact .performed hget hconfig hvalid

/-- A look before does not matter. -/
theorem of_reads {first : Action σ α} {next : α → Action σ Value} {a : α}
    (h : first.Reads store world a)
    (hnext : DispatchesTo controller step store world ((next a).run store world)) :
    DispatchesTo controller step store world ((first >>= next).run store world) := by
  obtain ⟨log, hrun⟩ := h.run_bind next
  rw [hrun]
  exact hnext.withLog log

end DispatchesTo

/-- **A step is dispatched** in one of these ways. -/
theorem dispatchesTo (controller : Controller σ) (step : Step) (store : Store) (world : σ) :
    DispatchesTo controller step store world ((dispatch controller step).run store world) := by
  unfold dispatch
  cases hget : controller.registry.get? step.type with
  | none => exact .unknown hget
  | some handler =>
    refine .of_reads .getStore ?_
    refine .of_reads (.notes _ _) ?_
    cases hconfig : Template.resolveFields store step.config with
    | error fault => exact .unresolved hconfig
    | ok config =>
      refine .of_reads (.lift rfl) ?_
      cases hvalid : handler.validate config with
      | error fault => exact .refused hget hconfig hvalid
      | ok _ =>
        refine .of_reads (.lift rfl) ?_
        rw [Action.run_bind_pure]
        exact .performed hget hconfig hvalid

end Run

/-- **A step whose configuration is resolved and accepted** is performed. -/
theorem Run.dispatch_of_valid {controller : Controller σ} {step : Step} {handler : Handler σ}
    (hget : controller.registry.get? step.type = some handler) {store : Store} {config : Fields}
    (hconfig : Template.resolveFields store step.config = .ok config)
    (hvalid : handler.validate config = .ok ()) (world : σ) :
    let performed :=
      (handler.execute config ⟨controller.platform, controller.settings, step⟩).run store world
    ∃ log, (dispatch controller step).run store world =
      { performed with result := performed.result.map (·.orElse (.object [])), log } := by
  intro performed
  have hdispatch := dispatchesTo controller step store world
  generalize (dispatch controller step).run store world = outcome at hdispatch ⊢
  cases hdispatch with
  | unknown hnone => cases hget.symm.trans hnone
  | unresolved hunresolved => cases hconfig.symm.trans hunresolved
  | refused hfound hresolved hinvalid =>
    obtain rfl := Option.some.inj (hget.symm.trans hfound)
    obtain rfl := Except.ok.inj (hconfig.symm.trans hresolved)
    cases hvalid.symm.trans hinvalid
  | performed hfound hresolved hvalid' =>
    obtain rfl := Option.some.inj (hget.symm.trans hfound)
    obtain rfl := Except.ok.inj (hconfig.symm.trans hresolved)
    exact ⟨_, rfl⟩

/-- **A step that looks up a value** reports it, if its configuration is resolved and accepted. -/
theorem Run.dispatch_reads {controller : Controller σ} {step : Step} {handler : Handler σ}
    (hhandler : controller.registry.get? step.type = some handler) {store : Store} {config : Fields}
    (hconfig : Template.resolveFields store step.config = .ok config)
    (hvalid : handler.validate config = .ok ()) {world : σ} {output : Value}
    (houtput : (handler.execute config ⟨controller.platform, controller.settings, step⟩).Reads
      store world output) :
    (dispatch controller step).Reads store world (output.orElse (.object [])) := by
  obtain ⟨log, hrun⟩ := dispatch_of_valid hhandler hconfig hvalid world
  obtain ⟨log', hperformed⟩ := houtput
  rw [hperformed] at hrun
  exact ⟨log, hrun⟩

/-! ## What is left of a built-in registry -/

namespace Registry

/-- The step types of a built-in registry are distinct. -/
theorem IsBuiltIn.nodup_names {registry : Registry σ} (h : registry.IsBuiltIn) :
    registry.handlers.names.Nodup := by
  rcases h with ⟨edition, rfl⟩ | rfl
  · have hnames : (device edition : Registry σ).handlers.names =
        (device : Registry Unit).stepTypes := rfl
    rw [hnames]
    decide
  · have hnames : (browser : Registry σ).handlers.names = (browser : Registry Unit).stepTypes := rfl
    rw [hnames]
    decide

/-- The built-in handler of `set-variable` steps. -/
theorem IsBuiltIn.get?_setVariable {registry : Registry σ} (h : registry.IsBuiltIn) :
    registry.get? "set-variable" = some Steps.setVariable := by
  rcases h with ⟨edition, rfl⟩ | rfl
  · rfl
  · rfl

/-- The built-in handler of `location` steps. -/
theorem IsBuiltIn.get?_location {registry : Registry σ} (h : registry.IsBuiltIn) :
    registry.get? "location" = some Steps.location := by
  rcases h with ⟨edition, rfl⟩ | rfl
  · rfl
  · rfl

/-- **A registry draws on a built-in one** if it has no other handlers. -/
def DrawsOnBuiltIn (registry : Registry σ) : Prop :=
  ∃ source : Registry σ, source.IsBuiltIn ∧ registry.handlers ⊆ source.handlers

/-- A built-in registry draws on itself. -/
theorem IsBuiltIn.drawsOnBuiltIn {registry : Registry σ} (h : registry.IsBuiltIn) :
    registry.DrawsOnBuiltIn :=
  ⟨registry, h, List.Subset.refl _⟩

/-- What is found there is found in the built-in registry. -/
theorem DrawsOnBuiltIn.get? {registry : Registry σ} (h : registry.DrawsOnBuiltIn)
    {stepType : String} {handler : Handler σ} (hget : registry.get? stepType = some handler) :
    ∃ source : Registry σ, source.IsBuiltIn ∧ source.get? stepType = some handler := by
  obtain ⟨source, hsource, hsubset⟩ := h
  exact ⟨source, hsource,
    Bindings.find?_of_mem hsource.nodup_names (hsubset (Bindings.mem_of_find? hget))⟩

end Registry

/-! ## Built-in steps -/

/-- **A `location` step** whose configuration is resolved and accepted, and is of some kind. -/
def Step.Locates (kind : Fields → Prop) (step : Step) (store : Store) : Prop :=
  step.type = "location" ∧ ∃ config, Template.resolveFields store step.config = .ok config ∧
    (Steps.location : Handler Unit).validate config = .ok () ∧ kind config

/-- The handler of `location` steps serves no other steps. -/
theorem Registry.DrawsOnBuiltIn.locates {registry : Registry σ} (h : registry.DrawsOnBuiltIn)
    {step : Step} {handler : Handler σ} (hget : registry.get? step.type = some handler)
    (htype : handler.stepType = "location") {store : Store} {config : Fields}
    (hconfig : Template.resolveFields store step.config = .ok config)
    (hvalid : handler.validate config = .ok ()) {kind : Fields → Prop} (hkind : kind config) :
    step.Locates kind store := by
  obtain ⟨source, hsource, hfound⟩ := h.get? hget
  have hlocation : step.type = "location" := by
    rw [← hsource.stepType_eq hfound, htype]
  rw [hlocation] at hfound
  obtain rfl : Steps.location = handler :=
    Option.some.inj (hsource.get?_location.symm.trans hfound)
  exact ⟨hlocation, config, hconfig, hvalid, hkind⟩

namespace Run

variable {controller : Controller σ} {step : Step}

/-- **Steps of all types but one** leave the variables as they are. -/
theorem store_dispatch (hdraws : controller.registry.DrawsOnBuiltIn)
    (hother : step.type ≠ "set-variable") (store : Store) (world : σ) :
    ((dispatch controller step).run store world).store = store := by
  have hdispatch := dispatchesTo controller step store world
  generalize (dispatch controller step).run store world = outcome at hdispatch ⊢
  cases hdispatch with
  | unknown _ => rfl
  | unresolved _ => rfl
  | refused _ _ _ => rfl
  | performed hget hconfig hvalid =>
    obtain ⟨source, hsource, hfound⟩ := hdraws.get? hget
    refine hsource.store_execute hfound ?_ _ _ store world
    rw [hsource.stepType_eq hfound]
    exact hother

/-- **A step that binds a variable** fails before that, or reports the name and the value that it
bound. -/
theorem dispatch_setVariable (hdraws : controller.registry.DrawsOnBuiltIn)
    (htype : step.type = "set-variable") (store : Store) (world : σ) :
    let outcome := (dispatch controller step).run store world
    (∃ fault, outcome.result = .error fault ∧ outcome.store = store) ∨
      ∃ name value, outcome.result = .ok (.object [("name", .text name), ("value", value)]) ∧
        outcome.store = store.set name value := by
  intro outcome
  have hdispatch : DispatchesTo controller step store world outcome :=
    dispatchesTo controller step store world
  clear_value outcome
  cases hdispatch with
  | unknown _ => exact .inl ⟨_, rfl, rfl⟩
  | unresolved _ => exact .inl ⟨_, rfl, rfl⟩
  | refused _ _ _ => exact .inl ⟨_, rfl, rfl⟩
  | @performed handler config log hget hconfig hvalid =>
    rw [htype] at hget
    obtain ⟨source, hsource, hfound⟩ := hdraws.get? hget
    obtain rfl : Steps.setVariable = handler :=
      Option.some.inj (hsource.get?_setVariable.symm.trans hfound)
    obtain ⟨-, ⟨fault, hfault, -, hstore⟩ | ⟨name, value, hvalue, hstore⟩⟩ :=
      Steps.setVariable_cases config ⟨controller.platform, controller.settings, step⟩ store world
    · refine .inl ⟨fault, ?_, hstore⟩
      dsimp only
      rw [hfault]
      rfl
    · refine .inr ⟨name, value, ?_, hstore⟩
      dsimp only
      rw [hvalue]
      rfl

/-- **The ways in which a built-in step fails**, by the requests that it made before. -/
inductive FailsAt (controller : Controller σ) (step : Step) (store : Store) (world : σ) :
    List Request → Fault → Prop
  /-- There is no handler for it. -/
  | unknown (hget : controller.registry.get? step.type = none) :
      FailsAt controller step store world [] (.unsupported "a handler" (some step.type))
  /-- Its configuration cannot be resolved or is refused. -/
  | refused {fault : Fault} (h : fault.IsInward) : FailsAt controller step store world [] fault
  /-- Its handler fails. -/
  | performed {handler : Handler σ} {config : Fields} {requests : List Request} {fault : Fault}
      (hget : controller.registry.get? step.type = some handler)
      (hconfig : Template.resolveFields store step.config = .ok config)
      (hvalid : handler.validate config = .ok ())
      (h : Steps.FailsFor controller.platform handler config world requests fault) :
      FailsAt controller step store world requests fault

/-- **How a built-in step fails**: in one of these ways, with the variables as they were. -/
theorem dispatch_failsAt (hdraws : controller.registry.DrawsOnBuiltIn) (store : Store)
    (world : σ) :
    let outcome := (dispatch controller step).run store world
    FailsOnly (fun fault => outcome.store = store ∧
      FailsAt controller step store world outcome.requests fault) outcome.result := by
  intro outcome fault hfault
  have hdispatch : DispatchesTo controller step store world outcome :=
    dispatchesTo controller step store world
  clear_value outcome
  cases hdispatch with
  | unknown hget =>
    obtain rfl := Except.error.inj hfault
    exact ⟨rfl, .unknown hget⟩
  | unresolved hconfig =>
    obtain rfl := Except.error.inj hfault
    exact ⟨rfl, .refused (.inr (Template.resolveFields_breaks _ _ _ hconfig))⟩
  | refused hget hconfig hvalid =>
    obtain rfl := Except.error.inj hfault
    obtain ⟨source, hsource, hfound⟩ := hdraws.get? hget
    exact ⟨rfl, .refused (hsource.failsOnly_inward hfound _ _ hvalid)⟩
  | performed hget hconfig hvalid =>
    obtain ⟨source, hsource, hfound⟩ := hdraws.get? hget
    obtain ⟨hstore, hfails⟩ :=
      hsource.failsFor hfound _ _ store world fault (map_eq_error_iff.mp hfault)
    exact ⟨hstore, .performed hget hconfig hvalid hfails⟩

end Run

end Stepwise
