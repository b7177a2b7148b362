import Stepwise.Proofs.Execution.Endings
import Stepwise.Proofs.Execution.Faults

/-! # How restrained steps are

A step that fails should have done nothing before, unless it failed outside. An action is *quiet*
(`Action.Quiet`) if it neither binds a variable nor makes a request. It is *restrained*
(`Action.Restrained`) if it binds no variable and, once it has made a request, fails only for what
came from outside (`Fault.IsOutward`). So a quiet beginning may be followed by anything restrained,
and a request only by what cannot fail for a reason of its own.

Of the built-in handlers all but two are restrained. The one that binds variables does so last, when
nothing is left to fail. The other one is the handler of `location` steps: to share a place it asks
for the position first and for messaging after that. `Steps.FailsFor` lists the ways in which a
built-in handler fails, and `Registry.IsBuiltIn.failsFor` says that there are no others. -/

namespace Stepwise

variable {σ α β : Type}

/-! ## What is there -/

/-- The names of collaborators tell them apart. -/
theorem Collaborator.name_injective : Function.Injective Collaborator.name := by
  intro c c' h
  cases c <;> cases c' <;> first | rfl | exact absurd h (by decide)

/-- What is available is wired under that name. -/
theorem Platform.mem_available {platform : Platform σ} {name : String} :
    name ∈ platform.available ↔ ∃ c : Collaborator, c.name = name ∧ platform.wired c = true := by
  rw [available, List.mem_map]
  constructor
  · rintro ⟨c, hc, hname⟩
    exact ⟨c, hname, (List.mem_filter.mp hc).2⟩
  · rintro ⟨c, hname, hwired⟩
    exact ⟨c, List.mem_filter.mpr ⟨c.mem_all, hwired⟩, hname⟩

/-- **A collaborator is provided** exactly if it is wired. -/
@[simp] theorem Platform.provides_name (platform : Platform σ) (c : Collaborator) :
    platform.provides c.name = platform.wired c := by
  have halways : alwaysProvided.contains c.name = false := by
    cases c <;> decide
  rw [provides, halways, Bool.or_false, Bool.eq_iff_iff, List.contains_iff_mem, mem_available]
  constructor
  · rintro ⟨c', hname, hwired⟩
    obtain rfl := Collaborator.name_injective hname
    exact hwired
  · exact fun hwired => ⟨c, rfl, hwired⟩

/-- A collaborator that is wired is reached. -/
theorem Context.reach_of_wired {context : Context σ} {c : Collaborator}
    (h : context.platform.wired c = true) (stepType : String) :
    context.reach c.name stepType = pure () := by
  rw [reach, Platform.provides_name, h]
  rfl

/-- A collaborator that is not wired cannot be reached. -/
theorem Context.reach_of_not_wired {context : Context σ} {c : Collaborator}
    (h : context.platform.wired c = false) (stepType : String) :
    context.reach c.name stepType = Action.fail (.unsupported c.name (some stepType)) := by
  rw [reach, Platform.provides_name, h]
  rfl

/-! ## Quiet and restrained actions -/

/-- **A fault from outside**: a failure that was met there, what was raised there, or one that
breaks the step. -/
def Fault.IsOutward (platform : Platform σ) (fault : Fault) : Prop :=
  (∃ reason, fault = .external reason) ∨
    (∃ request world, (platform.answer request world).1 = .error fault) ∨ fault.IsBreak

/-- **Kinds of step faults that do not come from outside**: no failure that was met there is of such
a kind, and none is raised there. -/
theorem Fault.IsOutward.not_of_kind (kinds : String → Prop) {platform : Platform σ} {fault : Fault}
    (h : fault.IsOutward platform) (hmet : ¬ kinds "ExternalFailureError")
    (hraises : ∀ request world other, (platform.answer request world).1 = .error other →
      ¬ (other.isStep = true ∧ kinds other.label)) :
    ¬ (fault.isStep = true ∧ kinds fault.label) := by
  rcases h with ⟨reason, rfl⟩ | ⟨request, world, hraised⟩ | hbreak
  · exact fun hkind => hmet hkind.2
  · exact hraises request world fault hraised
  · rintro ⟨hstep, -⟩
    rw [Fault.IsBreak.eq_1, hstep] at hbreak
    cases hbreak

/-- **A fault before any request** of a step of some type: an inward one, or the lack of one of the
collaborators that are needed. -/
def Fault.IsEarly (platform : Platform σ) (needs : List String) (stepType : String)
    (fault : Fault) : Prop :=
  fault.IsInward ∨ ∃ name ∈ needs, platform.provides name = false ∧
    fault = .unsupported name (some stepType)

/-- **A quiet outcome**: the variables are as they were before, no request was made, and a fault is
of some kind. -/
structure Outcome.IsQuiet (early : Fault → Prop) (before : Store) (outcome : Outcome σ α) :
    Prop where
  /-- The variables are as they were. -/
  store : outcome.store = before
  /-- No request was made. -/
  requests : outcome.requests = []
  /-- A fault is of the given kind. -/
  faults : FailsOnly early outcome.result

/-- **A restrained outcome**: the variables are as they were before, and a fault comes from outside
or is of some kind and came before any request. -/
structure Outcome.IsRestrained (platform : Platform σ) (early : Fault → Prop) (before : Store)
    (outcome : Outcome σ α) : Prop where
  /-- The variables are as they were. -/
  store : outcome.store = before
  /-- A fault comes from outside, or before any request. -/
  faults : FailsOnly
    (fun fault => fault.IsOutward platform ∨ outcome.requests = [] ∧ early fault) outcome.result

namespace Action

/-- **A quiet action** binds no variable, makes no request and fails only with faults of some
kind. -/
def Quiet (early : Fault → Prop) (action : Action σ α) : Prop :=
  ∀ store world, (action.run store world).IsQuiet early store

/-- **A restrained action** binds no variable and fails for what came from outside, or with faults
of some kind before it has made any request. -/
def Restrained (platform : Platform σ) (early : Fault → Prop) (action : Action σ α) : Prop :=
  ∀ store world, (action.run store world).IsRestrained platform early store

variable {platform : Platform σ} {early : Fault → Prop}

/-- Going on with the value of a computation that has one. -/
theorem lift_ok_bind (value : α) (next : α → Action σ β) :
    (liftM (.ok value : Except Fault α) >>= next) = next value :=
  rfl

namespace Quiet

/-- Giving a value. -/
theorem pure (value : α) : Quiet early (pure value : Action σ α) :=
  fun _ _ => ⟨rfl, rfl, .ok value⟩

/-- Giving the result of a computation. -/
theorem lift {computed : Except Fault α} (h : FailsOnly early computed) :
    Quiet early (liftM computed : Action σ α) :=
  fun _ _ => ⟨rfl, rfl, h⟩

/-- Failing. -/
theorem fail {fault : Fault} (h : early fault) : Quiet early (fail fault : Action σ α) :=
  fun _ _ => ⟨rfl, rfl, .fail h⟩

/-- Failing, whatever would have come after that. -/
theorem fail_bind {fault : Fault} (h : early fault) {next : α → Action σ β} :
    Quiet early (Action.fail fault >>= next) :=
  fun _ _ => ⟨rfl, rfl, .fail h⟩

/-- Leaving a note. -/
theorem note (entry : Note) : Quiet early (note entry : Action σ Unit) :=
  fun _ _ => ⟨rfl, rfl, .ok ()⟩

/-- Looking at the store. -/
theorem getStore : Quiet early (getStore : Action σ Store) :=
  fun store _ => ⟨rfl, rfl, .ok store⟩

/-- Asking for a collaborator that is needed. -/
theorem reach (context : Context σ) {needs : List String} {name : String} (hneeds : name ∈ needs)
    (stepType : String) :
    Quiet (Fault.IsEarly context.platform needs stepType) (context.reach name stepType) := by
  unfold Context.reach
  split
  · exact pure ()
  next h =>
    rw [Bool.not_eq_true] at h
    exact fail (.inr ⟨name, hneeds, h, rfl⟩)

/-- Asking for a collaborator that is there. -/
theorem reach_of_provides {context : Context σ} {name : String}
    (h : context.platform.provides name = true) (stepType : String) :
    Quiet early (context.reach name stepType) := by
  unfold Context.reach
  rw [if_pos h]
  exact pure ()

/-- What is quiet is restrained. -/
theorem restrained {action : Action σ α} (h : Quiet early action) :
    Restrained platform early action := by
  intro store world
  obtain ⟨hstore, hrequests, hfaults⟩ := h store world
  exact ⟨hstore, hfaults.mono fun fault hearly => .inr ⟨hrequests, hearly⟩⟩

/-- **A quiet beginning** may be followed by anything restrained. -/
theorem andThen {first : Action σ α} {next : α → Action σ β} (h : Quiet early first)
    (hnext : ∀ value, Restrained platform early (next value)) :
    Restrained platform early (first >>= next) := by
  intro store world
  obtain ⟨hstore, hrequests, hfaults⟩ := h store world
  cases hresult : (first.run store world).result with
  | error fault =>
    rw [run_bind_error hresult]
    exact ⟨hstore, .fail (.inr ⟨hrequests, hfaults fault hresult⟩)⟩
  | ok value =>
    rw [run_bind_ok hresult]
    dsimp only
    rw [hstore, hrequests]
    obtain ⟨hstore', hfaults'⟩ := hnext value store (first.run store world).world
    exact ⟨hstore', hfaults'⟩

end Quiet

namespace Restrained

/-- Giving a value. -/
theorem pure (value : α) : Restrained platform early (pure value : Action σ α) :=
  (Quiet.pure value).restrained

/-- Giving the result of a computation that breaks the step if it fails. -/
theorem lift_breaks {computed : Except Fault α} (h : FailsOnly Fault.IsBreak computed) :
    Restrained platform early (liftM computed) :=
  fun _ _ => ⟨rfl, h.mono fun _ hbreak => .inl (.inr (.inr hbreak))⟩

/-- Failing outside. -/
theorem fail_external (reason : String) :
    Restrained platform early (fail (.external reason) : Action σ α) :=
  fun _ _ => ⟨rfl, .fail (.inl (.inl ⟨reason, rfl⟩))⟩

/-- Failing outside, whatever would have come after that. -/
theorem fail_external_bind (reason : String) {next : α → Action σ β} :
    Restrained platform early (fail (.external reason) >>= next) :=
  fun _ _ => ⟨rfl, .fail (.inl (.inl ⟨reason, rfl⟩))⟩

/-- Making a request to the clock. -/
theorem request (request : Request) :
    Restrained platform early (Action.request platform request) :=
  fun _ world => ⟨rfl, fun _ heq => .inl (.inr (.inl ⟨request, world, heq⟩))⟩

/-- **Calling a collaborator** fails with what it raised, or reports that as a failure outside. -/
theorem call (attempt : String) (request : Request) :
    Restrained platform early (Action.call platform attempt request) := by
  intro store world
  rw [run_call]
  refine ⟨rfl, ?_⟩
  dsimp only
  cases hanswer : (platform.answer request world).1 with
  | ok reply => exact .ok reply
  | error fault =>
    refine FailsOnly.fail (.inl ?_)
    cases hstep : fault.isStep with
    | true =>
      refine .inr (.inl ⟨request, world, ?_⟩)
      unfold Fault.ofCall
      rw [if_pos hstep, hanswer]
    | false => exact .inl (Fault.ofCall_of_not_isStep hstep attempt)

/-- **Going on after requests**: what follows fails only for what came from outside. -/
theorem bind {first : Action σ α} {next : α → Action σ β} (h : Restrained platform early first)
    (hnext : ∀ value, Restrained platform (fun _ => False) (next value)) :
    Restrained platform early (first >>= next) := by
  intro store world
  obtain ⟨hstore, hfaults⟩ := h store world
  cases hresult : (first.run store world).result with
  | error fault =>
    rw [run_bind_error hresult]
    exact ⟨hstore, .fail (hfaults fault hresult)⟩
  | ok value =>
    rw [run_bind_ok hresult]
    dsimp only
    rw [hstore]
    obtain ⟨hstore', hfaults'⟩ := hnext value store (first.run store world).world
    refine ⟨hstore', hfaults'.mono fun fault hfault => ?_⟩
    exact .inl (hfault.resolve_right fun hearly => hearly.2)

/-- Branching. -/
theorem ite {c : Prop} [Decidable c] {yes no : Action σ α} (hyes : Restrained platform early yes)
    (hno : Restrained platform early no) : Restrained platform early (if c then yes else no) := by
  split
  · exact hyes
  · exact hno

end Restrained

end Action

/-! ## Handlers -/

/-- **A restrained handler**: whatever it performs is restrained, and the collaborators that it may
find missing are those that it requires. -/
def Handler.IsRestrained (handler : Handler σ) : Prop :=
  ∀ config (context : Context σ), Action.Restrained context.platform
    (Fault.IsEarly context.platform handler.requires handler.stepType)
    (handler.execute config context)

namespace Steps

open Stepwise.Action (Quiet Restrained)

variable {platform : Platform σ} {needs : List String} {stepType : String}

/-- A computation that fails inwardly may come before any request. -/
theorem quiet_lift {computed : Except Fault α} (h : FailsOnly Fault.IsInward computed) :
    Quiet (Fault.IsEarly platform needs stepType) (liftM computed : Action σ α) :=
  .lift (h.mono fun _ => .inl)

theorem restrained_notification : (notification : Handler σ).IsRestrained := by
  intro config context
  refine (Quiet.reach context List.mem_cons_self _).andThen fun _ => ?_
  refine (quiet_lift (Config.item_breaks config _).inward).andThen fun message => ?_
  exact (Restrained.call _ _).bind fun _ => .pure _

theorem restrained_delay : (delay : Handler σ).IsRestrained := by
  intro config context
  refine (quiet_lift (delayMs_inward config _)).andThen fun ms => ?_
  exact (Restrained.request _).bind fun _ => .pure _

theorem restrained_getVariable : (getVariable : Handler σ).IsRestrained := by
  intro config context
  refine (quiet_lift (Config.trimmed_breaks config _).inward).andThen fun name => ?_
  exact Quiet.getStore.andThen fun store => .pure _

theorem restrained_textOperation : (textOperation : Handler σ).IsRestrained := by
  intro config context
  exact (quiet_lift (Config.item_breaks config _).inward).andThen fun action => .pure _

theorem restrained_arithmetic : (arithmetic : Handler σ).IsRestrained := by
  intro config context
  refine (quiet_lift (Config.item_breaks config _).inward).andThen fun operation => ?_
  refine (quiet_lift (Config.number_inward config _)).andThen fun x => ?_
  refine (quiet_lift (Config.number_inward config _)).andThen fun y => ?_
  refine (quiet_lift (apply_inward _ x y)).andThen fun result => ?_
  exact .ite (Quiet.fail_bind (.inl (.inl ⟨_, _, rfl⟩))).restrained (.pure _)

theorem restrained_shortMessage : (shortMessage : Handler σ).IsRestrained := by
  intro config context
  refine (Quiet.reach context List.mem_cons_self _).andThen fun _ => ?_
  refine (quiet_lift (Config.trimmed_breaks config _).inward).andThen fun phone => ?_
  refine (quiet_lift (Config.item_breaks config _).inward).andThen fun message => ?_
  refine (quiet_lift (lengthOf_breaks message).inward).andThen fun length => ?_
  refine (Quiet.note _).andThen fun _ => ?_
  exact (Restrained.call _ _).bind fun _ => .pure _

theorem restrained_mail : (mail : Handler σ).IsRestrained := by
  intro config context
  refine (Quiet.reach context List.mem_cons_self _).andThen fun _ => ?_
  refine (quiet_lift (Config.trimmed_breaks config _).inward).andThen fun address => ?_
  refine (quiet_lift (Config.item_breaks config _).inward).andThen fun subject => ?_
  refine (quiet_lift (Config.item_breaks config _).inward).andThen fun message => ?_
  exact (Restrained.call _ _).bind fun _ => .pure _

/-- Opening an address: if nothing opens it, that is a failure outside. -/
theorem restrained_openAddress {early : Fault → Prop} (context : Context σ) (url : Value) :
    Restrained context.platform early (openAddress context url) := by
  refine (Restrained.call _ _).bind fun opened => ?_
  exact .ite ((Quiet.note _).andThen fun _ => .fail_external _) (.pure ())

theorem restrained_openUrl : (openUrl : Handler σ).IsRestrained := by
  intro config context
  refine (Quiet.reach context List.mem_cons_self _).andThen fun _ => ?_
  refine (quiet_lift (Config.trimmed_breaks config _).inward).andThen fun url => ?_
  exact (restrained_openAddress context _).bind fun _ => .pure _

theorem restrained_call : (call : Handler σ).IsRestrained := by
  intro config context
  refine (Quiet.reach context List.mem_cons_self _).andThen fun _ => ?_
  refine (quiet_lift (Config.trimmed_breaks config _).inward).andThen fun phone => ?_
  exact (restrained_openAddress context _).bind fun _ => .pure _

theorem restrained_openApp (directory : AppDirectory) :
    (openApp directory : Handler σ).IsRestrained := by
  intro config context
  refine (Quiet.reach context List.mem_cons_self _).andThen fun _ => ?_
  refine .ite (Quiet.fail_bind (.inl (.inl ⟨_, _, rfl⟩))).restrained ?_
  exact (restrained_openAddress context _).bind fun _ => .pure _

theorem restrained_webhook (edition : Url.Edition) :
    (webhook edition : Handler σ).IsRestrained := by
  intro config context
  refine (Quiet.reach context List.mem_cons_self _).andThen fun _ => ?_
  refine (quiet_lift (Config.trimmed_breaks config _).inward).andThen fun url => ?_
  refine (quiet_lift (headerTexts_breaks _).inward).andThen fun headers => ?_
  refine (Quiet.note _).andThen fun _ => ?_
  refine (Restrained.call _ _).bind fun response => ?_
  exact .ite (.fail_external_bind _) (.pure _)

theorem restrained_clipboard : (clipboard : Handler σ).IsRestrained := by
  intro config context
  refine (Quiet.reach context List.mem_cons_self _).andThen fun _ => ?_
  refine (quiet_lift (chooseAction_inward config _)).andThen fun action => ?_
  refine .ite ?_ ?_
  · refine (quiet_lift (Config.item_breaks config _).inward).andThen fun text => ?_
    exact (Restrained.call _ _).bind fun _ => .pure _
  · exact (Restrained.call _ _).bind fun _ => .pure _

theorem restrained_conditional : (conditional : Handler σ).IsRestrained := by
  intro config context
  refine (quiet_lift (Config.trimmed_breaks config _).inward).andThen fun name => ?_
  refine (quiet_lift (Config.item_breaks config _).inward).andThen fun operator => ?_
  refine Quiet.getStore.andThen fun store => ?_
  refine (quiet_lift (Template.lookup_breaks store name).inward).andThen fun actual => ?_
  -- a warning, if there is one, is only a note before the comparison
  cases Condition.warning? actual operator (Value.field "value" config) with
  | none =>
    refine (quiet_lift (Condition.compare_breaks _ _ _).inward).andThen fun met => ?_
    exact (Quiet.note _).andThen fun _ => .pure _
  | some warning =>
    refine (Quiet.note _).andThen fun _ => ?_
    refine (quiet_lift (Condition.compare_breaks _ _ _).inward).andThen fun met => ?_
    exact (Quiet.note _).andThen fun _ => .pure _

theorem restrained_loop : (loop : Handler σ).IsRestrained := by
  intro config context
  refine (quiet_lift (Config.item_breaks config _).inward).andThen fun loopType => ?_
  refine .ite ?_ (.pure _)
  exact (quiet_lift (iterations_inward config)).andThen fun count => .pure _

/-! ## Binding a variable -/

/-- **Binding a variable** is the last thing that its step does: the step fails before that, or
reports the name and the value that it bound. -/
theorem setVariable_cases (config : Fields) (context : Context σ) (store : Store) (world : σ) :
    let outcome := ((setVariable : Handler σ).execute config context).run store world
    outcome.requests = [] ∧
      ((∃ fault, outcome.result = .error fault ∧ fault.IsBreak ∧ outcome.store = store) ∨
        ∃ name value, outcome.result = .ok (.object [("name", .text name), ("value", value)]) ∧
          outcome.store = store.set name value) := by
  dsimp only [setVariable]
  cases hname : Config.trimmed config "name" with
  | error fault => exact ⟨rfl, .inl ⟨fault, rfl, Config.trimmed_breaks _ _ _ hname, rfl⟩⟩
  | ok name =>
    cases hvalue : Config.item config "value" with
    | error fault => exact ⟨rfl, .inl ⟨fault, rfl, Config.item_breaks _ _ _ hvalue, rfl⟩⟩
    | ok value => exact ⟨rfl, .inr ⟨name, value, rfl, rfl⟩⟩

/-! ## Places -/

/-- **A place is shared in vain**: there is a number to send it to and the position is found, but
there is no messaging. -/
structure SharesInVain (platform : Platform σ) (config : Fields) (world : σ) : Prop where
  /-- The place is to be shared. -/
  action : chooseAction locationActions config = .ok "share"
  /-- There is a number to send it to. -/
  phone : (Value.field "phoneNumber" config).isTrue = true
  /-- The position can be asked for. -/
  located : platform.wired .location = true
  /-- The position is found. -/
  position : ∃ position, (platform.answer .position world).1 = .ok position
  /-- There is no messaging. -/
  unsent : platform.wired .messaging = false

/-- **A map is opened in vain**: there is no navigation. -/
structure OpensInVain (platform : Platform σ) (config : Fields) : Prop where
  /-- A map is to be opened. -/
  action : chooseAction locationActions config = .ok "open-maps"
  /-- There is no navigation. -/
  unopened : platform.wired .navigation = false

/-- **The ways in which a built-in handler fails** with a configuration, by the requests that it
made before. -/
inductive FailsFor (platform : Platform σ) (handler : Handler σ) (config : Fields) (world : σ) :
    List Request → Fault → Prop
  /-- For what came from outside, after any requests. -/
  | outward {requests : List Request} {fault : Fault} (h : fault.IsOutward platform) :
      FailsFor platform handler config world requests fault
  /-- Before any request, for the configuration or what it leads to. -/
  | inward {fault : Fault} (h : fault.IsInward) :
      FailsFor platform handler config world [] fault
  /-- Before any request, for want of a collaborator that it requires. -/
  | lacking {name : String} (hname : name ∈ handler.requires)
      (hlacks : platform.provides name = false) :
      FailsFor platform handler config world [] (.unsupported name (some handler.stepType))
  /-- Before any request, for a map that nothing can open. -/
  | unopened (htype : handler.stepType = "location") (h : OpensInVain platform config) :
      FailsFor platform handler config world []
        (.unsupported Collaborator.navigation.name (some "location"))
  /-- After asking for the position, for a place that nothing can send. -/
  | unsent (htype : handler.stepType = "location") (h : SharesInVain platform config world) :
      FailsFor platform handler config world [.position]
        (.unsupported Collaborator.messaging.name (some "location"))

/-- What is restrained fails in one of these ways, if those that it may find missing lead to one. -/
theorem FailsFor.of_restrained {handler : Handler σ} {config : Fields} {action : Action σ α}
    (h : Restrained platform (Fault.IsEarly platform needs handler.stepType) action) {world : σ}
    (hneeds : ∀ name ∈ needs, platform.provides name = false →
      FailsFor platform handler config world [] (.unsupported name (some handler.stepType)))
    (store : Store) :
    let outcome := action.run store world
    outcome.store = store ∧
      FailsOnly (FailsFor platform handler config world outcome.requests) outcome.result := by
  obtain ⟨hstore, hfaults⟩ := h store world
  refine ⟨hstore, hfaults.mono ?_⟩
  rintro fault (houtward | ⟨hnone, hinward | ⟨name, hname, hlacks, rfl⟩⟩)
  · exact .outward houtward
  · rw [hnone]
    exact .inward hinward
  · rw [hnone]
    exact hneeds name hname hlacks

/-- What is restrained, and may find missing only what is required, fails in one of these ways. -/
theorem FailsFor.of_required {handler : Handler σ} {action : Action σ α}
    (h : Restrained platform (Fault.IsEarly platform handler.requires handler.stepType) action)
    (config : Fields) (store : Store) (world : σ) :
    let outcome := action.run store world
    outcome.store = store ∧
      FailsOnly (FailsFor platform handler config world outcome.requests) outcome.result :=
  FailsFor.of_restrained h (fun _ hname hlacks => .lacking hname hlacks) store

variable {config : Fields} {context : Context σ} {store : Store} {world : σ}

/-! ## The location of the device -/

/-- Asking for the position. -/
theorem restrained_currentPosition (hneeds : Collaborator.location.name ∈ needs) :
    Restrained context.platform (Fault.IsEarly context.platform needs "location")
      (currentPosition context) :=
  (Quiet.reach context hneeds _).andThen fun _ => .call _ _

theorem restrained_reportPosition :
    Restrained context.platform
      (Fault.IsEarly context.platform (location : Handler σ).requires "location")
      (reportPosition context) :=
  (restrained_currentPosition List.mem_cons_self).bind fun _ => .pure _

/-- Opening a map. -/
theorem restrained_openMap :
    Restrained context.platform
      (Fault.IsEarly context.platform [Collaborator.navigation.name, Collaborator.location.name]
        "location") (openMap config context) := by
  refine (Quiet.reach context List.mem_cons_self _).andThen fun _ => ?_
  have hplace : Restrained context.platform
      (Fault.IsEarly context.platform [Collaborator.navigation.name, Collaborator.location.name]
        "location") (mapPlace config context) := by
    refine .ite ?_ ?_
    · exact (restrained_currentPosition (by simp)).bind fun position => .pure _
    · refine (quiet_lift (Config.number_inward config _)).andThen fun latitude => ?_
      exact (quiet_lift (Config.number_inward config _)).andThen fun longitude => .pure _
  refine hplace.bind fun (latitude, longitude) => ?_
  refine (Restrained.lift_breaks (mapsAddress_breaks _ _ _)).bind fun place => ?_
  exact (restrained_openAddress context _).bind fun _ => .pure _

/-- Sharing a place, unless there is a number to send it to and no messaging. -/
theorem restrained_sharePosition
    (h : (Value.field "phoneNumber" config).isTrue = true →
      context.platform.wired .messaging = true) :
    Restrained context.platform
      (Fault.IsEarly context.platform (location : Handler σ).requires "location")
      (sharePosition config context) := by
  refine (restrained_currentPosition List.mem_cons_self).bind fun position => ?_
  refine (Restrained.lift_breaks (mapsAddress_breaks _ _ _)).bind fun address => ?_
  dsimp only
  split
  next hphone =>
    have hmessaging : context.platform.provides Collaborator.messaging.name = true := by
      rw [Platform.provides_name]
      exact h hphone
    refine (Quiet.note _).andThen fun _ => ?_
    refine (Quiet.reach_of_provides hmessaging _).andThen fun _ => ?_
    exact (Restrained.call _ _).bind fun _ => .pure _
  next => exact .pure _

/-- A position that is found was asked for. -/
theorem run_currentPosition {position : Position}
    (h : ((currentPosition context).run store world).result = .ok position) :
    context.platform.wired .location = true ∧
      (context.platform.answer .position world).1 = .ok position ∧
      (currentPosition context).run store world =
        { result := .ok position, store, world := (context.platform.answer .position world).2
          requests := [.position] } := by
  unfold currentPosition Context.reach at h ⊢
  rw [Platform.provides_name] at h ⊢
  cases hlocated : context.platform.wired .location with
  | false =>
    rw [hlocated] at h
    cases h
  | true =>
    rw [hlocated] at h
    have hanswer : (context.platform.answer .position world).1.mapError
        (Fault.ofCall "Could not get location") = .ok position := h
    cases hposition : (context.platform.answer .position world).1 with
    | error fault =>
      rw [hposition] at hanswer
      cases hanswer
    | ok found =>
      rw [hposition] at hanswer
      obtain rfl : found = position := Except.ok.inj hanswer
      have hcall := Action.run_call context.platform "Could not get location" .position store world
      rw [hposition] at hcall
      exact ⟨rfl, rfl, hcall⟩

/-- A position that can be asked for and is found. -/
theorem run_currentPosition_of_found (hlocated : context.platform.wired .location = true)
    {position : Position} (h : (context.platform.answer .position world).1 = .ok position) :
    ((currentPosition context).run store world).result = .ok position := by
  unfold currentPosition Context.reach
  rw [Platform.provides_name, hlocated]
  exact congrArg (Except.mapError (Fault.ofCall "Could not get location")) h

/-- **A place that cannot be sent.** Behind the position there is nothing to do but to make the
address and to find that there is no messaging. -/
theorem run_sharePosition (hphone : (Value.field "phoneNumber" config).isTrue = true)
    (hunsent : context.platform.wired .messaging = false) {position : Position}
    (h : ((currentPosition context).run store world).result = .ok position) :
    ∃ log, (sharePosition config context).run store world =
      { result := mapsAddress context.settings position.latitude position.longitude >>= fun _ =>
          .error (.unsupported Collaborator.messaging.name (some "location"))
        store, world := (context.platform.answer .position world).2, requests := [.position]
        log } := by
  obtain ⟨-, -, hfound⟩ := run_currentPosition h
  unfold sharePosition
  simp only [hphone, Context.reach_of_not_wired hunsent, if_true]
  rw [Action.run_bind_ok h, hfound]
  cases mapsAddress context.settings position.latitude position.longitude with
  | error fault => exact ⟨_, rfl⟩
  | ok address => exact ⟨_, rfl⟩

/-- **How sharing a place fails**: only if it is shared in vain, anything was asked for before. -/
theorem sharePosition_failsFor (hchosen : chooseAction locationActions config = .ok "share") :
    let outcome := (sharePosition config context).run store world
    outcome.store = store ∧
      FailsOnly (FailsFor context.platform (location : Handler σ) config world outcome.requests)
        outcome.result := by
  by_cases hsent : (Value.field "phoneNumber" config).isTrue = true →
      context.platform.wired .messaging = true
  · exact FailsFor.of_required (restrained_sharePosition hsent) config store world
  · rw [Classical.not_imp, Bool.not_eq_true] at hsent
    obtain ⟨hphone, hunsent⟩ := hsent
    cases hresult : ((currentPosition context).run store world).result with
    | error fault =>
      have hasked : Restrained context.platform
          (Fault.IsEarly context.platform (location : Handler σ).requires "location")
          (currentPosition context) := restrained_currentPosition List.mem_cons_self
      obtain ⟨hstore, hfails⟩ := FailsFor.of_required hasked config store world
      unfold sharePosition
      rw [Action.run_bind_error hresult]
      exact ⟨hstore, .fail (hfails fault hresult)⟩
    | ok position =>
      obtain ⟨hlocated, hposition, -⟩ := run_currentPosition hresult
      obtain ⟨log, hrun⟩ := run_sharePosition hphone hunsent hresult
      rw [hrun]
      have haddress := mapsAddress_breaks context.settings position.latitude position.longitude
      refine ⟨rfl, (haddress.mono fun _ hbreak => .outward (.inr (.inr hbreak))).bind fun _ => ?_⟩
      exact .fail (.unsent rfl ⟨hchosen, hphone, hlocated, ⟨position, hposition⟩, hunsent⟩)

/-- **A map that nothing can open** is given up at once. -/
theorem run_openMap (hunopened : context.platform.wired .navigation = false) :
    (openMap config context).run store world =
      { result := .error (.unsupported Collaborator.navigation.name (some "location")), store
        world } := by
  unfold openMap
  rw [Context.reach_of_not_wired hunopened]
  rfl

/-- What a `location` step does, by the action that is chosen. -/
theorem execute_location {action : String}
    (h : chooseAction locationActions config = .ok action) :
    (location : Handler σ).execute config context =
      if action == "get-current" then reportPosition context
      else if action == "share" then sharePosition config context
      else openMap config context := by
  dsimp only [location]
  rw [h]
  exact Action.lift_ok_bind _ _

/-- The actions that can be chosen. -/
theorem chosen_location {action : String}
    (h : chooseAction locationActions config = .ok action) :
    action = "get-current" ∨ action = "share" ∨ action = "open-maps" := by
  have hknown := mem_of_chooseAction h
  simp only [locationActions, List.map_cons, List.map_nil, List.mem_cons, List.not_mem_nil,
    or_false] at hknown
  grind

/-- **What is done in vain fails**, for want of what sends a place or opens a map. -/
theorem execute_inVain (config : Fields) (context : Context σ) (store : Store) (world : σ)
    (hmaps : context.settings.mapsUrl = ({} : Settings).mapsUrl)
    (h : SharesInVain context.platform config world ∨ OpensInVain context.platform config) :
    ∃ name, (((location : Handler σ).execute config context).run store world).result =
      .error (.unsupported name (some "location")) := by
  rcases h with h | h
  · obtain ⟨position, hposition⟩ := h.position
    have hfound : ((currentPosition context).run store world).result = .ok position :=
      run_currentPosition_of_found h.located hposition
    obtain ⟨log, hrun⟩ := run_sharePosition h.phone h.unsent hfound
    obtain ⟨address, haddress⟩ := exists_mapsAddress hmaps position.latitude position.longitude
    refine ⟨Collaborator.messaging.name, ?_⟩
    rw [execute_location h.action]
    refine (congrArg Outcome.result hrun).trans ?_
    rw [haddress]
    rfl
  · refine ⟨Collaborator.navigation.name, ?_⟩
    rw [execute_location h.action]
    exact congrArg Outcome.result (run_openMap h.unopened)

/-- **How a `location` step fails**: in one of the ways of built-in handlers, with the variables as
they were. -/
theorem location_failsFor (config : Fields) (context : Context σ) (store : Store) (world : σ) :
    let outcome := ((location : Handler σ).execute config context).run store world
    outcome.store = store ∧
      FailsOnly (FailsFor context.platform (location : Handler σ) config world outcome.requests)
        outcome.result := by
  cases hchosen : chooseAction locationActions config with
  | error fault =>
    dsimp only [location]
    rw [hchosen]
    exact ⟨rfl, .fail (.inward (chooseAction_inward config _ _ hchosen))⟩
  | ok action =>
    rw [execute_location hchosen]
    rcases chosen_location hchosen with rfl | rfl | rfl
    · exact FailsFor.of_required restrained_reportPosition config store world
    · exact sharePosition_failsFor hchosen
    · refine FailsFor.of_restrained restrained_openMap ?_ store
      intro name hname hlacks
      rcases List.mem_cons.mp hname with rfl | hname
      · rw [Platform.provides_name] at hlacks
        exact .unopened rfl ⟨hchosen, hlacks⟩
      · exact .lacking hname hlacks

end Steps

/-! ## The built-in registries -/

namespace Registry.IsBuiltIn

variable {registry : Registry σ} {stepType : String} {handler : Handler σ}

/-- All handlers of a built-in registry are restrained but two. -/
theorem restrained_cases (h : registry.IsBuiltIn) (hget : registry.get? stepType = some handler) :
    handler.IsRestrained ∨ handler = Steps.setVariable ∨ handler = Steps.location :=
  h.elim (motive := fun handler =>
      handler.IsRestrained ∨ handler = Steps.setVariable ∨ handler = Steps.location)
    (.inl Steps.restrained_notification) (.inl Steps.restrained_delay) (.inr (.inl rfl))
    (.inl Steps.restrained_getVariable) (.inl Steps.restrained_textOperation)
    (.inl Steps.restrained_arithmetic) (.inl Steps.restrained_shortMessage)
    (.inl Steps.restrained_call) (.inl Steps.restrained_mail)
    (fun edition => .inl (Steps.restrained_webhook edition)) (.inl Steps.restrained_openUrl)
    (.inr (.inr rfl)) (.inl Steps.restrained_clipboard)
    (fun directory => .inl (Steps.restrained_openApp directory))
    (.inl Steps.restrained_conditional) (.inl Steps.restrained_loop) hget

/-- **How a built-in handler fails**: in one of the ways of `Steps.FailsFor`, with the variables as
they were. -/
theorem failsFor (h : registry.IsBuiltIn) (hget : registry.get? stepType = some handler)
    (config : Fields) (context : Context σ) (store : Store) (world : σ) :
    let outcome := (handler.execute config context).run store world
    FailsOnly (fun fault => outcome.store = store ∧
      Steps.FailsFor context.platform handler config world outcome.requests fault)
      outcome.result := by
  intro outcome fault hfault
  obtain hrestrained | rfl | rfl := h.restrained_cases hget
  · obtain ⟨hstore, hfails⟩ :=
      Steps.FailsFor.of_required (hrestrained config context) config store world
    exact ⟨hstore, hfails fault hfault⟩
  · obtain ⟨hrequests, ⟨other, hother, hbreak, hstore⟩ | ⟨name, value, hvalue, -⟩⟩ :=
      Steps.setVariable_cases config context store world
    · obtain rfl : other = fault := Except.error.inj (hother.symm.trans hfault)
      exact ⟨hstore, .outward (.inr (.inr hbreak))⟩
    · cases hvalue.symm.trans hfault
  · obtain ⟨hstore, hfails⟩ := Steps.location_failsFor config context store world
    exact ⟨hstore, hfails fault hfault⟩

/-- **Only one built-in handler binds variables.** -/
theorem store_execute (h : registry.IsBuiltIn) (hget : registry.get? stepType = some handler)
    (hother : handler.stepType ≠ "set-variable") (config : Fields) (context : Context σ)
    (store : Store) (world : σ) :
    ((handler.execute config context).run store world).store = store := by
  obtain hrestrained | rfl | rfl := h.restrained_cases hget
  · exact (hrestrained config context store world).store
  · exact absurd rfl hother
  · exact (Steps.location_failsFor config context store world).1

end Registry.IsBuiltIn

end Stepwise
