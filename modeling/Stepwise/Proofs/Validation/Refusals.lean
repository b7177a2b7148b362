import Stepwise.Preflight
import Stepwise.Proofs.Computations
import Stepwise.Proofs.Validation.Handlers

/-! # What a check refuses with

A check *refuses by name* if every fault of it is a configuration fault about one of some given
fields (`RefusesByName`). That is kept by going on and by branching, and every built-in handler has
it for the fields it reads, with one exception: the check of a request takes its address apart, and
the fault of an address that cannot be taken apart goes through (`AddressFault`).

The check of an automation turns configuration faults into messages and stops at all others, so it
reports on every automation but those with such an address (`reports_unless_addressFault`). -/

namespace Stepwise

variable {σ α β : Type} {fields : List String}

/-! ## Refusing by name -/

/-- **A check refuses by name**: its faults are configuration faults about one of the fields. -/
def RefusesByName (fields : List String) (check : Except Fault α) : Prop :=
  ∀ fault, check = .error fault → ∃ field ∈ fields, ∃ detail, fault = .configuration field detail

namespace RefusesByName

/-- What accepts refuses nothing. -/
theorem ok (value : α) : RefusesByName fields (.ok value) := by
  intro fault h
  cases h

/-- A refusal of one of the fields. -/
theorem refuse {field : String} (hfield : field ∈ fields) (detail : String) :
    RefusesByName fields (throw (.configuration field detail) : Except Fault α) := by
  intro fault h
  exact ⟨field, hfield, detail, (Except.error.inj h).symm⟩

/-- Going on. -/
theorem bind {check : Except Fault α} {next : α → Except Fault β}
    (h : RefusesByName fields check)
    (hnext : ∀ value, check = .ok value → RefusesByName fields (next value)) :
    RefusesByName fields (check >>= next) := by
  cases check with
  | error fault =>
    intro fault' h'
    obtain rfl : fault = fault' := Except.error.inj h'
    exact h fault rfl
  | ok value => exact hnext value rfl

/-- Branching. -/
theorem ite {c : Bool} {yes no : Except Fault α} (hyes : RefusesByName fields yes)
    (hno : RefusesByName fields no) : RefusesByName fields (if c = true then yes else no) := by
  split
  · exact hyes
  · exact hno

/-- A refusal of one of the fields, whatever would have come after it. -/
theorem refuse_bind {field : String} (hfield : field ∈ fields) (detail : String)
    {next : α → Except Fault β} :
    RefusesByName fields ((throw (.configuration field detail) : Except Fault α) >>= next) :=
  refuse hfield detail

end RefusesByName

/-! ## Fields -/

namespace Config

variable {config : Fields} {name : String}

/-- What is said of an invalid field is said about that field. -/
theorem exists_invalidField (name : String) (detail : Option String) :
    ∃ text, Fault.invalidField name detail = .configuration name text := by
  unfold Fault.invalidField
  split
  · exact ⟨_, rfl⟩
  · exact ⟨_, rfl⟩
  · exact ⟨_, rfl⟩

/-- A field that must be there. -/
theorem require_refuses (hname : name ∈ fields) (detail : Option String) :
    RefusesByName fields (require config name detail) := by
  obtain ⟨text, htext⟩ := exists_invalidField name detail
  unfold require
  rw [htext]
  exact .ite (.refuse hname text) (.ok _)

/-- A field that must be a text. -/
theorem requireText_refuses (hname : name ∈ fields) :
    RefusesByName fields (requireText config name) := by
  refine (require_refuses hname none).bind ?_
  intro value _
  cases value with
  | text s => exact .ok s
  | _ => exact .refuse hname _

/-- A field that is a number if it is set. -/
theorem number?_refuses (hname : name ∈ fields) :
    RefusesByName fields (number? config name) := by
  unfold number?
  refine .ite (.ok _) ?_
  split
  · exact .refuse hname _
  · split
    · exact .ite (.ok _) (.refuse hname _)
    · exact .refuse hname _

/-- A field that must be a number. -/
theorem number_refuses (hname : name ∈ fields) :
    RefusesByName fields (number config name) := by
  refine (number?_refuses hname).bind ?_
  intro x _
  cases x with
  | none => exact .refuse hname _
  | some x => exact .ok x

end Config

namespace Steps

variable {config : Fields}

/-- The choice of an action. -/
theorem chooseAction_refuses (table : List (String × String)) (hname : "action" ∈ fields) :
    RefusesByName fields (chooseAction table config) := by
  refine (Config.require_refuses hname none).bind ?_
  intro value _
  dsimp only
  split
  · exact .ok _
  · exact .refuse hname _

/-- The delay, if nothing bounds it. -/
theorem delayMs_refuses : RefusesByName ["delay", "duration"] (delayMs config .null) := by
  unfold delayMs
  have hname : (if config.binds "delay" then "delay" else "duration") ∈ ["delay", "duration"] := by
    split <;> simp
  refine .ite (.refuse_bind (by simp) _) ?_
  refine (Config.number_refuses hname).bind ?_
  intro delay _
  exact .ite (.refuse_bind (by simp) _) (.ok delay)

/-- The number of iterations. -/
theorem iterations_refuses (hname : "count" ∈ fields) :
    RefusesByName fields (iterations config) := by
  refine (Config.number?_refuses hname).bind ?_
  intro count _
  cases count with
  | none => exact .ok _
  | some x =>
    dsimp only
    refine .ite (.refuse_bind hname _) ?_
    split
    · exact .ok _
    · exact .refuse hname _

/-! ## Handlers -/

variable (config)

theorem notification_refuses :
    RefusesByName ["message"] ((notification : Handler σ).validate config) :=
  (Config.requireText_refuses (by simp)).bind fun _ _ => .ok ()

theorem delay_refuses :
    RefusesByName ["delay", "duration"] ((delay : Handler σ).validate config) :=
  delayMs_refuses.bind fun _ _ => .ok ()

theorem setVariable_refuses :
    RefusesByName ["name", "value"] ((setVariable : Handler σ).validate config) := by
  refine (Config.requireText_refuses (by simp)).bind ?_
  intro name _
  exact .ite (.refuse (by simp) _) (.ok ())

theorem getVariable_refuses :
    RefusesByName ["name"] ((getVariable : Handler σ).validate config) :=
  (Config.requireText_refuses (by simp)).bind fun _ _ => .ok ()

theorem textOperation_refuses :
    RefusesByName ["action"] ((textOperation : Handler σ).validate config) := by
  refine (Config.requireText_refuses (by simp)).bind ?_
  intro action _
  exact .ite (.refuse (by simp) _) (.ok ())

theorem arithmetic_refuses :
    RefusesByName ["operation", "number1", "number2"]
      ((arithmetic : Handler σ).validate config) := by
  refine (Config.requireText_refuses (by simp)).bind ?_
  intro operation _
  split
  · exact .refuse (by simp) _
  · refine (Config.number_refuses (by simp)).bind ?_
    intro x _
    refine (Config.number_refuses (by simp)).bind ?_
    intro divisor _
    exact .ite (.refuse (by simp) _) (.ok ())

theorem shortMessage_refuses :
    RefusesByName ["phoneNumber", "message"] ((shortMessage : Handler σ).validate config) := by
  refine (Config.requireText_refuses (by simp)).bind ?_
  intro phone _
  exact (Config.requireText_refuses (by simp)).bind fun _ _ => .ok ()

theorem call_refuses :
    RefusesByName ["phoneNumber"] ((call : Handler σ).validate config) :=
  (Config.requireText_refuses (by simp)).bind fun _ _ => .ok ()

theorem mail_refuses :
    RefusesByName ["email", "subject", "message"] ((mail : Handler σ).validate config) := by
  refine (Config.requireText_refuses (by simp)).bind ?_
  intro address _
  refine .ite (.refuse_bind (by simp) _) ?_
  refine (Config.requireText_refuses (by simp)).bind ?_
  intro subject _
  exact (Config.requireText_refuses (by simp)).bind fun _ _ => .ok ()

theorem openUrl_refuses :
    RefusesByName ["url"] ((openUrl : Handler σ).validate config) := by
  refine (Config.requireText_refuses (by simp)).bind ?_
  intro url _
  exact .ite (.refuse (by simp) _) (.ok ())

theorem location_refuses :
    RefusesByName ["action", "latitude", "longitude"]
      ((location : Handler σ).validate config) := by
  refine (chooseAction_refuses locationActions (by simp)).bind ?_
  intro action _
  refine .ite ?_ (.ok ())
  refine (Config.number_refuses (by simp)).bind ?_
  intro latitude _
  exact (Config.number_refuses (by simp)).bind fun _ _ => .ok ()

theorem clipboard_refuses :
    RefusesByName ["action", "text"] ((clipboard : Handler σ).validate config) := by
  refine (chooseAction_refuses clipboardActions (by simp)).bind ?_
  intro action _
  exact .ite ((Config.requireText_refuses (by simp)).bind fun _ _ => .ok ()) (.ok ())

theorem openApp_refuses (directory : AppDirectory) :
    RefusesByName ["appName"] ((openApp directory : Handler σ).validate config) :=
  .ite (.refuse (by simp) _) (.ok ())

theorem conditional_refuses :
    RefusesByName ["variable", "condition", "value"]
      ((conditional : Handler σ).validate config) := by
  refine (Config.requireText_refuses (by simp)).bind ?_
  intro variableName _
  refine (Config.requireText_refuses (by simp)).bind ?_
  intro operator _
  split
  · exact .refuse (by simp) _
  · exact .ite (.refuse (by simp) _) (.ok ())

theorem loop_refuses :
    RefusesByName ["type", "count"] ((loop : Handler σ).validate config) := by
  refine (Config.require_refuses (by simp) none).bind ?_
  intro loopType _
  exact .ite ((iterations_refuses (by simp)).bind fun _ _ => .ok ()) (.ok ())

/-! ## The address of a request -/

/-- **The fault of an address that cannot be taken apart** by an edition of the rules, in the
configuration of a request. -/
def AddressFault (edition : Url.Edition) (config : Fields) (fault : Fault) : Prop :=
  ∃ url, Config.requireText config "url" = .ok url ∧
    Url.isWeb edition (Text.trimmed url) = .error fault

/-- **What is wrong with a host**: its brackets, what stands in them, or its look. -/
inductive IsHostFault : Fault → Prop
  | unbalanced : IsHostFault .unbalancedHost
  | misversioned : IsHostFault .misversionedHost
  | dotted : IsHostFault .dottedHost
  | unaddressed (inside : String) : IsHostFault (.unaddressedHost inside)
  | deceptive (host : String) : IsHostFault (.deceptiveHost host)

variable {edition : Url.Edition} {config} {fault : Fault}

/-- What stands in brackets can only be wrong by itself. -/
theorem checkAddress_fault {inside : List Char} (h : Url.checkAddress inside = .error fault) :
    IsHostFault fault := by
  unfold Url.checkAddress at h
  split at h
  · split at h
    · cases h
    · exact Except.error.inj h ▸ .misversioned
  · split at h
    · exact Except.error.inj h ▸ .dotted
    · split at h
      · cases h
      · exact Except.error.inj h ▸ .unaddressed _

/-- The brackets of a host are unbalanced, or wrong by what stands in them. -/
theorem checkBrackets_fault {host : List Char}
    (h : Url.checkBrackets edition host = .error fault) : IsHostFault fault := by
  unfold Url.checkBrackets at h
  split at h
  · exact Except.error.inj h ▸ .unbalanced
  · split at h
    · exact checkAddress_fault h
    · cases h

/-- The host of an address cannot be taken apart for what is wrong with it. -/
theorem hostOf_fault {cs : List Char} (h : Url.hostOf edition cs = .error fault) :
    IsHostFault fault := by
  unfold Url.hostOf at h
  split at h
  next rest =>
    dsimp only at h
    generalize rest.takeWhile (!Url.endsHost ·) = host at h
    rcases bind_eq_error_iff.mp h with hbrackets | ⟨-, -, h⟩
    · exact checkBrackets_fault hbrackets
    · rcases bind_eq_error_iff.mp h with hlook | ⟨-, -, h⟩
      · unfold Url.checkLook at hlook
        split at hlook
        · exact Except.error.inj hlook ▸ .deceptive _
        · cases hlook
      · cases h
  next => cases h

/-- An address cannot be taken apart if its host cannot. -/
theorem isWeb_fault {s : String} (h : Url.isWeb edition s = .error fault) :
    IsHostFault fault := by
  unfold Url.isWeb Url.parts at h
  dsimp only at h
  generalize Url.splitScheme _ = taken at h
  cases hhost : Url.hostOf edition taken.2 with
  | error fault' =>
    rw [hhost] at h
    obtain rfl : fault' = fault := Except.error.inj h
    exact hostOf_fault hhost
  | ok host =>
    rw [hhost] at h
    cases h

/-- The fault of an address is no configuration fault. -/
theorem AddressFault.ne_configuration (h : AddressFault edition config fault)
    (field detail : String) : fault ≠ .configuration field detail := by
  obtain ⟨url, -, hweb⟩ := h
  rintro rfl
  cases isWeb_fault hweb

/-- The fault of an address goes through the check of a request. -/
theorem AddressFault.validate_webhook (h : AddressFault edition config fault) :
    (webhook edition : Handler σ).validate config = .error fault := by
  obtain ⟨url, hurl, hweb⟩ := h
  simp only [webhook, hurl, hweb, bind, Except.bind]

/-- The check of a request refuses by name but for that. -/
theorem webhook_refuses (h : ∀ fault, ¬ AddressFault edition config fault) :
    RefusesByName ["url", "method", "headers"] ((webhook edition : Handler σ).validate config) := by
  refine (Config.requireText_refuses (by simp)).bind ?_
  intro url hurl
  refine RefusesByName.bind ?_ ?_
  · -- any fault of the address itself would be the excluded one
    intro fault hweb
    exact absurd ⟨url, hurl, hweb⟩ (h fault)
  · intro isWeb _
    refine .ite (.refuse_bind (by simp) _) ?_
    refine .ite (.refuse_bind (by simp) _) ?_
    exact .ite (.refuse (by simp) _) (.ok ())

end Steps

/-! ## The built-in registries -/

/-- **A handler is plain in refusing** if its faults are configuration faults, save for an address
that cannot be taken apart. -/
def Handler.RefusesPlainly (handler : Handler σ) : Prop :=
  ∀ config fault, handler.validate config = .error fault →
    (∃ field detail, fault = .configuration field detail) ∨
      ∃ edition, handler = Steps.webhook edition ∧ Steps.AddressFault edition config fault

/-- A handler that refuses by name is plain in refusing. -/
theorem Handler.RefusesPlainly.byName {handler : Handler σ}
    (h : ∀ config, RefusesByName fields (handler.validate config)) : handler.RefusesPlainly := by
  intro config fault hfault
  obtain ⟨field, -, detail, heq⟩ := h config fault hfault
  exact .inl ⟨field, detail, heq⟩

/-- The check of a request refuses by name, or lets the fault of its address through. -/
theorem Steps.webhook_refusesPlainly (edition : Url.Edition) :
    (Steps.webhook edition : Handler σ).RefusesPlainly := by
  intro config fault hfault
  by_cases haddress : ∃ other, Steps.AddressFault edition config other
  · obtain ⟨other, hother⟩ := haddress
    obtain rfl : other = fault := Except.error.inj (hother.validate_webhook.symm.trans hfault)
    exact .inr ⟨edition, rfl, hother⟩
  · have hfree : ∀ other, ¬ Steps.AddressFault edition config other :=
      fun other hother => haddress ⟨other, hother⟩
    obtain ⟨field, -, detail, heq⟩ := Steps.webhook_refuses hfree fault hfault
    exact .inl ⟨field, detail, heq⟩

/-- **The handlers of a built-in registry are plain in refusing.** -/
theorem Registry.IsBuiltIn.refusesPlainly {registry : Registry σ} (h : registry.IsBuiltIn)
    {stepType : String} {handler : Handler σ} (hget : registry.get? stepType = some handler) :
    handler.RefusesPlainly :=
  h.elim (motive := Handler.RefusesPlainly) (.byName Steps.notification_refuses)
    (.byName Steps.delay_refuses) (.byName Steps.setVariable_refuses)
    (.byName Steps.getVariable_refuses) (.byName Steps.textOperation_refuses)
    (.byName Steps.arithmetic_refuses) (.byName Steps.shortMessage_refuses)
    (.byName Steps.call_refuses) (.byName Steps.mail_refuses) Steps.webhook_refusesPlainly
    (.byName Steps.openUrl_refuses) (.byName Steps.location_refuses)
    (.byName Steps.clipboard_refuses)
    (fun directory => .byName fun config => Steps.openApp_refuses config directory)
    (.byName Steps.conditional_refuses) (.byName Steps.loop_refuses) hget

namespace Preflight

variable {registry : Registry σ} {step : Step}

/-! ## Reports -/

/-- **What stops the report on a step**: a fault of its handler that is no configuration fault. -/
def Stops (registry : Registry σ) (step : Step) (fault : Fault) : Prop :=
  ∃ handler, registry.get? step.type = some handler ∧
    handler.validate (sampled handler.sampleValues step.config) = .error fault ∧
      ∀ field detail, fault ≠ .configuration field detail

/-- **The check of a step ends with a fault** exactly if that is what stops it. -/
theorem checkStep_eq_error_iff {index : Int} {fault : Fault} :
    checkStep registry step index = .error fault ↔ Stops registry step fault := by
  unfold checkStep
  dsimp only
  constructor
  · intro h
    split at h
    next => cases h
    next handler hget =>
      split at h
      next => cases h
      next => cases h
      next other hother hvalidate =>
        obtain rfl : other = fault := Except.error.inj h
        exact ⟨handler, hget, hvalidate, hother⟩
  · rintro ⟨handler, hget, hvalidate, hother⟩
    rw [hget]
    dsimp only
    rw [hvalidate]
    -- of the three outcomes of a check, only the fault of another kind is left
    split
    next h => cases h
    next field detail h => exact absurd (Except.error.inj h) (hother field detail)
    next other _ h =>
      obtain rfl : fault = other := Except.error.inj h
      rfl

/-- A disabled step is passed over. -/
theorem checkSteps_of_disabled {index : Nat} {rest : List Step} (h : step.enabled = false) :
    checkSteps registry index (step :: rest) = checkSteps registry (index + 1) rest := by
  rw [checkSteps, if_neg (by rw [h]; exact Bool.false_ne_true)]
  cases checkSteps registry (index + 1) rest with
  | error fault => rfl
  | ok messages => rfl

/-- An enabled step comes before the rest. -/
theorem exists_checkSteps_of_enabled {index : Nat} {rest : List Step} (h : step.enabled = true) :
    (∃ messages, checkSteps registry index (step :: rest) = .ok messages) ↔
      (∀ fault, ¬ Stops registry step fault) ∧
        ∃ messages, checkSteps registry (index + 1) rest = .ok messages := by
  rw [checkSteps, if_pos h]
  cases hcheck : checkStep registry step index with
  | error fault =>
    constructor
    · rintro ⟨messages, ⟨⟩⟩
    · rintro ⟨hfree, -⟩
      exact absurd (checkStep_eq_error_iff.mp hcheck) (hfree fault)
  | ok here =>
    have hfree : ∀ fault, ¬ Stops registry step fault := by
      intro fault hstops
      rw [checkStep_eq_error_iff.mpr hstops] at hcheck
      cases hcheck
    constructor
    · rintro ⟨messages, hmessages⟩
      obtain ⟨_, -, hmessages⟩ := bind_eq_ok_iff.mp hmessages
      obtain ⟨behind, hrest, -⟩ := bind_eq_ok_iff.mp hmessages
      exact ⟨hfree, behind, hrest⟩
    · rintro ⟨-, behind, hrest⟩
      refine ⟨here ++ behind, bind_eq_ok_iff.mpr ⟨here, rfl, ?_⟩⟩
      exact bind_eq_ok_iff.mpr ⟨behind, hrest, rfl⟩

/-- **Steps are reported on** unless an enabled one of them is stopped. -/
theorem exists_checkSteps_iff {index : Nat} {steps : List Step} :
    (∃ messages, checkSteps registry index steps = .ok messages) ↔
      ∀ step ∈ steps, step.enabled = true → ∀ fault, ¬ Stops registry step fault := by
  induction steps generalizing index with
  | nil =>
    constructor
    · rintro - step ⟨⟩
    · intro _
      exact ⟨[], rfl⟩
  | cons step rest ih =>
    rw [List.forall_mem_cons]
    cases henabled : step.enabled with
    | false =>
      rw [checkSteps_of_disabled henabled, ih]
      exact ⟨fun hrest => ⟨nofun, hrest⟩, And.right⟩
    | true =>
      rw [exists_checkSteps_of_enabled henabled, ih]
      exact and_congr_left fun _ => ⟨fun hfree _ => hfree, fun hfree => hfree rfl⟩

/-- **An automation is reported on** unless an enabled step of it is stopped. -/
theorem exists_check_iff {automation : Automation} :
    (∃ messages, check registry automation = .ok messages) ↔
      ∀ step ∈ automation.steps, step.enabled = true → ∀ fault, ¬ Stops registry step fault := by
  unfold check
  cases hsteps : automation.steps with
  | nil =>
    constructor
    · rintro - step ⟨⟩
    · intro _
      exact ⟨_, rfl⟩
  | cons step rest => exact exists_checkSteps_iff

/-- **A built-in check stops for an address only**: the handler of a step is the one of requests,
and the address it is given cannot be taken apart. -/
theorem stops_iff (hregistry : registry.IsBuiltIn) {fault : Fault} :
    Stops registry step fault ↔ ∃ edition, registry.get? step.type = some (Steps.webhook edition) ∧
      Steps.AddressFault edition
        (sampled (Steps.webhook edition : Handler σ).sampleValues step.config) fault := by
  constructor
  · rintro ⟨handler, hget, hfault, hother⟩
    rcases hregistry.refusesPlainly hget _ _ hfault with
      ⟨field, detail, heq⟩ | ⟨edition, rfl, haddress⟩
    · exact absurd heq (hother field detail)
    · exact ⟨edition, hget, haddress⟩
  · rintro ⟨edition, hget, haddress⟩
    exact ⟨_, hget, haddress.validate_webhook, haddress.ne_configuration⟩

/-- **The check of an automation reports, but for addresses.** Every handler of a built-in registry
accepts a configuration or refuses it by a configuration fault, unless it is the handler of requests
and the address cannot be taken apart; and an automation is reported on exactly if no enabled step
of it is a request with such an address. This is so by either edition of the rules for addresses,
as far as the values that a report may quote can be written. -/
theorem reports_unless_addressFault (hregistry : registry.IsBuiltIn) :
    (∀ stepType handler, registry.get? stepType = some handler → ∀ config : Fields,
      (Value.object config).isShowable = true →
      handler.validate config = .ok () ∨
      (∃ field detail, handler.validate config = .error (.configuration field detail)) ∨
      ∃ edition fault, handler = Steps.webhook edition ∧
        Steps.AddressFault edition config fault) ∧
    ∀ automation : Automation, automation.toValue.isShowable = true →
      ((∃ messages, check registry automation = .ok messages) ↔
        ∀ step ∈ automation.steps, step.enabled = true → ∀ edition,
          registry.get? step.type = some (Steps.webhook edition) → ∀ fault,
            ¬ Steps.AddressFault edition
              (sampled (Steps.webhook edition : Handler σ).sampleValues step.config) fault) := by
  constructor
  · intro stepType handler hget config _
    cases hvalidate : handler.validate config with
    | ok => exact .inl rfl
    | error fault =>
      have hplain := hregistry.refusesPlainly hget config fault hvalidate
      rcases hplain with ⟨field, detail, rfl⟩ | ⟨edition, hwebhook, haddress⟩
      · exact .inr (.inl ⟨field, detail, rfl⟩)
      · exact .inr (.inr ⟨edition, fault, hwebhook, haddress⟩)
  · intro automation _
    simp only [exists_check_iff, stops_iff hregistry, not_exists, not_and]
    exact forall₃_congr fun step _ _ => ⟨fun h edition hget fault => h fault edition hget,
      fun h fault edition hget => h edition hget fault⟩

/-- The registry of a browser has no handler of requests. -/
theorem get?_browser_ne_webhook (stepType : String) (edition : Url.Edition) :
    (Registry.browser : Registry σ).get? stepType ≠ some (Steps.webhook edition) := by
  intro hget
  unfold Registry.get? Registry.browser at hget
  by_cases hopen : "open-app" = stepType
  · -- the browser's own handler opens apps
    subst hopen
    rw [Bindings.find?_put] at hget
    have hname := congrArg Handler.name (Option.some.inj hget)
    exact absurd hname (by simp [Steps.openApp, Steps.webhook])
  · rw [Bindings.find?_put_ne hopen] at hget
    obtain ⟨hdevice, hkept⟩ := List.mem_filter.mp (Bindings.mem_of_find? hget)
    -- in the registry of a device, every handler stands under its own step type
    obtain ⟨listed, -, heq⟩ := List.mem_map.mp hdevice
    obtain rfl : listed = Steps.webhook edition := congrArg Prod.snd heq
    obtain rfl : "webhook" = stepType := congrArg Prod.fst heq
    exact absurd hkept (by simp [Registry.browserStepTypes])

/-- **The check for a browser always reports**, since there are no requests to check; this is said of
automations whose values can be written. -/
theorem exists_check_browser (automation : Automation) :
    ∃ messages, check (Registry.browser : Registry σ) automation = .ok messages := by
  rw [exists_check_iff]
  intro step _ _ fault hstops
  obtain ⟨edition, hget, -⟩ := (stops_iff (.inr rfl)).mp hstops
  exact get?_browser_ne_webhook step.type edition hget

/-- A request to an address, without a body. -/
def requesting (url : String) : Step where
  id := "request"
  type := "webhook"
  config := [("url", .text url)]

/-- There is a report on a request to an address that can be taken apart. -/
theorem reports_on_requesting :
    ∃ messages, check (Registry.device : Registry Unit)
      ⟨"probe", .text "", [requesting "ftp://example.com"]⟩ = .ok messages := by
  refine ((reports_unless_addressFault (.inl ⟨_, rfl⟩)).2 _ (by decide +kernel)).mpr ?_
  intro step hstep _ edition _ fault
  obtain rfl : step = requesting "ftp://example.com" := List.mem_singleton.mp hstep
  rintro ⟨url, hurl, hweb⟩
  obtain ⟨_, hread, rfl⟩ := exists_ok_of_map
    (Config.requireText (sampled (Steps.webhook edition : Handler Unit).sampleValues
      (requesting "ftp://example.com").config) "url") id "ftp://example.com"
    (by cases edition <;> decide +kernel)
  obtain rfl : "ftp://example.com" = url := Except.ok.inj (hread.symm.trans hurl)
  -- the scheme is wrong, but the address can be taken apart
  obtain ⟨_, hok, -⟩ := exists_ok_of_map (Url.isWeb edition (Text.trimmed "ftp://example.com")) id
    false (by cases edition <;> decide +kernel)
  cases hok.symm.trans hweb

/-- **An unbalanced bracket in an address ends the check**: there is no report at all. -/
theorem check_unbalanced : ∃ automation,
    Automation.ofValue (.object [("steps", .list [(requesting "http://[").toValue])]) =
      .ok automation ∧
    check (Registry.device : Registry Unit) automation = .error .unbalancedHost := by
  obtain ⟨automation, hautomation, hcheck⟩ := exists_ok_of_map
    (Automation.ofValue (.object [("steps", .list [(requesting "http://[").toValue])]))
    (fun automation => fault? (check (Registry.device : Registry Unit) automation))
    (some .unbalancedHost) (by decide +kernel)
  exact ⟨automation, hautomation, fault?_eq_some_iff.mp hcheck⟩

end Preflight

end Stepwise
