import Stepwise.Proofs.Run.Persistence
import Stepwise.Simulation
import Mathlib.Data.List.TakeWhile

/-! # What is handed to navigation and to messaging

Six step types open addresses or compose messages. What they hand over should be *well-formed*
(`Request.IsWellFormed`): an address is a text and not blank, a phone number is not blank and has no
blanks at its ends, and a recipient has the form of a mail address and no blanks at its ends.

It is, but for two fields that are passed on as they are (`Steps.PassesOn`): the address that an
`open-app` step names itself, and the number that a `location` step shares its place with. All other
addresses and numbers are made or checked by the step. `Controller.start_hands_over` says so of
every request of a run; it goes back to what each handler asks for (`Action.Asks`). -/

namespace Stepwise

variable {σ α β : Type}

/-! ## Mail addresses -/

/-- The form of a mail address: something in front of an `@`, and behind it a point with something
on either side, all of it without blanks and without another `@`. -/
def Text.IsMailAddress (s : String) : Prop :=
  ∃ user host domain : List Char, s.toList = user ++ '@' :: (host ++ '.' :: domain) ∧
    user ≠ [] ∧ host ≠ [] ∧ domain ≠ [] ∧
    ∀ c ∈ user ++ host ++ domain, Unicode.isBlank c = false ∧ c ≠ '@'

/-- A text that passes for a mail address has the form of one. -/
theorem Steps.isMailAddress_form {s : String} (h : isMailAddress s.toList = true) :
    Text.IsMailAddress s := by
  have happend := Text.spanUntil_append (· == '@') s.toList
  have hstop := List.head?_dropWhile_not (fun c => !(c == '@')) s.toList
  unfold isMailAddress at h
  split at h
  next user mark domain hspan =>
    simp only [Bool.and_eq_true, Bool.not_eq_true', List.isEmpty_eq_false_iff, List.all_eq_true,
      List.contains_iff_mem] at h
    obtain ⟨⟨⟨huser, huserChars⟩, hdomainChars⟩, hpoint⟩ := h
    rw [hspan] at happend
    obtain rfl : mark = '@' := by
      have hdrop : s.toList.dropWhile (fun c => !(c == '@')) = mark :: domain :=
        congrArg Prod.snd hspan
      rw [hdrop] at hstop
      simpa using hstop
    -- the point is neither the first nor the last character of the domain
    obtain ⟨first, rest, rfl⟩ : ∃ first rest, domain = first :: rest := by
      cases domain with
      | nil => cases hpoint
      | cons first rest => exact ⟨first, rest, rfl⟩
    rw [List.drop_one, List.tail_cons] at hpoint
    obtain ⟨before, after, hinner⟩ := List.append_of_mem hpoint
    have hrest : rest ≠ [] := by
      rintro rfl
      cases hpoint
    have hdomain : rest = before ++ '.' :: (after ++ [rest.getLast hrest]) := by
      rw [← List.cons_append, ← List.append_assoc, ← hinner, List.dropLast_append_getLast]
    refine ⟨user, first :: before, after ++ [rest.getLast hrest], ?_, huser,
      List.cons_ne_nil _ _, by simp, ?_⟩
    · rw [← happend, List.cons_append, ← hdomain]
    · intro c hc
      have hchar : isAddressChar c = true := by
        rcases List.mem_append.mp hc with hc | hc
        · rcases List.mem_append.mp hc with hc | hc
          · exact huserChars c hc
          · refine hdomainChars c ?_
            rw [hdomain]
            simp only [List.mem_cons, List.mem_append] at hc ⊢
            tauto
        · refine hdomainChars c ?_
          rw [hdomain]
          exact List.mem_cons_of_mem _ (List.mem_append_right _ (List.mem_cons_of_mem _ hc))
      simpa [isAddressChar] using hchar
  next => cases h

/-! ## Requests -/

/-- **A well-formed request**: an address to open is a text and not blank, a phone number is not
blank and has no blanks at its ends, and a recipient is a mail address without blanks at its
ends. -/
def Request.IsWellFormed : Request → Prop
  | .openUrl url => ∃ address, url = .text address ∧ Text.isBlank address = false
  | .composeSms phone _ => Text.isBlank phone = false ∧ Text.IsTrimmed phone
  | .composeEmail recipient _ _ => Text.IsMailAddress recipient ∧ Text.IsTrimmed recipient
  | _ => True

namespace Action

/-- **An action asks for good things only**: so are all the requests that it makes. -/
def Asks (good : Request → Prop) (action : Action σ α) : Prop :=
  ∀ store world, ∀ request ∈ (action.run store world).requests, good request

namespace Asks

variable {good : Request → Prop}

/-- Giving a value. -/
theorem pure (value : α) : Asks good (pure value : Action σ α) := fun _ _ => nofun

/-- Failing. -/
theorem fail (fault : Fault) : Asks good (fail fault : Action σ α) := fun _ _ => nofun

/-- Failing, whatever would have come after that. -/
theorem fail_bind (fault : Fault) (next : α → Action σ β) :
    Asks good (Action.fail fault >>= next) :=
  fun _ _ => nofun

/-- Leaving a note. -/
theorem note (entry : Note) : Asks good (note entry : Action σ Unit) := fun _ _ => nofun

/-- Looking at the store. -/
theorem getStore : Asks good (getStore : Action σ Store) := fun _ _ => nofun

/-- Binding a variable. -/
theorem setVariable (name : String) (value : Value) :
    Asks good (setVariable name value : Action σ Unit) :=
  fun _ _ => nofun

/-- Asking whether something is provided. -/
theorem reach (context : Context σ) (name stepType : String) :
    Asks good (context.reach name stepType) := by
  unfold Context.reach
  split
  · exact pure ()
  · exact fail _

/-- Making a request. -/
theorem request (platform : Platform σ) {request : Request} (h : good request) :
    Asks good (Action.request platform request) := by
  intro _ _ asked hasked
  rw [List.mem_singleton.mp hasked]
  exact h

/-- Calling a collaborator. -/
theorem call (platform : Platform σ) (attempt : String) {request : Request} (h : good request) :
    Asks good (Action.call platform attempt request) := by
  intro _ _ asked hasked
  rw [List.mem_singleton.mp hasked]
  exact h

/-- **One action after another** asks for what the two ask for. -/
theorem bind {first : Action σ α} {next : α → Action σ β} (h : Asks good first)
    (hnext : ∀ value, Asks good (next value)) : Asks good (first >>= next) := by
  intro store world request hrequest
  cases hresult : (first.run store world).result with
  | error fault =>
    rw [run_bind_error hresult] at hrequest
    exact h store world request hrequest
  | ok value =>
    rw [run_bind_ok hresult] at hrequest
    rcases List.mem_append.mp hrequest with hearlier | hlater
    · exact h store world request hearlier
    · exact hnext value _ _ request hlater

/-- Going on with the value of a computation, if it has one. -/
theorem lift_bind {computed : Except Fault α} {next : α → Action σ β}
    (h : ∀ value, computed = .ok value → Asks good (next value)) :
    Asks good (liftM computed >>= next) := by
  cases computed with
  | error fault => exact fun _ _ => nofun
  | ok value => exact h value rfl

/-- Branching. -/
theorem ite {c : Prop} [Decidable c] {yes no : Action σ α} (hyes : c → Asks good yes)
    (hno : ¬ c → Asks good no) : Asks good (if c then yes else no) := by
  split
  next hc => exact hyes hc
  next hc => exact hno hc

end Asks

end Action

/-! ## Handlers -/

namespace Steps

/-- **A value that is passed on as it is**: the address that an `open-app` step names itself, and
the number that a `location` step shares its place with. -/
inductive PassesOn (stepType : String) (config : Fields) : Request → Prop
  /-- The address of an app, whatever value it is. -/
  | address (htype : stepType = "open-app") (hurl : (Value.field "url" config).isTrue = true) :
      PassesOn stepType config (.openUrl (Value.field "url" config))
  /-- A phone number, whatever its text is. -/
  | number (htype : stepType = "location")
      (haction : chooseAction locationActions config = .ok "share")
      (hphone : (Value.field "phoneNumber" config).isTrue = true) (message : Value) :
      PassesOn stepType config (.composeSms (Value.field "phoneNumber" config).toText message)

end Steps

/-- **A handler that hands over well-formed requests**, once it has accepted a configuration, but
for what it passes on. -/
def Handler.HandsOver (handler : Handler σ) : Prop :=
  ∀ config context, handler.validate config = .ok () →
    (handler.execute config context).Asks fun request =>
      request.IsWellFormed ∨ Steps.PassesOn handler.stepType config request

namespace Steps

open Stepwise.Action (Asks)

theorem handsOver_notification : (notification : Handler σ).HandsOver := by
  intro config context _
  refine (Asks.reach _ _ _).bind fun _ => .lift_bind fun message _ => ?_
  exact (Asks.call _ _ (.inl trivial)).bind fun _ => .pure _

theorem handsOver_delay : (delay : Handler σ).HandsOver := by
  intro config context _
  refine .lift_bind fun ms _ => ?_
  exact (Asks.request _ (.inl trivial)).bind fun _ => .pure _

theorem handsOver_setVariable : (setVariable : Handler σ).HandsOver := by
  intro config context _
  refine .lift_bind fun name _ => .lift_bind fun value _ => ?_
  exact (Asks.setVariable _ _).bind fun _ => (Asks.note _).bind fun _ => .pure _

theorem handsOver_getVariable : (getVariable : Handler σ).HandsOver := by
  intro config context _
  exact .lift_bind fun name _ => Asks.getStore.bind fun store => .pure _

theorem handsOver_textOperation : (textOperation : Handler σ).HandsOver := by
  intro config context _
  exact .lift_bind fun action _ => .pure _

theorem handsOver_arithmetic : (arithmetic : Handler σ).HandsOver := by
  intro config context _
  refine .lift_bind fun operation _ => .lift_bind fun x _ => .lift_bind fun y _ => ?_
  exact .lift_bind fun result _ => .ite (fun _ => .fail_bind _ _) fun _ => .pure _

/-- A short message goes to the number that was required, without the blanks at its ends. -/
theorem handsOver_shortMessage : (shortMessage : Handler σ).HandsOver := by
  intro config context hvalid
  obtain ⟨number, hnumber, -⟩ := bind_eq_ok_iff.mp hvalid
  refine (Asks.reach _ _ _).bind fun _ => .lift_bind fun phone hphone => ?_
  obtain rfl : Text.trimmed number = phone :=
    Except.ok.inj ((Config.trimmed_of_requireText hnumber).symm.trans hphone)
  have hfit : (Request.composeSms (Text.trimmed number) .null).IsWellFormed :=
    ⟨Text.isBlank_trimmed (Config.isBlank_of_requireText hnumber), Text.isTrimmed_trimmed number⟩
  refine .lift_bind fun message _ => .lift_bind fun length _ => ?_
  exact (Asks.note _).bind fun _ => (Asks.call _ _ (.inl hfit)).bind fun _ => .pure _

/-- A mail goes to the address that was checked, without the blanks at its ends. -/
theorem handsOver_mail : (mail : Handler σ).HandsOver := by
  intro config context hvalid
  obtain ⟨given, hgiven, hvalid⟩ := bind_eq_ok_iff.mp hvalid
  obtain ⟨hform, -⟩ := of_refuseIf_eq_ok nofun hvalid
  rw [Bool.not_eq_false'] at hform
  refine (Asks.reach _ _ _).bind fun _ => .lift_bind fun recipient hrecipient => ?_
  obtain rfl : Text.trimmed given = recipient :=
    Except.ok.inj ((Config.trimmed_of_requireText hgiven).symm.trans hrecipient)
  have hmail : Text.IsMailAddress (Text.trimmed given) := by
    refine isMailAddress_form ?_
    rw [Text.trimmed, String.toList_ofList]
    exact hform
  refine .lift_bind fun subject _ => .lift_bind fun message _ => ?_
  exact (Asks.call _ _ (.inl ⟨hmail, Text.isTrimmed_trimmed given⟩)).bind fun _ => .pure _

theorem handsOver_webhook (edition : Url.Edition) : (webhook edition : Handler σ).HandsOver := by
  intro config context _
  refine (Asks.reach _ _ _).bind fun _ => .lift_bind fun url _ => .lift_bind fun headers _ => ?_
  refine (Asks.note _).bind fun _ => (Asks.call _ _ (.inl trivial)).bind fun response => ?_
  exact .ite (fun _ => .fail_bind _ _) fun _ => .pure _

theorem handsOver_clipboard : (clipboard : Handler σ).HandsOver := by
  intro config context _
  refine (Asks.reach _ _ _).bind fun _ => .lift_bind fun action _ => .ite (fun _ => ?_) fun _ => ?_
  · exact .lift_bind fun text _ => (Asks.call _ _ (.inl trivial)).bind fun _ => .pure _
  · exact (Asks.call _ _ (.inl trivial)).bind fun _ => .pure _

theorem handsOver_conditional : (conditional : Handler σ).HandsOver := by
  intro config context _
  refine .lift_bind fun name _ => .lift_bind fun operator _ => Asks.getStore.bind fun store => ?_
  refine .lift_bind fun actual _ => ?_
  -- a warning, if there is one, is only a note before the comparison
  cases Condition.warning? actual operator (Value.field "value" config) with
  | none => exact .lift_bind fun met _ => (Asks.note _).bind fun _ => .pure _
  | some warning =>
    exact (Asks.note _).bind fun _ => .lift_bind fun met _ => (Asks.note _).bind fun _ => .pure _

theorem handsOver_loop : (loop : Handler σ).HandsOver := by
  intro config context _
  refine .lift_bind fun loopType _ => .ite (fun _ => ?_) fun _ => .pure _
  exact .lift_bind fun count _ => .pure _

/-! ## Addresses -/

/-- Opening an address. -/
theorem openAddress_asks {good : Request → Prop} (context : Context σ) {url : Value}
    (h : good (.openUrl url)) : (openAddress context url).Asks good := by
  refine (Asks.call _ _ h).bind fun opened => ?_
  exact .ite (fun _ => (Asks.note _).bind fun _ => .fail _) fun _ => .pure ()

/-- An address that is a text with something in it besides blanks. -/
theorem isWellFormed_openUrl_append {first second : String}
    (h : Text.isBlank first = false ∨ Text.isBlank second = false) :
    (Request.openUrl (.text (first ++ second))).IsWellFormed := by
  refine ⟨_, rfl, ?_⟩
  rw [Text.isBlank_append]
  rcases h with h | h
  · rw [h, Bool.false_and]
  · rw [h, Bool.and_false]

/-- An `open-url` step opens the address that was required, without the blanks at its ends. -/
theorem handsOver_openUrl : (openUrl : Handler σ).HandsOver := by
  intro config context hvalid
  obtain ⟨given, hgiven, -⟩ := bind_eq_ok_iff.mp hvalid
  refine (Asks.reach _ _ _).bind fun _ => .lift_bind fun url hurl => ?_
  obtain rfl : Text.trimmed given = url :=
    Except.ok.inj ((Config.trimmed_of_requireText hgiven).symm.trans hurl)
  have hfit : (Request.openUrl (.text (Text.trimmed given))).IsWellFormed :=
    ⟨_, rfl, Text.isBlank_trimmed (Config.isBlank_of_requireText hgiven)⟩
  exact (openAddress_asks context (.inl hfit)).bind fun _ => .pure _

/-- A `call` step opens an address that it makes itself. -/
theorem handsOver_call : (call : Handler σ).HandsOver := by
  intro config context _
  refine (Asks.reach _ _ _).bind fun _ => .lift_bind fun phone _ => ?_
  have hfit : (Request.openUrl (.text ("tel:" ++ Url.encode ['+'] phone))).IsWellFormed :=
    isWellFormed_openUrl_append (.inl (by decide))
  exact (openAddress_asks context (.inl hfit)).bind fun _ => .pure _

/-- Whether all addresses of a directory are texts and not blank. -/
def listsAddresses (directory : AppDirectory) : Bool :=
  directory.urls.all fun entry => (entry.2.text?.map fun url => !Text.isBlank url).getD false

/-- An app is opened by an address of the directory or by a scheme. -/
theorem isWellFormed_resolve {directory : AppDirectory} (h : listsAddresses directory = true)
    {appName : String} (hfound : (directory.resolve appName).isTrue = true) :
    (Request.openUrl (directory.resolve appName)).IsWellFormed := by
  unfold AppDirectory.resolve at hfound ⊢
  dsimp only at hfound ⊢
  split at hfound
  next url hurl =>
    have hlisted := List.all_eq_true.mp h _ (Bindings.mem_of_find? hurl)
    cases url with
    | text address => exact ⟨address, rfl, by simpa [Value.text?] using hlisted⟩
    | _ => cases hlisted
  next =>
    split at hfound
    next hscheme =>
      rw [if_pos hscheme]
      exact isWellFormed_openUrl_append (.inr (by decide))
    next => cases hfound

/-- **An `open-app` step** passes its own address on; one from the directory is well-formed. -/
theorem handsOver_openApp {directory : AppDirectory} (h : listsAddresses directory = true) :
    (openApp directory : Handler σ).HandsOver := by
  intro config context _
  refine (Asks.reach _ _ _).bind fun _ => .ite (fun _ => .fail_bind _ _) fun hurl => ?_
  refine (openAddress_asks context ?_).bind fun _ => .pure _
  unfold Value.orElse at hurl ⊢
  split
  next hown => exact .inr (.address rfl hown)
  next hown =>
    rw [if_neg hown] at hurl
    exact .inl (isWellFormed_resolve h (by simpa using hurl))

/-! ## Places -/

/-- Asking for the position. -/
theorem currentPosition_asks {good : Request → Prop} (context : Context σ) (h : good .position) :
    (currentPosition context).Asks good :=
  (Asks.reach _ _ _).bind fun _ => .call _ _ h

/-- Sharing a place passes the number on that it is shared with. -/
theorem sharePosition_asks {config : Fields}
    (haction : chooseAction locationActions config = .ok "share") (context : Context σ) :
    (sharePosition config context).Asks fun request =>
      request.IsWellFormed ∨ PassesOn "location" config request := by
  refine (currentPosition_asks context (.inl trivial)).bind fun position => ?_
  refine .lift_bind fun address _ => ?_
  dsimp only
  split
  next hphone =>
    refine (Asks.note _).bind fun _ => (Asks.reach _ _ _).bind fun _ => ?_
    exact (Asks.call _ _ (.inr (.number rfl haction hphone _))).bind fun _ => .pure _
  next => exact .pure _

/-- Opening a map opens an address that is made there. -/
theorem openMap_asks (config : Fields) (context : Context σ) :
    (openMap config context).Asks Request.IsWellFormed := by
  have hplace : (mapPlace config context).Asks Request.IsWellFormed := by
    refine .ite (fun _ => ?_) fun _ => ?_
    · exact (currentPosition_asks context trivial).bind fun position => .pure _
    · exact .lift_bind fun latitude _ => .lift_bind fun longitude _ => .pure _
  refine (Asks.reach _ _ _).bind fun _ => hplace.bind fun (latitude, longitude) => ?_
  refine .lift_bind fun place _ => ?_
  refine (openAddress_asks context (isWellFormed_openUrl_append (.inl ?_))).bind fun _ => .pure _
  -- whatever the place looks like, the label behind it is announced
  rw [Text.isBlank_append, show Text.isBlank "&label=" = false by decide, Bool.and_false]

/-- **A `location` step** passes on the number that it shares its place with; the address of a map
is one that it makes itself. -/
theorem handsOver_location : (location : Handler σ).HandsOver := by
  intro config context _
  refine .lift_bind fun action haction => .ite (fun _ => ?_) fun _ => .ite (fun hshare => ?_)
    fun _ => ?_
  · exact (currentPosition_asks context (.inl trivial)).bind fun position => .pure _
  · rw [beq_iff_eq] at hshare
    subst hshare
    exact sharePosition_asks haction context
  · exact fun store world request hrequest =>
      .inl (openMap_asks config context store world request hrequest)

end Steps

/-! ## Runs -/

/-- **The handlers of a built-in registry** hand over well-formed requests. -/
theorem Registry.IsBuiltIn.handsOver {registry : Registry σ} (h : registry.IsBuiltIn)
    {stepType : String} {handler : Handler σ} (hget : registry.get? stepType = some handler) :
    handler.HandsOver := by
  have hbuiltIn : ∀ edition, ∀ known ∈ (builtIn edition : List (Handler σ)), known.HandsOver := by
    intro edition
    simp only [builtIn, List.forall_mem_cons]
    exact ⟨Steps.handsOver_notification, Steps.handsOver_delay, Steps.handsOver_setVariable,
      Steps.handsOver_getVariable, Steps.handsOver_textOperation, Steps.handsOver_arithmetic,
      Steps.handsOver_shortMessage, Steps.handsOver_call, Steps.handsOver_mail,
      Steps.handsOver_webhook edition, Steps.handsOver_openUrl, Steps.handsOver_location,
      Steps.handsOver_clipboard, Steps.handsOver_openApp (by decide +kernel),
      Steps.handsOver_conditional, Steps.handsOver_loop, List.forall_mem_nil _⟩
  rcases h.mem_builtIn hget with ⟨edition, hmem⟩ | rfl
  · exact hbuiltIn edition handler hmem
  · exact Steps.handsOver_openApp (by decide +kernel)

/-- **A built-in step** hands over well-formed requests, but for what it passes on of its resolved
configuration. -/
theorem Run.dispatch_handsOver {controller : Controller σ}
    (hdraws : controller.registry.DrawsOnBuiltIn) {step : Step} {store : Store} {world : σ}
    {request : Request}
    (h : request ∈ ((dispatch controller step).run store world).requests) :
    request.IsWellFormed ∨ ∃ config, Template.resolveFields store step.config = .ok config ∧
      Steps.PassesOn step.type config request := by
  have hdispatch := dispatchesTo controller step store world
  generalize (dispatch controller step).run store world = outcome at hdispatch h
  cases hdispatch with
  | unknown _ => cases h
  | unresolved _ => cases h
  | refused _ _ _ => cases h
  | performed hget hconfig hvalid =>
    obtain ⟨source, hsource, hfound⟩ := hdraws.get? hget
    rw [← hsource.stepType_eq hfound]
    exact (hsource.handsOver hfound _ _ hvalid store world request h).imp_right
      fun hpasses => ⟨_, hconfig, hpasses⟩

/-- Whether a request composes a message to a number. -/
def Request.sendsTo (number : String) : Request → Bool
  | .composeSms phone _ => phone == number
  | _ => false

/-- Whether a request opens a whole number. -/
def Request.opensInteger : Request → Bool
  | .openUrl (.int _) => true
  | _ => false

/-- Whether a request opens a text. -/
def Request.opensText (text : String) : Request → Bool
  | .openUrl (.text url) => url == text
  | _ => false

namespace Controller

variable {controller : Controller σ} {automation : Automation} {initial : Value}

/-- **What a run hands over is well-formed**, but for two fields. Let the handlers be the built-in
ones. Then every address that is opened is a text and not blank, every number that a short message
goes to is not blank and has no blanks at its ends, and every recipient of a mail is a mail address
without blanks at its ends; or the request was made by an `open-app` step that passed its own `url`
on, or by a `location` step that passed on its own `phoneNumber`. -/
theorem start_hands_over (hbuiltIn : controller.registry.IsBuiltIn) :
    ∀ request ∈ (controller.start automation initial).requests,
      request.IsWellFormed ∨
        ∃ index step, ∃ run : Run σ,
          .dispatched index step run ∈ controller.moments automation initial ∧
          request ∈ (Moment.dispatched index step run).requests ∧
          ∃ config, Template.resolveFields run.store step.config = .ok config ∧
            Steps.PassesOn step.type config request := by
  intro request hrequest
  rw [(start_trace controller automation initial).1, List.mem_flatMap] at hrequest
  obtain ⟨moment, hmoment, hasked⟩ := hrequest
  cases moment with
  | told notice run => cases hasked
  | dispatched index step run =>
    have hdraws := (persists_of_mem_moments hmoment).drawsOnBuiltIn hbuiltIn.drawsOnBuiltIn
    exact (Run.dispatch_handsOver hdraws hasked).imp_right
      fun hpasses => ⟨index, step, run, hmoment, hasked, hpasses⟩

/-- A device with everything wired. -/
def equipped : Controller Simulation.World where
  registry := .device
  platform := ({} : Simulation.Scenario).platform
  world := {}

/-- One step of each type that hands something over, with blanks around what they are given; the
first one binds the number that the next one calls. -/
def outreach : Automation where
  id := "outreach"
  title := .text "Outreach"
  steps := [
    { id := "v", type := "set-variable"
      config := [("name", .text "number"), ("value", .text " +1555 ")] },
    { id := "c", type := "call"
      config := [("phoneNumber", .text "\x7b\x7bnumber\x7d\x7d")] },
    { id := "s", type := "sms"
      config := [("phoneNumber", .text "\x7b\x7bnumber\x7d\x7d"), ("message", .text "Hi")] },
    { id := "m", type := "email"
      config := [("email", .text " ann@example.org\n"), ("subject", .text "Hi"),
        ("message", .text "Hi")] },
    { id := "u", type := "open-url", config := [("url", .text " tel:1 ")] },
    { id := "a", type := "open-app", config := [("appName", .text " Maps ")] }]

/-- Five requests are made, and all of them are well-formed or passed on. -/
theorem start_hands_over_outreach :
    (equipped.start outreach .null).requests.length = 5 ∧
      ∀ request ∈ (equipped.start outreach .null).requests,
        request.IsWellFormed ∨
          ∃ index step, ∃ run : Run Simulation.World,
            .dispatched index step run ∈ equipped.moments outreach .null ∧
            request ∈ (Moment.dispatched index step run).requests ∧
            ∃ config, Template.resolveFields run.store step.config = .ok config ∧
              Steps.PassesOn step.type config request :=
  ⟨by decide +kernel, start_hands_over (.inl ⟨_, rfl⟩ : equipped.registry.IsBuiltIn)⟩

/-- A place is shared with a number that has blanks around it, and two apps are opened by what is no
address. -/
def careless : Automation where
  id := "careless"
  title := .text "Careless"
  steps := [
    { id := "s", type := "location"
      config := [("action", .text "share"), ("phoneNumber", .text " +1555 ")] },
    { id := "n", type := "open-app", config := [("url", .int 5)] },
    { id := "b", type := "open-app", config := [("url", .text "  ")] }]

/-- **What is passed on need not be well-formed**: a number with blanks at its ends, an address that
is no text, and one that is blank. -/
theorem passes_on_ill_formed :
    equipped.registry.IsBuiltIn ∧ equipped.settings.mapsUrl = ({} : Settings).mapsUrl ∧
      (∃ message, .composeSms " +1555 " message ∈ (equipped.start careless .null).requests ∧
        ¬ (Request.composeSms " +1555 " message).IsWellFormed) ∧
      (∃ n, .openUrl (.int n) ∈ (equipped.start careless .null).requests ∧
        ¬ (Request.openUrl (.int n)).IsWellFormed) ∧
      ∃ url, .openUrl (.text url) ∈ (equipped.start careless .null).requests ∧
        ¬ (Request.openUrl (.text url)).IsWellFormed := by
  have hsent : (equipped.start careless .null).requests.any (Request.sendsTo " +1555 ") = true := by
    decide +kernel
  have hnumber : (equipped.start careless .null).requests.any Request.opensInteger = true := by
    decide +kernel
  have hblank : (equipped.start careless .null).requests.any (Request.opensText "  ") = true := by
    decide +kernel
  refine ⟨.inl ⟨_, rfl⟩, rfl, ?_, ?_, ?_⟩
  · obtain ⟨request, hrequest, hphone⟩ := List.any_eq_true.mp hsent
    unfold Request.sendsTo at hphone
    split at hphone
    next phone message =>
      rw [beq_iff_eq] at hphone
      subst hphone
      exact ⟨message, hrequest, fun hfit => absurd (hfit.2.1 ' ' rfl) (by decide)⟩
    next => cases hphone
  · obtain ⟨request, hrequest, hint⟩ := List.any_eq_true.mp hnumber
    unfold Request.opensInteger at hint
    split at hint
    next n => exact ⟨n, hrequest, nofun⟩
    next => cases hint
  · obtain ⟨request, hrequest, hurl⟩ := List.any_eq_true.mp hblank
    unfold Request.opensText at hurl
    split at hurl
    next url =>
      rw [beq_iff_eq] at hurl
      subst hurl
      refine ⟨"  ", hrequest, ?_⟩
      rintro ⟨address, htext, hfit⟩
      obtain rfl := Value.text.inj htext
      exact absurd hfit (by decide)
    next => cases hurl

end Controller

end Stepwise
