import Stepwise.Proofs.Bindings.Lookup
import Stepwise.Proofs.Validation.Agreement

/-! # What the built-in handlers look at

Every handler of the two built-in registries is *uniform*: it accepts or refuses configurations that
look alike in the same way (`Handler.Uniform`, `Registry.IsBuiltIn.uniform`). The checks that
handlers share come first (`chooseAction_agrees`, `delayMs_agrees`, `iterations_agrees`), then one
lemma for each handler, and the registries at the end. -/

namespace Stepwise

variable {σ : Type}

/-- **A handler is uniform** if its check agrees on configurations that look alike. -/
def Handler.Uniform (handler : Handler σ) : Prop :=
  ∀ ⦃config config' : Fields⦄, LookAlike config config' →
    Agrees Eq (handler.validate config) (handler.validate config')

namespace Steps

variable {config config' : Fields}

/-! ## Shared checks -/

/-- A text in brackets is no spelling of a table without brackets. -/
theorem lookup_eq_none {table : List (String × String)}
    (htable : (table.all fun entry => !isBracketed entry.1.toList) = true) {cs : List Char}
    (hcs : isBracketed cs = true) : table.lookup (String.ofList cs) = none := by
  rw [List.lookup_eq_none_iff]
  intro entry hentry
  have hfree := List.all_eq_true.mp htable entry hentry
  rw [bne_iff_ne]
  intro heq
  rw [← heq, String.toList_ofList, hcs] at hfree
  cases hfree

/-- **The choice of an action**: a list or an object is the spelling of none. -/
theorem chooseAction_agrees {table : List (String × String)}
    (htable : (table.all fun entry => !isBracketed entry.1.toList) = true)
    (h : (Value.field "action" config).Alike (Value.field "action" config')) :
    Agrees Eq (chooseAction table config) (chooseAction table config') := by
  refine (h.require none).bind ?_
  intro value value' halike
  rcases halike.eq_or_isBracketed with rfl | ⟨hvalue, hvalue'⟩
  · exact .refl (fun _ => rfl) _
  · -- what is written in brackets is refused, whatever stands between them
    dsimp only
    rw [lookup_eq_none htable (isBracketed_lower (isBracketed_trim hvalue)),
      lookup_eq_none htable (isBracketed_lower (isBracketed_trim hvalue'))]
    exact .refuse ..

/-- The delay without a bound. -/
theorem delayMs_agrees (h : LookAlike config config') (bound : Value) :
    Agrees Eq (delayMs config bound) (delayMs config' bound) := by
  unfold delayMs
  -- the field that is read depends on which names are bound, not on their values
  rw [h.binds_eq "delay"]
  refine .ite (h.field _).isUnset_eq (.refuse_bind ..) ?_
  refine (h.number _).bind_eq ?_
  intro delay
  exact .refl (fun _ => rfl) _

/-- The number of iterations. -/
theorem iterations_agrees
    (h : (Value.field "count" config).Alike (Value.field "count" config')) :
    Agrees Eq (iterations config) (iterations config') := by
  refine h.number?.bind_eq ?_
  intro count
  exact .refl (fun _ => rfl) _

/-- Whether a value names no method of a request, if it names one at all. -/
theorem method_eq {value value' : Value} (h : value.Alike value') :
    (value.isTrue && !httpMethods.contains (upperText value.toText)) =
      (value'.isTrue && !httpMethods.contains (upperText value'.toText)) := by
  have hnone : ∀ {text : String}, isBracketed text.toList = true →
      httpMethods.contains (upperText text) = false := by
    intro text htext
    have hfree : (httpMethods.all fun name => !isBracketed name.toList) = true := by decide
    rw [← Bool.not_eq_true, List.contains_iff_mem]
    intro hmem
    have hmethod := List.all_eq_true.mp hfree _ hmem
    rw [upperText, String.toList_ofList, isBracketed_upper htext] at hmethod
    cases hmethod
  rcases h.eq_or_isBracketed with rfl | ⟨hvalue, hvalue'⟩
  · rfl
  · rw [h.isTrue_eq, hnone hvalue, hnone hvalue']

/-! ## Handlers -/

theorem uniform_notification : (notification : Handler σ).Uniform := by
  intro config config' h
  exact (h.requireText "message").bind_eq fun _ => .ok rfl

theorem uniform_delay : (delay : Handler σ).Uniform := by
  intro config config' h
  exact (delayMs_agrees h .null).bind_eq fun _ => .ok rfl

theorem uniform_setVariable : (setVariable : Handler σ).Uniform := by
  intro config config' h
  refine (h.requireText "name").bind_eq ?_
  intro name
  refine .ite ?_ (.refuse ..) (.ok rfl)
  rw [h.binds_eq "value"]

theorem uniform_getVariable : (getVariable : Handler σ).Uniform := by
  intro config config' h
  exact (h.requireText "name").bind_eq fun _ => .ok rfl

theorem uniform_textOperation : (textOperation : Handler σ).Uniform := by
  intro config config' h
  refine (h.requireText "action").bind_eq ?_
  intro action
  exact .refl (fun _ => rfl) _

theorem uniform_arithmetic : (arithmetic : Handler σ).Uniform := by
  intro config config' h
  refine (h.requireText "operation").bind_eq ?_
  intro operation
  cases operations.lookup operation with
  | none => exact .refuse ..
  | some op =>
    refine (h.number "number1").bind_eq ?_
    intro x
    refine (h.number "number2").bind_eq ?_
    intro y
    exact .refl (fun _ => rfl) _

theorem uniform_shortMessage : (shortMessage : Handler σ).Uniform := by
  intro config config' h
  refine (h.requireText "phoneNumber").bind_eq ?_
  intro phone
  exact (h.requireText "message").bind_eq fun _ => .ok rfl

theorem uniform_call : (call : Handler σ).Uniform := by
  intro config config' h
  exact (h.requireText "phoneNumber").bind_eq fun _ => .ok rfl

theorem uniform_mail : (mail : Handler σ).Uniform := by
  intro config config' h
  refine (h.requireText "email").bind_eq ?_
  intro address
  refine .ite rfl (.refuse_bind ..) ?_
  refine (h.requireText "subject").bind_eq ?_
  intro subject
  exact (h.requireText "message").bind_eq fun _ => .ok rfl

theorem uniform_webhook (edition : Url.Edition) : (webhook edition : Handler σ).Uniform := by
  intro config config' h
  refine (h.requireText "url").bind_eq ?_
  intro url
  -- the address is the same text, and taking it apart fails alike
  refine (Agrees.refl (fun _ => rfl) (Url.isWeb edition (Text.trimmed url))).bind_eq ?_
  intro isWeb
  refine .ite rfl (.refuse_bind ..) ?_
  refine .ite (method_eq (h.field "method")) (.refuse_bind ..) ?_
  refine .ite ?_ (.refuse ..) (.ok rfl)
  rw [(h.field "headers").isHeaders_eq]

theorem uniform_openUrl : (openUrl : Handler σ).Uniform := by
  intro config config' h
  refine (h.requireText "url").bind_eq ?_
  intro url
  exact .refl (fun _ => rfl) _

theorem uniform_location : (location : Handler σ).Uniform := by
  intro config config' h
  refine (chooseAction_agrees (by decide) (h.field "action")).bind_eq ?_
  intro action
  refine .ite ?_ ?_ (.ok rfl)
  · rw [(h.field "useCurrentLocation").isTrue_eq]
  · refine (h.number "latitude").bind_eq ?_
    intro latitude
    exact (h.number "longitude").bind_eq fun _ => .ok rfl

theorem uniform_clipboard : (clipboard : Handler σ).Uniform := by
  intro config config' h
  refine (chooseAction_agrees (by decide) (h.field "action")).bind_eq ?_
  intro action
  refine .ite rfl ?_ (.ok rfl)
  exact (h.requireText "text").bind_eq fun _ => .ok rfl

theorem uniform_openApp (directory : AppDirectory) :
    (openApp directory : Handler σ).Uniform := by
  intro config config' h
  exact .ite (h.firstSet ["url", "appName"]).isNull_eq (.refuse ..) (.ok rfl)

theorem uniform_conditional : (conditional : Handler σ).Uniform := by
  intro config config' h
  refine (h.requireText "variable").bind_eq ?_
  intro variableName
  refine (h.requireText "condition").bind_eq ?_
  intro operator
  cases Operator.ofName? operator with
  | none => exact .refuse ..
  | some op =>
    refine .ite ?_ (.refuse ..) (.ok rfl)
    rw [h.binds_eq "value"]

theorem uniform_loop : (loop : Handler σ).Uniform := by
  intro config config' h
  refine (h.require "type" none).bind ?_
  intro loopType loopType' halike
  refine .ite halike.isCounted_eq ?_ (.ok rfl)
  exact (iterations_agrees (h.field "count")).bind_eq fun _ => .ok rfl

end Steps

/-! ## The built-in registries -/

namespace Registry

/-- A registry with the built-in handlers: one of a device, with either edition of the rules for
addresses, or the one of a browser. -/
def IsBuiltIn (registry : Registry σ) : Prop :=
  (∃ edition, registry = device edition) ∨ registry = browser

/-- A handler of a built-in registry is registered there as it is on a device, or opens apps by
their web addresses. -/
theorem IsBuiltIn.mem_device {registry : Registry σ} (h : registry.IsBuiltIn) {stepType : String}
    {handler : Handler σ} (hget : registry.get? stepType = some handler) :
    (∃ edition, (stepType, handler) ∈ (device edition : Registry σ).handlers) ∨
      stepType = "open-app" ∧ handler = Steps.openApp .web := by
  rcases h with ⟨edition, rfl⟩ | rfl
  · exact .inl ⟨edition, Bindings.mem_of_find? hget⟩
  · unfold get? browser at hget
    by_cases hopen : "open-app" = stepType
    · subst hopen
      rw [Bindings.find?_put] at hget
      exact .inr ⟨rfl, (Option.some.inj hget).symm⟩
    · rw [Bindings.find?_put_ne hopen] at hget
      have hkept := Bindings.mem_of_find? hget
      exact .inl ⟨.early, (List.mem_filter.mp hkept).1⟩

/-- **The handlers of a built-in registry** are the built-in ones, and the one that opens apps by
their web addresses. -/
theorem IsBuiltIn.mem_builtIn {registry : Registry σ} (h : registry.IsBuiltIn) {stepType : String}
    {handler : Handler σ} (hget : registry.get? stepType = some handler) :
    (∃ edition, handler ∈ (builtIn edition : List (Handler σ))) ∨
      handler = Steps.openApp .web := by
  rcases h.mem_device hget with ⟨edition, hmem⟩ | ⟨-, hweb⟩
  · obtain ⟨listed, hlisted, heq⟩ := List.mem_map.mp hmem
    obtain rfl : listed = handler := congrArg Prod.snd heq
    exact .inl ⟨edition, hlisted⟩
  · exact .inr hweb

/-- A built-in handler is registered for its own step type. -/
theorem IsBuiltIn.stepType_eq {registry : Registry σ} (h : registry.IsBuiltIn) {stepType : String}
    {handler : Handler σ} (hget : registry.get? stepType = some handler) :
    handler.stepType = stepType := by
  rcases h.mem_device hget with ⟨edition, hmem⟩ | ⟨rfl, rfl⟩
  · obtain ⟨listed, -, heq⟩ := List.mem_map.mp hmem
    obtain ⟨rfl, rfl⟩ := Prod.mk.inj heq
    rfl
  · rfl

/-- **What holds of each built-in handler** holds of every handler of a built-in registry. -/
theorem IsBuiltIn.elim {registry : Registry σ} (h : registry.IsBuiltIn)
    {motive : Handler σ → Prop}
    (notification : motive Steps.notification) (delay : motive Steps.delay)
    (setVariable : motive Steps.setVariable) (getVariable : motive Steps.getVariable)
    (textOperation : motive Steps.textOperation) (arithmetic : motive Steps.arithmetic)
    (shortMessage : motive Steps.shortMessage) (call : motive Steps.call)
    (mail : motive Steps.mail) (webhook : ∀ edition, motive (Steps.webhook edition))
    (openUrl : motive Steps.openUrl)
    (location : motive Steps.location) (clipboard : motive Steps.clipboard)
    (openApp : ∀ directory, motive (Steps.openApp directory))
    (conditional : motive Steps.conditional) (loop : motive Steps.loop)
    {stepType : String} {handler : Handler σ} (hget : registry.get? stepType = some handler) :
    motive handler := by
  have hbuiltIn : ∀ edition, ∀ known ∈ (builtIn edition : List (Handler σ)), motive known := by
    intro edition
    simp only [builtIn, List.forall_mem_cons]
    exact ⟨notification, delay, setVariable, getVariable, textOperation, arithmetic, shortMessage,
      call, mail, webhook edition, openUrl, location, clipboard, openApp .native, conditional, loop,
      List.forall_mem_nil _⟩
  rcases h.mem_builtIn hget with ⟨edition, hmem⟩ | rfl
  · exact hbuiltIn edition handler hmem
  · exact openApp .web

/-- **The handlers of a built-in registry are uniform.** -/
theorem IsBuiltIn.uniform {registry : Registry σ} (h : registry.IsBuiltIn) {stepType : String}
    {handler : Handler σ} (hget : registry.get? stepType = some handler) : handler.Uniform :=
  h.elim (motive := Handler.Uniform) Steps.uniform_notification Steps.uniform_delay
    Steps.uniform_setVariable Steps.uniform_getVariable Steps.uniform_textOperation
    Steps.uniform_arithmetic Steps.uniform_shortMessage Steps.uniform_call Steps.uniform_mail
    Steps.uniform_webhook Steps.uniform_openUrl Steps.uniform_location Steps.uniform_clipboard
    Steps.uniform_openApp Steps.uniform_conditional Steps.uniform_loop hget

end Registry

end Stepwise
