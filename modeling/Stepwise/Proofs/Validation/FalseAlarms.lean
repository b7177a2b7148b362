import Stepwise.Proofs.Validation.Forecast

/-! # False alarms

The check before a run raises a *false alarm* if it refuses a step that some values of the variables
would let pass. It raises none where the handler is *lenient* before the run: where it accepts what
it is shown then whenever it accepts what it is shown in the run (`Handler.Lenient`).

A sample keeps clear of false alarms if it asks no more of the other fields than any value that the
reference may have. That is so for all samples but two: the operator of a comparison, whose sample
asks for an expected value, and the type of a loop, whose sample asks for a number of iterations
(`OverAsks`). Every other alarm is founded (`alarm_is_founded`). -/

namespace Stepwise

variable {σ : Type}

/-! ## Handlers -/

/-- **A handler is lenient with a configuration** if it accepts what it is shown before the run
whenever it accepts what it is shown in the run. -/
def Handler.Lenient (handler : Handler σ) (config : Fields) : Prop :=
  ∀ ⦃resolved : Fields⦄, Preflight.Forecast handler.sampleValues config resolved →
    Weaker Eq (handler.validate (Preflight.sampled handler.sampleValues config))
      (handler.validate resolved)

/-- **A sample asks for more than a value might**: that of an operator asks for an expected value,
and that of the type of a loop for a number of iterations. -/
inductive OverAsks (handler : Handler σ) (config : Fields) : Prop
  /-- A comparison is in order but for an expected value, and its operator has a reference. -/
  | operator (htype : handler.stepType = "condition") {name : String}
      (hvariable : Config.requireText (Preflight.sampled handler.sampleValues config) "variable" =
        .ok name)
      (href : Template.hasReference (Value.field "condition" config) = true)
      (hvalue : config.binds "value" = false)
  /-- The number of iterations is invalid, and the type of the loop has a reference. -/
  | loopType (htype : handler.stepType = "loop")
      (href : Template.hasReference (Value.field "type" config) = true) {fault : Fault}
      (hcount : Steps.iterations (Preflight.sampled handler.sampleValues config) = .error fault)

namespace Steps

open Preflight (Forecast)

variable {config : Fields}

theorem lenient_notification : (notification : Handler σ).Lenient config := by
  intro resolved h
  exact (h.requireText "1" rfl (by decide)).bind fun _ _ _ => .ok rfl

theorem lenient_delay : (delay : Handler σ).Lenient config := by
  intro resolved h
  exact (h.delayMs fun _ => rfl).bind fun _ _ _ => .ok rfl

theorem lenient_setVariable : (setVariable : Handler σ).Lenient config := by
  intro resolved h
  refine (h.requireText "1" rfl (by decide)).bind ?_
  intro before during _
  refine .refuseIf ?_ nofun (.ok rfl)
  rw [h.binds_eq "value"]
  exact id

theorem lenient_getVariable : (getVariable : Handler σ).Lenient config := by
  intro resolved h
  exact (h.requireText "1" rfl (by decide)).bind fun _ _ _ => .ok rfl

theorem lenient_textOperation : (textOperation : Handler σ).Lenient config := by
  intro resolved h
  refine (h.requireText "combine" rfl (by decide)).bind ?_
  rintro before during (rfl | ⟨-, rfl⟩)
  · exact .refuseIf id nofun (.ok rfl)
  · exact .accepts _

theorem lenient_arithmetic : (arithmetic : Handler σ).Lenient config := by
  intro resolved h
  refine (h.requireText "add" rfl (by decide)).bind ?_
  intro before during hoperation
  cases hduring : operations.lookup during with
  | none => exact .refused nofun
  | some op =>
    -- the sample may only turn the operation into a sum
    obtain ⟨op', hbefore, hop⟩ : ∃ op', operations.lookup before = some op' ∧
        (op' = op ∨ op' = .add) := by
      rcases hoperation with rfl | ⟨-, rfl⟩
      · exact ⟨op, hduring, .inl rfl⟩
      · exact ⟨.add, rfl, .inr rfl⟩
    rw [hbefore]
    refine (h.number rfl).bind ?_
    intro _ _ _
    refine (h.number rfl).bind ?_
    intro divisor divisor' hdivisor
    refine .refuseIf ?_ nofun (.ok rfl)
    rcases hop with rfl | rfl
    · rcases hdivisor with rfl | ⟨-, rfl⟩
      · exact id
      · have hone : Forecast.one.isZero = false := by decide +kernel
        rw [hone, Bool.and_false]
        exact nofun
    · -- a sum asks nothing of the second number
      exact nofun

theorem lenient_shortMessage : (shortMessage : Handler σ).Lenient config := by
  intro resolved h
  refine (h.requireText "1" rfl (by decide)).bind ?_
  intro before during _
  exact (h.requireText "1" rfl (by decide)).bind fun _ _ _ => .ok rfl

theorem lenient_call : (call : Handler σ).Lenient config := by
  intro resolved h
  exact (h.requireText "1" rfl (by decide)).bind fun _ _ _ => .ok rfl

theorem lenient_mail : (mail : Handler σ).Lenient config := by
  intro resolved h
  refine (h.requireText "someone@example.com" rfl (by decide)).bind ?_
  intro before during haddress
  refine .refuseIf ?_ nofun ?_
  · rcases haddress with rfl | ⟨-, rfl⟩
    · exact id
    · have hsample : isMailAddress (Text.trim "someone@example.com".toList) = true := by
        decide +kernel
      rw [hsample]
      exact nofun
  refine (h.requireText "1" rfl (by decide)).bind ?_
  intro _ _ _
  exact (h.requireText "1" rfl (by decide)).bind fun _ _ _ => .ok rfl

theorem lenient_openUrl : (openUrl : Handler σ).Lenient config := by
  intro resolved h
  refine (h.requireText "https://example.com" rfl (by decide)).bind ?_
  rintro before during (rfl | ⟨-, rfl⟩)
  · exact .refuseIf id nofun (.ok rfl)
  · exact .accepts _

theorem lenient_clipboard : (clipboard : Handler σ).Lenient config := by
  intro resolved h
  refine (h.chooseAction (by decide) "paste" rfl (by decide) "paste" (by decide +kernel)).bind ?_
  rintro before during (rfl | ⟨-, rfl⟩)
  · split
    · exact (h.requireText "1" rfl (by decide)).bind fun _ _ _ => .ok rfl
    · exact .ok rfl
  · exact .accepts _

theorem lenient_webhook (edition : Url.Edition) : (webhook edition : Handler σ).Lenient config := by
  intro resolved h
  refine (h.requireText "https://example.com" rfl (by decide)).bind ?_
  intro before during hurl
  -- the sample is a web address, and any other address is taken apart alike
  have hweb : Weaker (fun isWeb isWeb' => isWeb = isWeb' ∨ isWeb = true)
      (Url.isWeb edition (Text.trimmed before)) (Url.isWeb edition (Text.trimmed during)) := by
    rcases hurl with rfl | ⟨-, rfl⟩
    · exact (Agrees.refl (fun _ => .inl rfl) _).weaker
    · obtain ⟨isWeb, hsample, rfl⟩ := exists_ok_of_map
        (Url.isWeb edition (Text.trimmed "https://example.com")) id true
        (by cases edition <;> decide +kernel)
      rw [hsample]
      exact fun _ _ => ⟨true, rfl, .inr rfl⟩
  refine hweb.bind ?_
  intro isWeb isWeb' hisWeb
  refine .refuseIf ?_ nofun ?_
  · rcases hisWeb with rfl | rfl
    · exact id
    · exact nofun
  refine .refuseIf ?_ nofun (.refuseIf ?_ nofun (.ok rfl))
  · cases href : Template.hasReference (Value.field "method" config) with
    | true =>
      have hsample : Preflight.sampleOf (webhook edition : Handler σ).sampleValues "method" =
          .text "POST" := rfl
      have hmethod : httpMethods.contains (upperText "POST") = true := by decide +kernel
      rw [h.sample href, hsample, Value.toText_text, hmethod, Bool.not_true, Bool.and_false]
      exact nofun
    | false =>
      rw [method_eq (h.literal href)]
      exact id
  · cases href : Template.hasReference (Value.field "headers" config) with
    | true =>
      -- a text is never accepted as headers, so the run refuses it
      obtain ⟨s, htext⟩ := h.text href
      rw [htext]
      exact fun _ => rfl
    | false =>
      rw [(h.literal href).isHeaders_eq]
      exact id

theorem lenient_location : (location : Handler σ).Lenient config := by
  intro resolved h
  refine (h.chooseAction (by decide) "get-current" rfl (by decide) "get-current"
    (by decide +kernel)).bind ?_
  rintro before during (rfl | ⟨-, rfl⟩)
  · cases href : Template.hasReference (Value.field "useCurrentLocation" config) with
    | true =>
      -- the sample counts as true, and the place is not asked for
      have hsample : (Value.field "useCurrentLocation" (Preflight.sampled
          (location : Handler σ).sampleValues config)).isTrue = true := by
        rw [h.sample href]
        rfl
      rw [hsample, Bool.not_true, Bool.and_false]
      exact .accepts _
    | false =>
      rw [(h.literal href).isTrue_eq]
      split
      · refine (h.number rfl).bind ?_
        intro _ _ _
        exact (h.number rfl).bind fun _ _ _ => .ok rfl
      · exact .ok rfl
  · exact .accepts _

theorem lenient_openApp (directory : AppDirectory) :
    (openApp directory : Handler σ).Lenient config := by
  intro resolved h
  exact .refuseIf (h.isNull_firstSet fun _ _ => rfl) nofun (.ok rfl)

/-- Unless it asks for too much: the sample compares with an expected value. -/
theorem lenient_conditional (hasks : ¬ OverAsks (conditional : Handler σ) config) :
    (conditional : Handler σ).Lenient config := by
  intro resolved h
  refine (h.requireText "1" rfl (by decide)).bind_of_ok ?_
  intro variableName _ hvariable _
  refine (h.requireText "==" rfl (by decide)).bind ?_
  rintro before during (rfl | ⟨href, rfl⟩)
  · cases Operator.ofName? before with
    | none => exact .refused nofun
    | some op =>
      refine .refuseIf ?_ nofun (.ok rfl)
      rw [h.binds_eq "value"]
      exact id
  · -- the sample asks for an expected value, which is given
    have hvalue : Bindings.binds "value" (Preflight.sampled
        (conditional : Handler σ).sampleValues config) = true := by
      rw [Preflight.binds_sampled, ← Bool.not_eq_false]
      exact fun hnone => hasks (.operator rfl hvariable href hnone)
    rw [hvalue]
    exact .accepts _

/-- Unless it asks for too much: the sample counts the iterations. -/
theorem lenient_loop (hasks : ¬ OverAsks (loop : Handler σ) config) :
    (loop : Handler σ).Lenient config := by
  intro resolved h
  cases href : Template.hasReference (Value.field "type" config) with
  | true =>
    -- the sample asks for a number of iterations, which is valid
    have htype : Config.require (Preflight.sampled (loop : Handler σ).sampleValues config) "type" =
        .ok (.text "count") := by
      rw [Config.require, h.sample href]
      rfl
    cases hcount : iterations (Preflight.sampled (loop : Handler σ).sampleValues config) with
    | error fault => exact absurd (.loopType rfl href hcount) hasks
    | ok n =>
      have haccepts : (loop : Handler σ).validate
          (Preflight.sampled (loop : Handler σ).sampleValues config) = .ok () :=
        bind_eq_ok_iff.mpr ⟨_, htype, bind_eq_ok_iff.mpr ⟨n, hcount, rfl⟩⟩
      rw [haccepts]
      exact .accepts _
  | false =>
    refine ((h.literal href).require none).weaker.bind ?_
    intro before during halike
    rw [halike.isCounted_eq]
    split
    · exact (h.iterations rfl).bind fun _ _ _ => .ok rfl
    · exact .ok rfl

end Steps

/-! ## The built-in registries -/

/-- **A handler of a built-in registry is lenient** with every configuration that it does not ask
for too much. -/
theorem Registry.IsBuiltIn.lenient {registry : Registry σ} (h : registry.IsBuiltIn)
    {stepType : String} {handler : Handler σ} (hget : registry.get? stepType = some handler)
    {config : Fields} (hasks : ¬ OverAsks handler config) : handler.Lenient config :=
  h.elim (motive := fun handler => ¬ OverAsks handler config → handler.Lenient config)
    (fun _ => Steps.lenient_notification) (fun _ => Steps.lenient_delay)
    (fun _ => Steps.lenient_setVariable) (fun _ => Steps.lenient_getVariable)
    (fun _ => Steps.lenient_textOperation) (fun _ => Steps.lenient_arithmetic)
    (fun _ => Steps.lenient_shortMessage) (fun _ => Steps.lenient_call)
    (fun _ => Steps.lenient_mail) (fun edition _ => Steps.lenient_webhook edition)
    (fun _ => Steps.lenient_openUrl) (fun _ => Steps.lenient_location)
    (fun _ => Steps.lenient_clipboard) (fun directory _ => Steps.lenient_openApp directory)
    Steps.lenient_conditional Steps.lenient_loop hget hasks

namespace Preflight

/-- What is reported on a step beside its block directives is that its handler refuses it. -/
theorem refused_of_checkStep {registry : Registry σ} {step : Step} {handler : Handler σ}
    (hhandler : registry.get? step.type = some handler) {index : Int} {messages : List String}
    (hcheck : checkStep registry step index = .ok messages)
    (halarm : messages ≠ directiveMessages s!"steps[{index}].config" (.object step.config)) :
    handler.validate (sampled handler.sampleValues step.config) ≠ .ok () := by
  intro hvalidate
  simp only [checkStep, hhandler, hvalidate, Except.ok.injEq] at hcheck
  exact halarm hcheck.symm

/-- **An alarm is founded**: if the check before a run reports that the handler of a built-in step
refuses it, and no sample asks for too much, then the step is refused in the run whatever the
variables hold. -/
theorem alarm_is_founded {registry : Registry σ} (hregistry : registry.IsBuiltIn) {step : Step}
    {handler : Handler σ} (hhandler : registry.get? step.type = some handler) {index : Int}
    {messages : List String} (hcheck : checkStep registry step index = .ok messages)
    (halarm : messages ≠ directiveMessages s!"steps[{index}].config" (.object step.config))
    (hasks : ¬ OverAsks handler step.config) (store : Store) :
    ∃ fault, (Template.resolveFields store step.config >>= handler.validate) = .error fault := by
  cases hrun : Template.resolveFields store step.config >>= handler.validate with
  | error fault => exact ⟨fault, rfl⟩
  | ok accepted =>
    -- a handler that accepts in the run would have accepted before it
    obtain ⟨resolved, hresolved, hvalidate⟩ := bind_eq_ok_iff.mp hrun
    have hforecast := forecast_of_resolveFields handler.sampleValues hresolved
    obtain ⟨before, hbefore, -⟩ := hregistry.lenient hhandler hasks hforecast () hvalidate
    exact absurd hbefore (refused_of_checkStep hhandler hcheck halarm)

/-- A short message to a number that a variable holds, without anything to say. -/
def wordless : Step where
  id := "text"
  type := "sms"
  config := [("phoneNumber", .text "\x7b\x7bphone\x7d\x7d")]

/-- There is nothing to say in the run either. -/
theorem alarm_is_founded_wordless :
    ∃ fault, (Template.resolveFields ⟨[("phone", .text "555")]⟩ wordless.config >>=
      (Steps.shortMessage : Handler Unit).validate) = .error fault := by
  obtain ⟨messages, hcheck, hlength⟩ := exists_ok_of_map
    (checkStep (Registry.device : Registry Unit) wordless 0) List.length 1 (by decide +kernel)
  have hsyntax : directiveMessages "steps[0].config" (.object wordless.config) = [] := by
    decide +kernel
  refine alarm_is_founded (.inl ⟨_, rfl⟩) rfl hcheck ?_ ?_ _
  · intro hnone
    have hempty : messages = [] := hnone.trans hsyntax
    rw [hempty] at hlength
    cases hlength
  · rintro (⟨htype, -, -, -⟩ | ⟨htype, -, -⟩)
    · exact absurd htype (by decide)
    · exact absurd htype (by decide)

/-- Whether a variable is there, or another comparison that needs no expected value. -/
def comparing : Step where
  id := "compare"
  type := "condition"
  config := [("variable", .text "x"), ("condition", .text "\x7b\x7bop\x7d\x7d")]

/-- A loop of a type that a variable holds, with no number of iterations. -/
def repeating : Step where
  id := "repeat"
  type := "loop"
  config := [("type", .text "\x7b\x7bkind\x7d\x7d"), ("count", .text "many")]

/-- **Two samples raise false alarms**: the step is reported for what only the sample asks for, and
passes in the run. -/
theorem false_alarms :
    (checkStep (Registry.device : Registry Unit) comparing 0 =
        .ok ["Step 0 (compare): Invalid config field 'value': 'value' is required"] ∧
      (Template.resolveFields ⟨[("op", .text "exists")]⟩ comparing.config >>=
        (Steps.conditional : Handler Unit).validate) = .ok ()) ∧
    (checkStep (Registry.device : Registry Unit) repeating 0 =
        .ok ["Step 0 (repeat): Invalid config field 'count': must be a number, got 'many'"] ∧
      (Template.resolveFields ⟨[("kind", .text "while")]⟩ repeating.config >>=
        (Steps.loop : Handler Unit).validate) = .ok ()) := by
  obtain ⟨_, hcomparing, rfl⟩ := exists_ok_of_map
    (checkStep (Registry.device : Registry Unit) comparing 0) id
    ["Step 0 (compare): Invalid config field 'value': 'value' is required"] (by decide +kernel)
  obtain ⟨_, hcompares, -⟩ := exists_ok_of_map
    (Template.resolveFields ⟨[("op", .text "exists")]⟩ comparing.config >>=
      (Steps.conditional : Handler Unit).validate) id () (by decide +kernel)
  obtain ⟨_, hrepeating, rfl⟩ := exists_ok_of_map
    (checkStep (Registry.device : Registry Unit) repeating 0) id
    ["Step 0 (repeat): Invalid config field 'count': must be a number, got 'many'"]
    (by decide +kernel)
  obtain ⟨_, hrepeats, -⟩ := exists_ok_of_map
    (Template.resolveFields ⟨[("kind", .text "while")]⟩ repeating.config >>=
      (Steps.loop : Handler Unit).validate) id () (by decide +kernel)
  exact ⟨⟨hcomparing, hcompares⟩, ⟨hrepeating, hrepeats⟩⟩

end Preflight

end Stepwise
