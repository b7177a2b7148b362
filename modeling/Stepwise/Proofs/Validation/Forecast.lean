import Stepwise.Proofs.Validation.Sampling

/-! # What a check sees before the run

The check before a run shows a handler a sample in place of each field with a reference; the run
shows it what the field is resolved to. `Forecast` says how the two configurations belong together:
the same names are bound, fields without a reference look alike, and fields with one are the sample
here and some text there.

A check is `Weaker` than another if it accepts whatever the other one accepts. Each check of a field
is weaker before the run, as long as it accepts the sample (`Forecast.weaker`). -/

namespace Stepwise

variable {σ α β γ δ : Type}

/-! ## Weaker checks -/

/-- **A check is weaker than another**: it accepts whatever the other one accepts, and what the two
read is related. -/
def Weaker (R : α → β → Prop) (check : Except Fault α) (check' : Except Fault β) : Prop :=
  ∀ b, check' = .ok b → ∃ a, check = .ok a ∧ R a b

/-- Checks that agree are equally weak. -/
theorem Agrees.weaker {R : α → β → Prop} {check : Except Fault α} {check' : Except Fault β}
    (h : Agrees R check check') : Weaker R check check' := by
  rintro b rfl
  cases h with
  | ok hrelated => exact ⟨_, rfl, hrelated⟩

namespace Weaker

variable {R R' : α → β → Prop} {S : γ → δ → Prop}

/-- Two checks that accept. -/
theorem ok {a : α} {b : β} (h : R a b) : Weaker R (.ok a) (.ok b) := by
  intro b' hb
  obtain rfl : b = b' := Except.ok.inj hb
  exact ⟨a, rfl, h⟩

/-- A check that accepts is weaker than every other. -/
theorem accepts (check : Except Fault Unit) : Weaker Eq (.ok ()) check :=
  fun _ _ => ⟨(), rfl, rfl⟩

/-- Every check is weaker than one that refuses. -/
theorem refused {check : Except Fault α} {check' : Except Fault β} (h : ∀ b, check' ≠ .ok b) :
    Weaker R check check' :=
  fun b hb => absurd hb (h b)

/-- What is read may be related more loosely. -/
theorem mono {check : Except Fault α} {check' : Except Fault β} (h : Weaker R check check')
    (hR : ∀ a b, R a b → R' a b) : Weaker R' check check' := by
  intro b hb
  obtain ⟨a, ha, hrelated⟩ := h b hb
  exact ⟨a, ha, hR a b hrelated⟩

/-- Going on from what both checks accepted. -/
theorem bind_of_ok {check : Except Fault α} {check' : Except Fault β} {next : α → Except Fault γ}
    {next' : β → Except Fault δ} (h : Weaker R check check')
    (hnext : ∀ a b, check = .ok a → R a b → Weaker S (next a) (next' b)) :
    Weaker S (check >>= next) (check' >>= next') := by
  intro d hd
  obtain ⟨b, hb, hd⟩ := bind_eq_ok_iff.mp hd
  obtain ⟨a, ha, hrelated⟩ := h b hb
  obtain ⟨c, hc, hrelated'⟩ := hnext a b ha hrelated d hd
  exact ⟨c, bind_eq_ok_iff.mpr ⟨a, ha, hc⟩, hrelated'⟩

/-- Going on. -/
theorem bind {check : Except Fault α} {check' : Except Fault β} {next : α → Except Fault γ}
    {next' : β → Except Fault δ} (h : Weaker R check check')
    (hnext : ∀ a b, R a b → Weaker S (next a) (next' b)) :
    Weaker S (check >>= next) (check' >>= next') :=
  h.bind_of_ok fun a b _ hrelated => hnext a b hrelated

/-- Refusing less often. -/
theorem refuseIf {c c' : Bool} {refusal rest : Except Fault α} {refusal' rest' : Except Fault β}
    (hc : c = true → c' = true) (hrefusal : ∀ b, refusal' ≠ .ok b) (h : Weaker R rest rest') :
    Weaker R (if c = true then refusal else rest) (if c' = true then refusal' else rest') := by
  split
  next hcond =>
    rw [if_pos (hc hcond)]
    exact refused hrefusal
  next =>
    split
    · exact refused hrefusal
    · exact h

end Weaker

/-! ## Sampled and resolved fields -/

namespace Preflight

variable {samples config resolved : Fields} {name : String}

/-- The stand-in for a field. -/
def sampleOf (samples : Fields) (name : String) : Value :=
  (samples.find? name).getD genericSample

/-- What a name is bound to before the run. -/
theorem find?_sampled (samples config : Fields) (name : String) :
    Bindings.find? name (sampled samples config) = (Bindings.find? name config).map fun value =>
      if Template.hasReference value then sampleOf samples name else value := by
  induction config with
  | nil => rfl
  | cons field rest ih =>
    obtain ⟨key, value⟩ := field
    rw [sampled, List.map_cons, Bindings.find?, Bindings.find?]
    split
    next heq =>
      subst heq
      rfl
    next => exact ih

/-- A field before the run: its sample if it has a reference. -/
theorem field_sampled (samples config : Fields) (name : String) :
    Value.field name (sampled samples config) =
      if Template.hasReference (Value.field name config) then sampleOf samples name
      else Value.field name config := by
  unfold Value.field
  rw [find?_sampled]
  cases Bindings.find? name config with
  | some value => rfl
  | none => rfl

/-- The same names are bound before the run. -/
theorem binds_sampled (samples config : Fields) (name : String) :
    Bindings.binds name (sampled samples config) = Bindings.binds name config := by
  rw [Bindings.binds, find?_sampled, Option.isSome_map, Bindings.binds]

/-- What a name is bound to in the run. -/
theorem find?_resolveFields {store : Store}
    (h : Template.resolveFields store config = .ok resolved) (name : String) :
    Option.Rel (fun value value' => Template.resolveValue store value = .ok value')
      (Bindings.find? name config) (Bindings.find? name resolved) := by
  induction config generalizing resolved with
  | nil =>
    rw [← Except.ok.inj h]
    exact .none
  | cons field rest ih =>
    obtain ⟨key, value⟩ := field
    rw [Template.resolveFields] at h
    obtain ⟨head, hhead, h⟩ := bind_eq_ok_iff.mp h
    obtain ⟨tail, htail, h⟩ := bind_eq_ok_iff.mp h
    rw [← Except.ok.inj h, Bindings.find?, Bindings.find?]
    split
    · exact .some hhead
    · exact ih htail

/-- A field in the run: the field resolved. -/
theorem resolveValue_field {store : Store}
    (h : Template.resolveFields store config = .ok resolved) (name : String) :
    Template.resolveValue store (Value.field name config) = .ok (Value.field name resolved) := by
  have hfind := find?_resolveFields h name
  unfold Value.field
  generalize Bindings.find? name config = found at hfind ⊢
  generalize Bindings.find? name resolved = found' at hfind ⊢
  cases hfind with
  | some hvalue => exact hvalue
  | none => rfl

/-- A field with a reference is a text, and one in the run. -/
theorem exists_text_of_hasReference {store : Store} {value value' : Value}
    (href : Template.hasReference value = true)
    (h : Template.resolveValue store value = .ok value') : ∃ s, value' = .text s := by
  cases value with
  | text s =>
    rw [Template.resolveValue] at h
    obtain ⟨text, -, h⟩ := bind_eq_ok_iff.mp h
    exact ⟨text, (Except.ok.inj h).symm⟩
  | _ => cases href

/-- **A configuration before the run and in the run**: the same names are bound, a field without a
reference looks alike, and one with a reference is its sample before the run and some text in it. -/
structure Forecast (samples config resolved : Fields) : Prop where
  /-- The same names are bound. -/
  binds_eq (name : String) :
    Bindings.binds name (sampled samples config) = Bindings.binds name resolved
  /-- A field without a reference. -/
  literal {name : String} (h : Template.hasReference (Value.field name config) = false) :
    (Value.field name (sampled samples config)).Alike (Value.field name resolved)
  /-- A field with a reference, before the run. -/
  sample {name : String} (h : Template.hasReference (Value.field name config) = true) :
    Value.field name (sampled samples config) = sampleOf samples name
  /-- A field with a reference, in the run. -/
  text {name : String} (h : Template.hasReference (Value.field name config) = true) :
    ∃ s, Value.field name resolved = .text s

/-- **Whatever a configuration is resolved to** was forecast. -/
theorem forecast_of_resolveFields {store : Store} (samples : Fields)
    (h : Template.resolveFields store config = .ok resolved) :
    Forecast samples config resolved where
  binds_eq name := by
    rw [binds_sampled, Bool.eq_iff_iff, Bindings.binds_iff, Bindings.binds_iff,
      Template.names_resolveFields h]
  literal {name} hliteral := by
    rw [field_sampled, hliteral]
    exact Template.alike_resolveValue hliteral (resolveValue_field h name)
  sample {name} href := by
    rw [field_sampled, if_pos href]
  text {name} href := exists_text_of_hasReference href (resolveValue_field h name)

/-- No field among several is set exactly if each of them is unset. -/
theorem isNull_firstSet_iff {fields : Fields} {names : List String} :
    (Config.firstSet fields names).isNull = true ↔
      ∀ name ∈ names, (Value.field name fields).isUnset = true := by
  unfold Config.firstSet
  induction names with
  | nil => exact ⟨fun _ => List.forall_mem_nil _, fun _ => rfl⟩
  | cons name rest ih =>
    rw [List.forall_mem_cons, ← ih, List.map_cons, List.find?_cons]
    cases hunset : (Value.field name fields).isUnset with
    | true => exact ⟨fun hrest => ⟨rfl, hrest⟩, And.right⟩
    | false =>
      have hset : (Value.field name fields).isNull = false := by
        cases hvalue : Value.field name fields with
        | null =>
          rw [hvalue] at hunset
          cases hunset
        | _ => rfl
      constructor
      · intro hnull
        cases hset.symm.trans hnull
      · rintro ⟨⟨⟩, -⟩

namespace Forecast

/-! ## Checks of one field -/

/-- **What is read of a field before the run**: what is read of it in the run, or what is read of
the sample if the field has a reference. -/
def Reads (config : Fields) (name : String) (sample before during : α) : Prop :=
  before = during ∨ Template.hasReference (Value.field name config) = true ∧ before = sample

/-- A check of one field is weaker before the run if it accepts the sample, and looks at literal
fields only up to what they look like. -/
theorem weaker (h : Forecast samples config resolved) (check : Fields → Except Fault α) {sample : α}
    (hsample : Template.hasReference (Value.field name config) = true →
      check (sampled samples config) = .ok sample)
    (hliteral : (Value.field name (sampled samples config)).Alike (Value.field name resolved) →
      Agrees Eq (check (sampled samples config)) (check resolved)) :
    Weaker (Reads config name sample) (check (sampled samples config)) (check resolved) := by
  cases href : Template.hasReference (Value.field name config) with
  | true =>
    intro during _
    exact ⟨sample, hsample href, .inr ⟨href, rfl⟩⟩
  | false =>
    have hsame := (hliteral (h.literal href)).weaker
    exact hsame.mono fun _ _ heq => .inl heq

/-- A field that must be a text. -/
theorem requireText (h : Forecast samples config resolved) (sample : String)
    (hsample : sampleOf samples name = .text sample) (hblank : Text.isBlank sample = false) :
    Weaker (Reads config name sample) (Config.requireText (sampled samples config) name)
      (Config.requireText resolved name) := by
  refine h.weaker (Config.requireText · name) ?_ Value.Alike.requireText
  intro href
  simp only [Config.requireText, Config.require, h.sample href, hsample, Config.isBlank, hblank]
  rfl

/-- The number that the common sample writes. -/
def one : Binary64 := .roundRatio false 1 1

/-- The common sample is read as the number one. -/
theorem number?_sampled (h : Forecast samples config resolved)
    (hsample : sampleOf samples name = genericSample)
    (href : Template.hasReference (Value.field name config) = true) :
    Config.number? (sampled samples config) name = .ok (some one) := by
  have hone : Value.readNumber (.text "1") = .number one := by decide +kernel
  simp only [Config.number?, h.sample href, hsample, genericSample, hone]
  rfl

/-- A field that is a number if it is set. -/
theorem number? (h : Forecast samples config resolved)
    (hsample : sampleOf samples name = genericSample) :
    Weaker (Reads config name (some one)) (Config.number? (sampled samples config) name)
      (Config.number? resolved name) :=
  h.weaker (Config.number? · name) (h.number?_sampled hsample) Value.Alike.number?

/-- A field that must be a number. -/
theorem number (h : Forecast samples config resolved)
    (hsample : sampleOf samples name = genericSample) :
    Weaker (Reads config name one) (Config.number (sampled samples config) name)
      (Config.number resolved name) := by
  refine (h.number? hsample).bind ?_
  rintro before during (rfl | ⟨href, rfl⟩)
  · cases before with
    | none => exact .refused nofun
    | some x => exact .ok (.inl rfl)
  · cases during with
    | none => exact .refused nofun
    | some x => exact .ok (.inr ⟨href, rfl⟩)

/-- The choice of an action. -/
theorem chooseAction (h : Forecast samples config resolved) {table : List (String × String)}
    (htable : (table.all fun entry => !isBracketed entry.1.toList) = true) (sample : String)
    (hsample : sampleOf samples "action" = .text sample) (hblank : Text.isBlank sample = false)
    (action : String)
    (haction :
      table.lookup (String.ofList (Unicode.lower (Text.trim sample.toList))) = some action) :
    Weaker (Reads config "action" action) (Steps.chooseAction table (sampled samples config))
      (Steps.chooseAction table resolved) := by
  refine h.weaker (Steps.chooseAction table) ?_ (Steps.chooseAction_agrees htable)
  intro href
  have hrequire : Config.require (sampled samples config) "action" = .ok (.text sample) := by
    simp only [Config.require, h.sample href, hsample, Config.isBlank, hblank]
    rfl
  simp only [Steps.chooseAction, hrequire, bind, Except.bind, Value.toText_text, haction]
  rfl

/-- The delay, if nothing bounds it. -/
theorem delayMs (h : Forecast samples config resolved)
    (hsample : ∀ name, sampleOf samples name = genericSample) :
    Weaker (fun _ _ => True) (Steps.delayMs (sampled samples config) .null)
      (Steps.delayMs resolved .null) := by
  unfold Steps.delayMs
  dsimp only
  -- both checks read the same field, since the same names are bound
  rw [h.binds_eq "delay"]
  generalize (if Bindings.binds "delay" resolved = true then "delay" else "duration") = name
  refine .refuseIf ?_ nofun ?_
  · cases href : Template.hasReference (Value.field name config) with
    | true =>
      rw [h.sample href, hsample]
      exact nofun
    | false =>
      rw [(h.literal href).isUnset_eq]
      exact id
  refine (h.number (hsample name)).bind ?_
  intro before during hreads
  refine .refuseIf ?_ nofun (.ok trivial)
  rcases hreads with rfl | ⟨-, rfl⟩
  · exact id
  · -- the sample is not negative
    have hone : one.lt (.zero false) = false := by decide +kernel
    rw [hone]
    exact nofun

/-- The number of iterations. -/
theorem iterations (h : Forecast samples config resolved)
    (hsample : sampleOf samples "count" = genericSample) :
    Weaker (Reads config "count" 1) (Steps.iterations (sampled samples config))
      (Steps.iterations resolved) := by
  refine h.weaker Steps.iterations ?_ Steps.iterations_agrees
  intro href
  have hwhole : (one.lt (.roundRatio false 1 1) || !one.isWhole) = false := by decide +kernel
  have hone : one.truncate? = some 1 := by decide +kernel
  simp only [Steps.iterations, h.number?_sampled hsample href, bind, Except.bind, hwhole, hone]
  rfl

/-- No field among several is set. -/
theorem isNull_firstSet (h : Forecast samples config resolved) {names : List String}
    (hsample : ∀ name ∈ names, sampleOf samples name = genericSample)
    (hnull : (Config.firstSet (sampled samples config) names).isNull = true) :
    (Config.firstSet resolved names).isNull = true := by
  rw [isNull_firstSet_iff] at hnull ⊢
  intro name hname
  cases href : Template.hasReference (Value.field name config) with
  | true =>
    -- a sample is always set, so it would have been found
    have hunset := hnull name hname
    rw [h.sample href, hsample name hname] at hunset
    cases hunset
  | false => exact (h.literal href).isUnset_eq.symm.trans (hnull name hname)

end Forecast

end Preflight

end Stepwise
