import Stepwise.Preflight
import Stepwise.Proofs.Computations
import Stepwise.Proofs.Template.Resolution
import Stepwise.Proofs.Validation.Handlers

/-! # Checking before the run and in the run

Before a run, a handler sees a sample in place of every field that has a reference; in the run, it
sees the resolved configuration. Where no field has a reference of its own, there is nothing to
sample (`sampled_eq_self`), and resolving changes a configuration only inside lists and objects, so
that it still looks alike (`lookAlike_resolveFields`). A uniform handler cannot tell the two
apart. -/

namespace Stepwise.Template

variable {store : Store}

/-! ## Resolving what has no reference -/

/-- A list is resolved to as many items. -/
theorem isEmpty_resolveItems {items resolved : List Value}
    (h : resolveItems store items = .ok resolved) : items.isEmpty = resolved.isEmpty := by
  cases items with
  | nil =>
    rw [← Except.ok.inj h]
  | cons item rest =>
    rw [resolveItems] at h
    obtain ⟨head, -, h⟩ := bind_eq_ok_iff.mp h
    obtain ⟨tail, -, h⟩ := bind_eq_ok_iff.mp h
    rw [← Except.ok.inj h]
    rfl

/-- Fields are resolved to as many fields. -/
theorem isEmpty_resolveFields {fields resolved : Fields}
    (h : resolveFields store fields = .ok resolved) : fields.isEmpty = resolved.isEmpty := by
  have hnames := names_resolveFields h
  cases fields with
  | nil =>
    cases resolved with
    | nil => rfl
    | cons => cases hnames
  | cons =>
    cases resolved with
    | nil => cases hnames
    | cons => rfl

/-- **A value without a reference of its own** looks alike once it is resolved. -/
theorem alike_resolveValue {value resolved : Value} (hliteral : hasReference value = false)
    (h : resolveValue store value = .ok resolved) : value.Alike resolved := by
  cases value with
  | text s =>
    rw [resolveValue, resolve_eq_self hliteral] at h
    rw [← Except.ok.inj h]
    exact .refl _
  | list items =>
    rw [resolveValue] at h
    obtain ⟨resolvedItems, hitems, h⟩ := bind_eq_ok_iff.mp h
    rw [← Except.ok.inj h]
    exact .list (isEmpty_resolveItems hitems)
  | object fields =>
    rw [resolveValue] at h
    obtain ⟨resolvedFields, hfields, h⟩ := bind_eq_ok_iff.mp h
    rw [← Except.ok.inj h]
    exact .object (isEmpty_resolveFields hfields)
  | null =>
    rw [← Except.ok.inj h]
    exact .refl _
  | bool b =>
    rw [← Except.ok.inj h]
    exact .refl _
  | int n =>
    rw [← Except.ok.inj h]
    exact .refl _
  | float x =>
    rw [← Except.ok.inj h]
    exact .refl _

/-- **A configuration whose fields have no reference of their own** looks alike once it is
resolved. -/
theorem lookAlike_resolveFields {config resolved : Fields}
    (hliteral : ∀ field ∈ config, hasReference field.2 = false)
    (h : resolveFields store config = .ok resolved) : LookAlike config resolved := by
  induction config generalizing resolved with
  | nil =>
    rw [← Except.ok.inj h]
    exact .nil
  | cons field rest ih =>
    obtain ⟨name, value⟩ := field
    obtain ⟨hvalue, hrest⟩ := List.forall_mem_cons.mp hliteral
    rw [resolveFields] at h
    obtain ⟨head, hhead, h⟩ := bind_eq_ok_iff.mp h
    obtain ⟨tail, htail, h⟩ := bind_eq_ok_iff.mp h
    rw [← Except.ok.inj h]
    exact .cons ⟨rfl, alike_resolveValue hvalue hhead⟩ (ih hrest htail)

end Stepwise.Template

namespace Stepwise

/-! ## Sampling what has no reference -/

/-- There is nothing to sample in a configuration whose fields have no reference of their own. -/
theorem Preflight.sampled_eq_self {config : Fields}
    (hliteral : ∀ field ∈ config, Template.hasReference field.2 = false) (samples : Fields) :
    sampled samples config = config := by
  unfold sampled
  rw [List.map_congr_left (g := id), List.map_id]
  intro field hfield
  obtain ⟨name, value⟩ := field
  have hvalue : Template.hasReference value = false := hliteral (name, value) hfield
  simp only [hvalue]
  rfl

/-- **The check before a run is the check in the run**, for every step of a built-in type whose
fields have no reference of their own: the handler refuses the sampled configuration exactly if it
refuses the resolved one, with a fault of the same kind and, if that is a configuration fault, about
the same field. -/
theorem Preflight.validate_sampled_agrees {σ : Type} {registry : Registry σ}
    (hregistry : registry.IsBuiltIn) {step : Step} {handler : Handler σ}
    (hhandler : registry.get? step.type = some handler)
    (hliteral : ∀ field ∈ step.config, Template.hasReference field.2 = false) {store : Store}
    {resolved : Fields} (hresolved : Template.resolveFields store step.config = .ok resolved) :
    Agrees Eq (handler.validate (sampled handler.sampleValues step.config))
      (handler.validate resolved) := by
  rw [sampled_eq_self hliteral]
  exact hregistry.uniform hhandler (Template.lookAlike_resolveFields hliteral hresolved)

/-- A request whose method is a list with a reference, and whose headers hold another one. -/
def posting : Step where
  id := "post"
  type := "webhook"
  config := [("url", .text "https://example.com"), ("method", .list [.text "\x7b\x7bverb\x7d\x7d"]),
    ("headers", .object [("X-Token", .text "\x7b\x7btoken\x7d\x7d")])]

/-- Variables for the request. -/
def postingStore : Store := ⟨[("verb", .text "POST"), ("token", .text "abc")]⟩

/-- The request is refused in the run for its method, as it was before the run. -/
theorem Preflight.validate_sampled_agrees_posting :
    ∃ resolved fault, Template.resolveFields postingStore posting.config = .ok resolved ∧
      (Steps.webhook : Handler Unit).validate resolved = .error fault ∧
      fault.field? = some "method" := by
  obtain ⟨resolved, hresolved, -⟩ := exists_ok_of_map
    (Template.resolveFields postingStore posting.config) Bindings.names
    ["url", "method", "headers"] (by decide +kernel)
  have hagrees := validate_sampled_agrees (.inl ⟨_, rfl⟩)
    (rfl : (Registry.device : Registry Unit).get? posting.type = some Steps.webhook)
    (by decide +kernel) hresolved
  have hsampled : (match (Steps.webhook : Handler Unit).validate
      (sampled (Steps.webhook : Handler Unit).sampleValues posting.config) with
    | .error fault => fault.field?
    | .ok _ => none) = some "method" := by
    decide +kernel
  generalize (Steps.webhook : Handler Unit).validate (sampled _ _) = before at hagrees hsampled
  generalize hcheck : (Steps.webhook : Handler Unit).validate resolved = during at hagrees
  cases hagrees with
  | ok => cases hsampled
  | @error fault fault' hlabel hfield =>
    exact ⟨resolved, fault', hresolved, hcheck, hfield.symm.trans hsampled⟩

end Stepwise
