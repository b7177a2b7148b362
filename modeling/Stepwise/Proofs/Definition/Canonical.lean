import Stepwise.Definition
import Stepwise.Proofs.Computations
import Stepwise.Proofs.Text.Numerals

/-! # Definitions in canonical form

An automation that was read is in canonical form (`Automation.isCanonical_of_ofValue`): its steps
have ids, types by their current names, and titles. Whatever is in canonical form is read back as it
is once it has been written (`Automation.ofValue_toValue`), and so is each of its steps at any place
in a list (`Step.ofValue_toValue`). Reading therefore brings an automation into a form that reading
it again does not change; this is the main statement, `Automation.parses_canonically`.

A field that is missing or counts as false has a default. What is put in its place, and what is
written in the place of another value, must not count as false itself: the text of a value is not
empty, unless the value is the empty text (`Value.toText_ne_empty`). -/

namespace Stepwise

/-! ## Texts that are not empty -/

namespace Text

/-- A text with a character in it is not empty. -/
theorem ofList_ne_empty {cs : List Char} (h : cs ≠ []) : String.ofList cs ≠ "" := by
  rwa [Ne, ← String.toList_eq_nil_iff, String.toList_ofList]

/-- What ends in a text that is not empty is not empty. -/
theorem append_ne_empty_right (s : String) {t : String} (h : t ≠ "") : s ++ t ≠ "" :=
  fun happend => h (String.append_eq_empty_iff.mp happend).2

end Text

namespace Binary64

/-- A decimal number has digits. -/
theorem Decimal.toText_ne_nil (d : Decimal) : d.toText ≠ [] := by
  have hpositional : d.positional 1 false ≠ [] := by
    intro h
    rw [Decimal.positional, List.append_eq_nil_iff] at h
    -- there is at least one digit before the point
    obtain ⟨hwhole, -⟩ := h
    split at hwhole
    next => cases hwhole
    next hpoint =>
      rw [List.append_eq_nil_iff] at hwhole
      obtain ⟨hdigits, hzeros⟩ := hwhole
      rw [hdigits, List.length_nil, Nat.sub_zero, List.replicate_eq_nil_iff] at hzeros
      exact hpoint hzeros
  rw [Decimal.toText]
  split
  · exact hpositional
  · exact List.append_ne_nil_of_right_ne_nil _ (List.cons_ne_nil _ _)

/-- The text of a number is not empty. -/
theorem toText_ne_empty (x : Binary64) : x.toText ≠ "" := by
  unfold toText
  cases x with
  | nan => decide
  | infinite negative => exact Text.append_ne_empty_right _ (by decide)
  | finite negative mantissa exponent =>
    exact Text.append_ne_empty_right _ (Text.ofList_ne_empty (Decimal.toText_ne_nil _))

end Binary64

namespace Value

/-- A literal is not empty. -/
theorem literal_ne_empty (value : Value) : value.literal ≠ "" := by
  cases value with
  | null => decide
  | bool b => cases b <;> decide
  | int n =>
    rw [literal, Ne, ← String.toList_eq_nil_iff, Text.toList_toString, Text.numeral]
    split
    · exact List.cons_ne_nil _ _
    · exact Nat.toDigits_ne_nil
  | float x => exact x.toText_ne_empty
  | text s => exact Text.ofList_ne_empty (List.cons_ne_nil _ _)
  | list items => exact Text.append_ne_empty_right _ (by decide)
  | object fields => exact Text.append_ne_empty_right _ (by decide)

/-- **A value that counts as true** has a text that is not empty. -/
theorem toText_ne_empty {value : Value} (h : value.isTrue = true) : value.toText ≠ "" := by
  cases value with
  | text s => exact bne_iff_ne.mp h
  | _ => exact literal_ne_empty _

/-- A value that counts as true is not replaced. -/
theorem orElse_of_isTrue {value : Value} (h : value.isTrue = true) (other : Value) :
    value.orElse other = value :=
  if_pos h

/-- A value replaced by one that counts as true counts as true. -/
theorem isTrue_orElse_of_isTrue (value : Value) {other : Value} (h : other.isTrue = true) :
    (value.orElse other).isTrue = true := by
  rw [isTrue_orElse, h, Bool.or_true]

/-- A text counts as true unless it is empty. -/
theorem isTrue_text {s : String} : (text s).isTrue = true ↔ s ≠ "" := bne_iff_ne

end Value

/-! ## Step types -/

/-- The names that earlier versions gave to step types. -/
def legacyNames : List String := legacyStepTypes.map Prod.fst

/-- A name is one of earlier versions exactly if there is a newer one. -/
theorem lookup_legacyStepTypes_eq_none_iff {name : String} :
    legacyStepTypes.lookup name = none ↔ name ∉ legacyNames := by
  rw [List.lookup_eq_none_iff, legacyNames, List.mem_map]
  constructor
  · rintro h ⟨pair, hpair, rfl⟩
    exact absurd (h pair hpair) (by simp)
  · intro h pair hpair
    rw [bne_iff_ne]
    rintro rfl
    exact h ⟨pair, hpair, rfl⟩

/-- A current name stays as it is. -/
theorem normalizeStepType_eq_self {name : String} (h : name ∉ legacyNames) :
    normalizeStepType name = name := by
  rw [normalizeStepType, lookup_legacyStepTypes_eq_none_iff.mpr h]
  rfl

/-- The current name of a step type is empty only if the name was. -/
theorem normalizeStepType_ne_empty {name : String} (h : name ≠ "") :
    normalizeStepType name ≠ "" := by
  unfold normalizeStepType
  cases hlookup : legacyStepTypes.lookup name with
  | none => exact h
  | some current =>
    have hlisted : ∀ pair ∈ legacyStepTypes, pair.2 ≠ "" := by decide
    obtain ⟨before, after, hsplit, -⟩ := List.lookup_eq_some_iff.mp hlookup
    refine hlisted (name, current) ?_
    rw [hsplit]
    exact List.mem_append_right _ List.mem_cons_self

/-! ## Steps -/

namespace Step

/-- **A step in canonical form**: there is an id, a type by its current name, and a title. -/
structure IsCanonical (step : Step) : Prop where
  /-- The id is not empty. -/
  id_ne : step.id ≠ ""
  /-- The type is not empty. -/
  type_ne : step.type ≠ ""
  /-- The type goes by its current name. -/
  current : step.type ∉ legacyNames
  /-- The title counts as true. -/
  titled : step.title.isTrue = true

/-- What is read from an object that says a type. -/
theorem ofValue_object {fields : Fields} (config : Fields) (index : Int)
    (htype : (Value.field "type" fields).isTrue = true)
    (hconfig : (Value.field "config" fields).toFields = .ok config) :
    ofValue (.object fields) index = .ok
      { id := ((Value.field "id" fields).orElse (.text s!"step_{index}")).toText
        type := normalizeStepType (Value.field "type" fields).toText
        title := (Value.field "title" fields).orElse (.text (Value.field "type" fields).toText)
        enabled := ((fields.find? "enabled").getD (.bool true)).isTrue
        config } := by
  simp only [ofValue, Value.fieldsFor_object, bind, Except.bind, htype, hconfig]
  rfl

/-- **A step that was read** is in canonical form. -/
theorem isCanonical_of_ofValue {data : Value} {index : Int} {step : Step}
    (h : ofValue data index = .ok step) : step.IsCanonical := by
  obtain ⟨fields, -, h⟩ := bind_eq_ok_iff.mp h
  obtain ⟨htype, h⟩ := of_refuseIf_eq_ok nofun h
  obtain ⟨config, -, h⟩ := bind_eq_ok_iff.mp h
  obtain rfl := Except.ok.inj h
  rw [Bool.not_eq_false'] at htype
  have hnamed : (Value.field "type" fields).toText ≠ "" := Value.toText_ne_empty htype
  have hindexed : s!"step_{index}" ≠ "" :=
    Text.append_ne_empty_right _ (Value.literal_ne_empty (.int index))
  exact
    { id_ne := Value.toText_ne_empty
        (Value.isTrue_orElse_of_isTrue _ (Value.isTrue_text.mpr hindexed))
      type_ne := normalizeStepType_ne_empty hnamed
      current := lookup_legacyStepTypes_eq_none_iff.mp (normalizeStepType_not_legacy _)
      titled := Value.isTrue_orElse_of_isTrue _ (Value.isTrue_text.mpr hnamed) }

/-- **A step in canonical form** is read back as it was written, whatever its index. -/
theorem ofValue_toValue {step : Step} (h : step.IsCanonical) (index : Int) :
    ofValue step.toValue index = .ok step := by
  rw [toValue]
  refine (ofValue_object step.config index ?_ ?_).trans ?_
  · exact Value.isTrue_text.mpr h.type_ne
  · exact Value.toFields_object step.config
  · -- every field is there and counts as true, so that nothing is replaced
    change Except.ok (Step.mk ((Value.text step.id).orElse _).toText (normalizeStepType step.type)
      (step.title.orElse _) step.enabled step.config) = _
    rw [Value.orElse_of_isTrue (Value.isTrue_text.mpr h.id_ne), Value.orElse_of_isTrue h.titled,
      normalizeStepType_eq_self h.current]
    rfl

end Step

/-! ## Automations -/

namespace Automation

/-- **The steps of a list** are read one by one, each with its index. -/
theorem ofValue_of_stepsFrom {index : Nat} {items : List Value} {steps : List Step}
    (h : stepsFrom index items = .ok steps) {i : Nat} {item : Value}
    (hitem : items[i]? = some item) :
    ∃ step, steps[i]? = some step ∧ Step.ofValue item (index + i : Nat) = .ok step := by
  induction items generalizing index steps i with
  | nil => cases hitem
  | cons first rest ih =>
    obtain ⟨step, hstep, h⟩ := bind_eq_ok_iff.mp h
    obtain ⟨others, hothers, h⟩ := bind_eq_ok_iff.mp h
    obtain rfl := Except.ok.inj h
    cases i with
    | zero =>
      obtain rfl : first = item := Option.some.inj hitem
      exact ⟨step, rfl, hstep⟩
    | succ i =>
      obtain ⟨other, hother, hread⟩ := ih hothers hitem
      refine ⟨other, hother, ?_⟩
      rwa [show index + (i + 1) = index + 1 + i by omega]

/-- Steps in canonical form are read back as they were written, wherever their list starts. -/
theorem stepsFrom_toValue {steps : List Step} (h : ∀ step ∈ steps, step.IsCanonical)
    (index : Nat) : stepsFrom index (steps.map Step.toValue) = .ok steps := by
  induction steps generalizing index with
  | nil => rfl
  | cons step rest ih =>
    obtain ⟨hstep, hrest⟩ := List.forall_mem_cons.mp h
    rw [List.map_cons, stepsFrom, Step.ofValue_toValue hstep, ih hrest]
    rfl

/-- **An automation in canonical form**: the title is the empty text or counts as true, and the
steps are in canonical form. -/
structure IsCanonical (automation : Automation) : Prop where
  /-- The title counts as true, unless it is the empty text. -/
  titled : automation.title.isTrue = true ∨ automation.title = .text ""
  /-- The steps are in canonical form. -/
  steps : ∀ step ∈ automation.steps, step.IsCanonical

/-- **The list of the steps** that an automation is read from; it may be missing. -/
def Lists (data : Value) (items : List Value) : Prop :=
  ∃ fields, data = .object fields ∧
    (Value.field "steps" fields = .list items ∨ Value.field "steps" fields = .null ∧ items = [])

/-- The steps of an automation that was read come from a list. -/
theorem exists_lists_of_ofValue {data : Value} {automation : Automation}
    (h : ofValue data = .ok automation) :
    ∃ items, Lists data items ∧ stepsFrom 0 items = .ok automation.steps := by
  obtain ⟨fields, hfields, h⟩ := bind_eq_ok_iff.mp h
  obtain ⟨items, hitems, h⟩ := bind_eq_ok_iff.mp h
  obtain ⟨steps, hsteps, h⟩ := bind_eq_ok_iff.mp h
  obtain rfl := Except.ok.inj h
  refine ⟨items, ⟨fields, ?_, ?_⟩, hsteps⟩
  · cases data with
    | object _ => exact congrArg Value.object (Except.ok.inj hfields)
    | _ => cases hfields
  · cases hlist : Value.field "steps" fields with
    | null =>
      rw [hlist] at hitems
      exact .inr ⟨rfl, (Except.ok.inj hitems).symm⟩
    | list _ =>
      rw [hlist] at hitems
      exact .inl (congrArg Value.list (Except.ok.inj hitems))
    | _ =>
      rw [hlist] at hitems
      cases hitems

/-- **An automation that was read** is in canonical form. -/
theorem isCanonical_of_ofValue {data : Value} {automation : Automation}
    (h : ofValue data = .ok automation) : automation.IsCanonical := by
  obtain ⟨items, -, hsteps⟩ := exists_lists_of_ofValue h
  constructor
  · obtain ⟨fields, -, h⟩ := bind_eq_ok_iff.mp h
    obtain ⟨_, -, h⟩ := bind_eq_ok_iff.mp h
    obtain ⟨_, -, h⟩ := bind_eq_ok_iff.mp h
    obtain rfl := Except.ok.inj h
    dsimp only
    unfold Value.orElse
    split
    next htitle => exact .inl htitle
    next => exact .inr rfl
  · intro step hstep
    obtain ⟨i, hi⟩ := List.mem_iff_getElem?.mp hstep
    -- there are as many elements as steps, so the step was read from one of them
    have hlength := length_stepsFrom hsteps
    have hbound : i < items.length := hlength ▸ (List.getElem?_eq_some_iff.mp hi).1
    obtain ⟨step', hi', hread⟩ := ofValue_of_stepsFrom hsteps (List.getElem?_eq_getElem hbound)
    obtain rfl : step' = step := Option.some.inj (hi'.symm.trans hi)
    exact Step.isCanonical_of_ofValue hread

/-- **An automation in canonical form** is read back as it was written. -/
theorem ofValue_toValue {automation : Automation} (h : automation.IsCanonical) :
    ofValue automation.toValue = .ok automation := by
  have hid : (Value.text automation.id).orElse (.text "") = .text automation.id := by
    unfold Value.orElse
    split
    next => rfl
    next hfalse =>
      have hempty : automation.id = "" := Classical.not_not.mp (mt Value.isTrue_text.mpr hfalse)
      rw [hempty]
  have htitle : automation.title.orElse (.text "") = automation.title := by
    rcases h.titled with htitle | htitle
    · exact Value.orElse_of_isTrue htitle _
    · rw [htitle]
      rfl
  change ((stepsFrom 0 (automation.steps.map Step.toValue)).bind fun steps => Except.ok
    (Automation.mk ((Value.text automation.id).orElse (.text "")).toText
      (automation.title.orElse (.text "")) steps)) = _
  rw [stepsFrom_toValue h.steps, hid, htitle]
  rfl

/-- **The automations that can be read** are those in canonical form. -/
theorem exists_ofValue_iff {automation : Automation} :
    (∃ data, ofValue data = .ok automation) ↔ automation.IsCanonical :=
  ⟨fun ⟨_, h⟩ => isCanonical_of_ofValue h, fun h => ⟨_, ofValue_toValue h⟩⟩

/-- **Reading an automation brings it into canonical form.** What was read is read again as it is
once it has been written, also with its steps in another order, some of them left out or repeated.
No step goes by a type name of earlier versions, each is read as it is at any index, and the steps
come from the elements of the list, one from each, in order. -/
theorem parses_canonically {data : Value} {automation : Automation}
    (h : ofValue data = .ok automation) :
    ofValue automation.toValue = .ok automation ∧
      (∀ steps ⊆ automation.steps,
        ofValue ({ automation with steps } : Automation).toValue = .ok { automation with steps }) ∧
      (∀ step ∈ automation.steps, step.type ∉ legacyNames ∧
        ∀ index, Step.ofValue step.toValue index = .ok step) ∧
      ∃ items, Lists data items ∧ items.length = automation.steps.length ∧
        ∀ (i : Nat) item, items[i]? = some item → ∃ step,
          automation.steps[i]? = some step ∧ Step.ofValue item i = .ok step := by
  have hcanonical := isCanonical_of_ofValue h
  obtain ⟨items, hlists, hsteps⟩ := exists_lists_of_ofValue h
  refine ⟨ofValue_toValue hcanonical, fun steps hsub => ?_, fun step hstep => ?_, items, hlists,
    (length_stepsFrom hsteps).symm, fun i item hitem => ?_⟩
  · exact ofValue_toValue ⟨hcanonical.titled, fun step hstep => hcanonical.steps step (hsub hstep)⟩
  · have hcanonical := hcanonical.steps step hstep
    exact ⟨hcanonical.current, Step.ofValue_toValue hcanonical⟩
  · obtain ⟨step, hstep, hread⟩ := ofValue_of_stepsFrom hsteps hitem
    rw [Nat.zero_add] at hread
    exact ⟨step, hstep, hread⟩

/-- An automation as an earlier version may have written it: most fields are missing, of another
type, or count as false. -/
def outdated : Value :=
  .object [("id", .int 7), ("title", .bool false), ("steps", .list [
    .object [("type", .text "variable"), ("enabled", .text ""),
      ("config", .list [.list [.text "name", .text "a"], .text "xy"])],
    .object [("id", .list [.null]), ("type", .bool true), ("config", .int 0)]])]

/-- The automation that is read from it. -/
def updated : Automation where
  id := "7"
  title := .text ""
  steps := [
    { id := "step_0", type := "set-variable", title := .text "variable", enabled := false
      config := [("name", .text "a"), ("x", .text "y")] },
    { id := "[None]", type := "True", title := .text "True" }]

/-- The outdated automation is updated once and for all, and its steps may change places. -/
theorem parses_canonically_outdated :
    ofValue outdated = .ok updated ∧ ofValue updated.toValue = .ok updated ∧
      ofValue ({ updated with steps := updated.steps.reverse } : Automation).toValue =
        .ok { updated with steps := updated.steps.reverse } := by
  have hread : ofValue outdated = .ok updated := by rfl
  obtain ⟨hagain, hany, -, -⟩ := parses_canonically hread
  exact ⟨hread, hagain, hany _ (List.reverse_subset.mpr (List.Subset.refl _))⟩

end Automation

end Stepwise
