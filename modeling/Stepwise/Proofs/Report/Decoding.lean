import Stepwise.Proofs.Value.Sameness
import Stepwise.Report
import Mathlib.Data.List.Forall2

/-! # Reading reports back

The object that a result is written as has a key for each of its fields, and leaves out the keys of
the fields that have nothing to say. `StepResult.entries` and `RunResult.entries` list the keys with
what is written under them, if anything; the object is what is `present` of that list
(`StepResult.toValue_eq`, `RunResult.toValue_eq`).

Since the keys are distinct, each field is found under its own key, so the result is read back
(`RunResult.ofValue?_toValue`), and results whose objects mean the same are the same
(`RunResult.same_of_equals`), whatever the order of the keys. A key that is missing stands for the
one value of its field that says nothing (`RunResult.Omits`). -/

namespace Stepwise

/-! ## Entries that may be missing -/

namespace Bindings

variable {α : Type} {entries : Bindings (Option α)}

/-- The entries that hold something. -/
def present (entries : Bindings (Option α)) : Bindings α :=
  entries.filterMap fun entry => entry.2.map (entry.1, ·)

/-- No names are added when the empty entries are dropped. -/
theorem names_present_sublist (entries : Bindings (Option α)) :
    (present entries).names.Sublist entries.names := by
  induction entries with
  | nil => exact List.Sublist.slnil
  | cons entry rest ih =>
    obtain ⟨key, held⟩ := entry
    cases held with
    | none => exact ih.cons key
    | some value => exact ih.cons_cons key

/-- Under distinct names, **what an entry holds is found** once the empty ones are dropped. -/
theorem find?_present (hdistinct : entries.names.Nodup) (name : String) :
    (present entries).find? name = (entries.find? name).join := by
  induction entries with
  | nil => rfl
  | cons entry rest ih =>
    obtain ⟨key, held⟩ := entry
    rw [names_cons, List.nodup_cons] at hdistinct
    rw [find?]
    split
    next heq =>
      cases held with
      | none =>
        -- the name does not come again, so nothing is found under it
        have hmissing : find? name rest = none := find?_eq_none_iff.mpr (heq ▸ hdistinct.1)
        change find? name (present rest) = none
        rw [ih hdistinct.2, hmissing]
        rfl
      | some value => exact if_pos heq
    next hne =>
      cases held with
      | none => exact ih hdistinct.2
      | some value => exact (if_neg hne).trans (ih hdistinct.2)

end Bindings

/-! ## Readers -/

namespace Value

/-- The truth value that a value is. -/
def bool? : Value → Option Bool
  | bool b => some b
  | _ => none

/-- The integer that a value is. -/
def int? : Value → Option Int
  | int n => some n
  | _ => none

/-- The fields of a value that is an object. -/
def fields? : Value → Option Fields
  | object fields => some fields
  | _ => none

/-- The elements of a value that is a list, each of which is read. -/
def listOf? {α : Type} (read : Value → Option α) : Value → Option (List α)
  | list items => items.mapM read
  | _ => none

@[simp] theorem bool?_bool (b : Bool) : bool? (bool b) = some b := rfl

@[simp] theorem int?_int (n : Int) : int? (int n) = some n := rfl

@[simp] theorem text?_text (s : String) : text? (text s) = some s := rfl

@[simp] theorem fields?_object (fields : Fields) : fields? (object fields) = some fields := rfl

variable {α : Type} {read : Value → Option α} {write : α → Value}

/-- What is there or not is read back. -/
theorem mapM_map_option (h : ∀ a, read (write a) = some a) (found : Option α) :
    (found.map write).mapM read = some found := by
  cases found with
  | none => rfl
  | some a => exact congrArg (Option.map some) (h a)

/-- A list is read back element by element. -/
theorem listOf?_map (h : ∀ a, read (write a) = some a) (items : List α) :
    listOf? read (.list (items.map write)) = some items := by
  have hread : read ∘ write = some := funext h
  rw [listOf?, List.mapM_map, hread]
  exact List.mapM_pure.trans (congrArg some items.map_id)

/-! ## Writers that tell their values apart -/

/-- Texts that mean the same are the same. -/
theorem eq_of_equals_text ⦃s t : String⦄ (h : (text s).equals (text t) = true) : s = t := by
  rw [equals] at h
  exact beq_iff_eq.mp h

/-- Integers that mean the same are the same. -/
theorem eq_of_equals_int ⦃m n : Int⦄ (h : (int m).equals (int n) = true) : m = n := by
  rw [equals_of_number (.inl rfl), beq_iff_eq] at h
  exact Std.compare_eq_iff_eq.mp (Option.some.inj h)

/-- Truth values that mean the same are the same. -/
theorem eq_of_equals_bool ⦃a b : Bool⦄ (h : (bool a).equals (bool b) = true) : a = b := by
  rw [equals_of_number (.inl rfl), beq_iff_eq] at h
  have hint : a.toInt = b.toInt := Std.compare_eq_iff_eq.mp (Option.some.inj h)
  cases a <;> cases b <;> first | rfl | cases hint

/-- What is there in one place is there in the other, and means the same. -/
abbrev EqualsOption : Option Value → Option Value → Prop :=
  Option.Rel fun x y => x.equals y = true

/-- What is written in two places where the same is meant. -/
theorem equals_of_written {x? y? : Option Value} {x y : Value} (hx : x? = some x) (hy : y? = some y)
    (h : EqualsOption x? y?) : x.equals y = true := by
  subst hx hy
  cases h with
  | some hequal => exact hequal

/-- What is written or not in two places where the same is meant is the same, if the writer tells
its values apart. -/
theorem eq_of_written {x? y? : Option Value} {found other : Option α}
    (hinj : ∀ ⦃a b⦄, (write a).equals (write b) = true → a = b) (hx : x? = found.map write)
    (hy : y? = other.map write) (h : EqualsOption x? y?) : found = other := by
  subst hx hy
  cases found with
  | none =>
    cases other with
    | none => rfl
    | some b => cases h
  | some a =>
    cases other with
    | none => cases h
    | some b =>
      cases h with
      | some hequal => exact congrArg some (hinj hequal)

/-- **Objects that mean the same** have fields under the same names, and these mean the same. -/
theorem equalsOption_find? {xs ys : Fields} (hxs : xs.names.Nodup)
    (h : (object xs).equals (object ys) = true) (name : String) :
    EqualsOption (xs.find? name) (ys.find? name) := by
  rw [equals, Bool.and_eq_true, beq_iff_eq] at h
  obtain ⟨hlength, hfound⟩ := h
  cases hx : xs.find? name with
  | none =>
    have hperm := names_perm_of_equalFields hxs hlength hfound
    have hmissing : ys.find? name = none := by
      rw [Bindings.find?_eq_none_iff, ← hperm.mem_iff]
      exact Bindings.find?_eq_none_iff.mp hx
    rw [hmissing]
    exact .none
  | some x =>
    obtain ⟨y, hy, hequal⟩ := equalFields_iff.mp hfound _ (Bindings.mem_of_find? hx)
    rw [hy]
    exact .some hequal

/-- Lists that mean the same have elements that mean the same at each place. -/
theorem forall₂_of_equalItems {xs ys : List Value} (h : equalItems xs ys = true) :
    List.Forall₂ (fun x y => x.equals y = true) xs ys := by
  induction xs generalizing ys with
  | nil =>
    cases ys with
    | nil => exact .nil
    | cons y ys => cases h
  | cons x xs ih =>
    cases ys with
    | nil => cases h
    | cons y ys =>
      rw [equalItems, Bool.and_eq_true] at h
      exact .cons h.1 (ih h.2)

end Value

/-! ## The result of a step -/

namespace StepResult

/-- The keys of the object of a step's result, with what is written under them. -/
def entries (result : StepResult) : Bindings (Option Value) :=
  [("stepId", some (.text result.stepId)), ("type", some (.text result.type)),
    ("success", some (.bool result.success)), ("durationMs", some (.int result.durationMs)),
    ("skipped", (Option.guard id result.skipped).map .bool),
    ("output", (Option.guard (!·.isEmpty) result.output).map .object),
    ("error", result.error.map .text)]

theorem toValue_eq (result : StepResult) :
    result.toValue = .object (Bindings.present result.entries) := by
  obtain ⟨stepId, type, success, durationMs, output, error, skipped⟩ := result
  cases skipped <;> cases output <;> cases error <;> rfl

/-- **Fields that tell a step's result**: under each key stands what there is to say, or nothing. -/
structure Tells (result : StepResult) (fields : Fields) : Prop where
  /-- The names are distinct. -/
  distinct : fields.names.Nodup
  /-- The id is written. -/
  stepId : fields.find? "stepId" = some (.text result.stepId)
  /-- The type is written. -/
  type : fields.find? "type" = some (.text result.type)
  /-- The success is written. -/
  success : fields.find? "success" = some (.bool result.success)
  /-- The duration is written. -/
  durationMs : fields.find? "durationMs" = some (.int result.durationMs)
  /-- It is written that the step was skipped. -/
  skipped : fields.find? "skipped" = (Option.guard id result.skipped).map .bool
  /-- An output is written if it has a field. -/
  output : fields.find? "output" = (Option.guard (!·.isEmpty) result.output).map .object
  /-- An error is written, whatever its text. -/
  error : fields.find? "error" = result.error.map .text

theorem tells_present (result : StepResult) : result.Tells (Bindings.present result.entries) := by
  have hdistinct : result.entries.names.Nodup := by
    change ["stepId", "type", "success", "durationMs", "skipped", "output", "error"].Nodup
    decide
  have hfound := Bindings.find?_present hdistinct
  exact {
    distinct := (Bindings.names_present_sublist _).nodup hdistinct
    stepId := hfound _
    type := hfound _
    success := hfound _
    durationMs := hfound _
    skipped := hfound _
    output := hfound _
    error := hfound _ }

/-- **The result of a step, read** from the fields of an object. -/
def ofFields? (fields : Fields) : Option StepResult := do
  let stepId ← (fields.find? "stepId").bind Value.text?
  let type ← (fields.find? "type").bind Value.text?
  let success ← (fields.find? "success").bind Value.bool?
  let durationMs ← (fields.find? "durationMs").bind Value.int?
  let skipped ← (fields.find? "skipped").mapM Value.bool?
  let output ← (fields.find? "output").mapM Value.fields?
  let error ← (fields.find? "error").mapM Value.text?
  return {
    stepId, type, success, durationMs, error
    skipped := skipped.getD false
    output := output.getD [] }

/-- The result of a step, read from a value that is an object. -/
def ofValue? (value : Value) : Option StepResult := value.fields?.bind ofFields?

/-- A missing key is read as not skipped. -/
theorem getD_guard_skipped (skipped : Bool) : (Option.guard id skipped).getD false = skipped := by
  cases skipped <;> rfl

/-- A missing key is read as no output. -/
theorem getD_guard_output (output : Fields) :
    (Option.guard (!·.isEmpty) output).getD [] = output := by
  cases output <;> rfl

/-- **The result of a step is read** from fields that tell it. -/
theorem Tells.ofFields? {result : StepResult} {fields : Fields} (h : result.Tells fields) :
    ofFields? fields = some result := by
  have hskipped := Value.mapM_map_option Value.bool?_bool (Option.guard id result.skipped)
  have houtput := Value.mapM_map_option Value.fields?_object
    (Option.guard (!·.isEmpty) result.output)
  have herror := Value.mapM_map_option Value.text?_text result.error
  rw [StepResult.ofFields?, h.stepId, h.type, h.success, h.durationMs, h.skipped, h.output, h.error,
    hskipped, houtput, herror]
  -- a key that was left out is read as what it was left out for
  change some { result with skipped := _, output := _ } = some result
  rw [getD_guard_skipped, getD_guard_output]

/-- **The result of a step is read back** from its object. -/
theorem ofValue?_toValue (result : StepResult) : ofValue? result.toValue = some result := by
  rw [toValue_eq]
  exact result.tells_present.ofFields?

/-- **The same result of a step**: the same in every field, where the outputs are objects that mean
the same. -/
structure Same (result other : StepResult) : Prop where
  /-- The ids are the same. -/
  stepId : result.stepId = other.stepId
  /-- The types are the same. -/
  type : result.type = other.type
  /-- Both did their work, or neither did. -/
  success : result.success = other.success
  /-- The durations are the same. -/
  durationMs : result.durationMs = other.durationMs
  /-- The outputs mean the same. -/
  output : (Value.object result.output).equals (.object other.output) = true
  /-- The errors are the same. -/
  error : result.error = other.error
  /-- Both were skipped, or neither was. -/
  skipped : result.skipped = other.skipped

/-- **The keys that are left out** of the object of a step's result stand for one value each. -/
structure Omits (result : StepResult) (fields : Fields) : Prop where
  /-- No key says that the step was not skipped. -/
  skipped : fields.find? "skipped" = none ↔ result.skipped = false
  /-- No key says that there is no output. -/
  output : fields.find? "output" = none ↔ result.output = []
  /-- No key says that there is no error. -/
  error : fields.find? "error" = none ↔ result.error = none

theorem Tells.omits {result : StepResult} {fields : Fields} (h : result.Tells fields) :
    result.Omits fields where
  skipped := by
    rw [h.skipped, Option.map_eq_none_iff, Option.guard_eq_none_iff]
    exact Iff.rfl
  output := by
    rw [h.output, Option.map_eq_none_iff, Option.guard_eq_none_iff, Bool.not_eq_false',
      List.isEmpty_iff]
  error := by rw [h.error, Option.map_eq_none_iff]

/-- Outputs that are written, or left out, where the same is meant. -/
theorem equals_output {x? y? : Option Value} {output other : Fields}
    (hx : x? = (Option.guard (!·.isEmpty) output).map .object)
    (hy : y? = (Option.guard (!·.isEmpty) other).map .object) (h : Value.EqualsOption x? y?) :
    (Value.object output).equals (.object other) = true := by
  subst hx hy
  cases output with
  | nil =>
    cases other with
    | nil => rfl
    | cons => cases h
  | cons =>
    cases other with
    | nil => cases h
    | cons =>
      cases h with
      | some hequal => exact hequal

/-- **Results of steps that are told by fields that mean the same are the same.** -/
theorem Tells.same {result other : StepResult} {xs ys : Fields} (hxs : result.Tells xs)
    (hys : other.Tells ys) (h : (Value.object xs).equals (.object ys) = true) :
    result.Same other := by
  have hfound := Value.equalsOption_find? hxs.distinct h
  have hskipped : Option.guard id result.skipped = Option.guard id other.skipped :=
    Value.eq_of_written Value.eq_of_equals_bool hxs.skipped hys.skipped (hfound _)
  exact {
    stepId := Value.eq_of_equals_text (Value.equals_of_written hxs.stepId hys.stepId (hfound _))
    type := Value.eq_of_equals_text (Value.equals_of_written hxs.type hys.type (hfound _))
    success := Value.eq_of_equals_bool (Value.equals_of_written hxs.success hys.success (hfound _))
    durationMs :=
      Value.eq_of_equals_int (Value.equals_of_written hxs.durationMs hys.durationMs (hfound _))
    output := equals_output hxs.output hys.output (hfound _)
    error := Value.eq_of_written Value.eq_of_equals_text hxs.error hys.error (hfound _)
    skipped := by rw [← getD_guard_skipped result.skipped, hskipped, getD_guard_skipped] }

/-- Results of steps whose objects mean the same are the same. -/
theorem same_of_equals {result other : StepResult}
    (h : result.toValue.equals other.toValue = true) : result.Same other := by
  rw [toValue_eq, toValue_eq] at h
  exact result.tells_present.same other.tells_present h

end StepResult

/-! ## The result of a run -/

/-- The status that a value names. -/
def Status.ofValue? (value : Value) : Option Status :=
  value.text?.bind fun name => (Status.ofName name).toOption

@[simp] theorem Status.ofValue?_name (status : Status) :
    Status.ofValue? (.text status.name) = some status := by
  cases status <;> rfl

namespace RunResult

/-- The keys of the object of a run's result, with what is written under them. -/
def entries (result : RunResult) : Bindings (Option Value) :=
  [("success", some (.bool result.success)), ("status", some (.text result.status.name)),
    ("executionTime", some (.int result.executionTime)),
    ("stepsCompleted", some (.int result.stepsCompleted)),
    ("totalSteps", some (.int result.totalSteps)), ("timestamp", some (.text result.timestamp)),
    ("error", result.error.map .text), ("failedStep", result.failedStep.map .int),
    ("errorType", result.errorType.map .text),
    ("stepResults", some (.list (result.stepResults.map StepResult.toValue)))]

theorem toValue_eq (result : RunResult) :
    result.toValue = .object (Bindings.present result.entries) := by
  obtain ⟨_, _, _, _, _, _, error, failedStep, errorType, _⟩ := result
  cases error <;> cases failedStep <;> cases errorType <;> rfl

/-- **Fields that tell a run's result**: under each key stands what there is to say, or nothing. -/
structure Tells (result : RunResult) (fields : Fields) : Prop where
  /-- The names are distinct. -/
  distinct : fields.names.Nodup
  /-- The success is written. -/
  success : fields.find? "success" = some (.bool result.success)
  /-- The status is written by its name. -/
  status : fields.find? "status" = some (.text result.status.name)
  /-- The duration is written. -/
  executionTime : fields.find? "executionTime" = some (.int result.executionTime)
  /-- The number of steps that did their work is written. -/
  stepsCompleted : fields.find? "stepsCompleted" = some (.int result.stepsCompleted)
  /-- The number of steps is written. -/
  totalSteps : fields.find? "totalSteps" = some (.int result.totalSteps)
  /-- The time is written. -/
  timestamp : fields.find? "timestamp" = some (.text result.timestamp)
  /-- An error is written, whatever its text. -/
  error : fields.find? "error" = result.error.map .text
  /-- The index of a step that failed is written, whatever it is. -/
  failedStep : fields.find? "failedStep" = result.failedStep.map .int
  /-- The kind of a fault is written, whatever its name. -/
  errorType : fields.find? "errorType" = result.errorType.map .text
  /-- The results of the steps are written in order. -/
  stepResults : fields.find? "stepResults" =
    some (.list (result.stepResults.map StepResult.toValue))

theorem tells_present (result : RunResult) : result.Tells (Bindings.present result.entries) := by
  have hdistinct : result.entries.names.Nodup := by
    change ["success", "status", "executionTime", "stepsCompleted", "totalSteps", "timestamp",
      "error", "failedStep", "errorType", "stepResults"].Nodup
    decide
  have hfound := Bindings.find?_present hdistinct
  exact {
    distinct := (Bindings.names_present_sublist _).nodup hdistinct
    success := hfound _
    status := hfound _
    executionTime := hfound _
    stepsCompleted := hfound _
    totalSteps := hfound _
    timestamp := hfound _
    error := hfound _
    failedStep := hfound _
    errorType := hfound _
    stepResults := hfound _ }

/-- **The result of a run, read** from the fields of an object. -/
def ofFields? (fields : Fields) : Option RunResult := do
  let success ← (fields.find? "success").bind Value.bool?
  let status ← (fields.find? "status").bind Status.ofValue?
  let executionTime ← (fields.find? "executionTime").bind Value.int?
  let stepsCompleted ← (fields.find? "stepsCompleted").bind Value.int?
  let totalSteps ← (fields.find? "totalSteps").bind Value.int?
  let timestamp ← (fields.find? "timestamp").bind Value.text?
  let error ← (fields.find? "error").mapM Value.text?
  let failedStep ← (fields.find? "failedStep").mapM Value.int?
  let errorType ← (fields.find? "errorType").mapM Value.text?
  let stepResults ← (fields.find? "stepResults").bind (Value.listOf? StepResult.ofValue?)
  return {
    success, status, executionTime, stepsCompleted, totalSteps, timestamp, error, failedStep
    errorType, stepResults }

/-- The result of a run, read from a value that is an object. -/
def ofValue? (value : Value) : Option RunResult := value.fields?.bind ofFields?

/-- **The result of a run is read** from fields that tell it. -/
theorem Tells.ofFields? {result : RunResult} {fields : Fields} (h : result.Tells fields) :
    ofFields? fields = some result := by
  have hstatus : (some (Value.text result.status.name)).bind Status.ofValue? = some result.status :=
    Status.ofValue?_name _
  have hsteps : (some (Value.list (result.stepResults.map StepResult.toValue))).bind
      (Value.listOf? StepResult.ofValue?) = some result.stepResults :=
    Value.listOf?_map StepResult.ofValue?_toValue _
  rw [RunResult.ofFields?, h.success, h.status, h.executionTime, h.stepsCompleted, h.totalSteps,
    h.timestamp, h.error, h.failedStep, h.errorType, h.stepResults, hstatus,
    Value.mapM_map_option Value.text?_text, Value.mapM_map_option Value.int?_int,
    Value.mapM_map_option Value.text?_text, hsteps]
  rfl

/-- **The result of a run is read back** from its object. -/
theorem ofValue?_toValue (result : RunResult) : ofValue? result.toValue = some result := by
  rw [toValue_eq]
  exact result.tells_present.ofFields?

/-- **The keys that are left out** of the object of a run's result stand for one value each. -/
structure Omits (result : RunResult) (fields : Fields) : Prop where
  /-- No key says that there is no error. -/
  error : fields.find? "error" = none ↔ result.error = none
  /-- No key says that no step failed. -/
  failedStep : fields.find? "failedStep" = none ↔ result.failedStep = none
  /-- No key says that there is no kind of fault. -/
  errorType : fields.find? "errorType" = none ↔ result.errorType = none

theorem Tells.omits {result : RunResult} {fields : Fields} (h : result.Tells fields) :
    result.Omits fields where
  error := by rw [h.error, Option.map_eq_none_iff]
  failedStep := by rw [h.failedStep, Option.map_eq_none_iff]
  errorType := by rw [h.errorType, Option.map_eq_none_iff]

/-- **The same result of a run**: the same in every field, where the steps have the same results one
by one. -/
structure Same (result other : RunResult) : Prop where
  /-- Both were completed, or neither was. -/
  success : result.success = other.success
  /-- The statuses are the same. -/
  status : result.status = other.status
  /-- The durations are the same. -/
  executionTime : result.executionTime = other.executionTime
  /-- Equally many steps did their work. -/
  stepsCompleted : result.stepsCompleted = other.stepsCompleted
  /-- Equally many steps could be run. -/
  totalSteps : result.totalSteps = other.totalSteps
  /-- The times are the same. -/
  timestamp : result.timestamp = other.timestamp
  /-- The errors are the same. -/
  error : result.error = other.error
  /-- The same step failed, or none did. -/
  failedStep : result.failedStep = other.failedStep
  /-- The kinds of fault are the same. -/
  errorType : result.errorType = other.errorType
  /-- The results of the steps are the same. -/
  stepResults : List.Forall₂ StepResult.Same result.stepResults other.stepResults

/-- **Results of runs that are told by fields that mean the same are the same.** -/
theorem Tells.same {result other : RunResult} {xs ys : Fields} (hxs : result.Tells xs)
    (hys : other.Tells ys) (h : (Value.object xs).equals (.object ys) = true) :
    result.Same other := by
  have hfound := Value.equalsOption_find? hxs.distinct h
  have hname := Value.eq_of_equals_text (Value.equals_of_written hxs.status hys.status (hfound _))
  have hstatus : some result.status = some other.status := by
    rw [← Status.ofValue?_name result.status, hname, Status.ofValue?_name]
  have hitems := Value.equals_of_written hxs.stepResults hys.stepResults (hfound _)
  rw [Value.equals] at hitems
  -- the steps' objects mean the same one by one, and so the steps are the same one by one
  have hsteps := Value.forall₂_of_equalItems hitems
  rw [List.forall₂_map_left_iff, List.forall₂_map_right_iff] at hsteps
  exact {
    success := Value.eq_of_equals_bool (Value.equals_of_written hxs.success hys.success (hfound _))
    status := Option.some.inj hstatus
    executionTime := Value.eq_of_equals_int
      (Value.equals_of_written hxs.executionTime hys.executionTime (hfound _))
    stepsCompleted := Value.eq_of_equals_int
      (Value.equals_of_written hxs.stepsCompleted hys.stepsCompleted (hfound _))
    totalSteps :=
      Value.eq_of_equals_int (Value.equals_of_written hxs.totalSteps hys.totalSteps (hfound _))
    timestamp :=
      Value.eq_of_equals_text (Value.equals_of_written hxs.timestamp hys.timestamp (hfound _))
    error := Value.eq_of_written Value.eq_of_equals_text hxs.error hys.error (hfound _)
    failedStep :=
      Value.eq_of_written Value.eq_of_equals_int hxs.failedStep hys.failedStep (hfound _)
    errorType := Value.eq_of_written Value.eq_of_equals_text hxs.errorType hys.errorType (hfound _)
    stepResults := hsteps.imp fun _ _ => StepResult.same_of_equals }

/-- **A report loses nothing.** The result of a run is read back from its object, so results with
one object are one; results whose objects mean the same are the same; and a key that is missing, of
the run or of a step, stands for the one value that says nothing. -/
theorem toValue_lossless (result : RunResult) :
    ofValue? result.toValue = some result ∧
      (∀ other : RunResult, other.toValue = result.toValue → other = result) ∧
      (∀ other : RunResult, other.toValue.equals result.toValue = true → other.Same result) ∧
      ∃ fields, result.toValue = .object fields ∧ result.Tells fields ∧ result.Omits fields ∧
        ∀ step ∈ result.stepResults,
          ∃ entry, step.toValue = .object entry ∧ step.Tells entry ∧ step.Omits entry := by
  refine ⟨result.ofValue?_toValue, fun other h => ?_, fun other h => ?_, ?_⟩
  · have hread := other.ofValue?_toValue
    rw [h, ofValue?_toValue] at hread
    exact (Option.some.inj hread).symm
  · rw [toValue_eq, toValue_eq] at h
    exact other.tells_present.same result.tells_present h
  · refine ⟨_, result.toValue_eq, result.tells_present, result.tells_present.omits, ?_⟩
    intro step _
    exact ⟨_, step.toValue_eq, step.tells_present, step.tells_present.omits⟩

/-- The result of a run whose first step failed without a message. -/
def failedAtOnce (output : Fields) : RunResult where
  success := false
  status := .failed
  executionTime := 0
  stepsCompleted := 0
  totalSteps := 1
  timestamp := "2024-01-01T00:00:00"
  error := some ""
  failedStep := some 0
  stepResults := [{ stepId := "0", type := "wait", success := false, output, error := some "" }]

/-- The empty error text and the index 0 are read back, and without the index the object would be
another one. Outputs that list their fields in another order, or write 1 as true, make no other
results. -/
theorem toValue_lossless_reordered :
    ofValue? (failedAtOnce []).toValue = some (failedAtOnce []) ∧
      ({ failedAtOnce [] with failedStep := none } : RunResult).toValue ≠
        (failedAtOnce []).toValue ∧
      (failedAtOnce [("b", .bool true), ("a", .int 2)]).toValue.equals
        (failedAtOnce [("a", .int 2), ("b", .int 1)]).toValue = true ∧
      (failedAtOnce [("b", .bool true), ("a", .int 2)]).Same
        (failedAtOnce [("a", .int 2), ("b", .int 1)]) := by
  have hequal : (failedAtOnce [("b", .bool true), ("a", .int 2)]).toValue.equals
      (failedAtOnce [("a", .int 2), ("b", .int 1)]).toValue = true := by decide
  obtain ⟨hread, hunique, -, -⟩ := toValue_lossless (failedAtOnce [])
  refine ⟨hread, fun hsame => ?_, hequal,
    (toValue_lossless (failedAtOnce [("a", .int 2), ("b", .int 1)])).2.2.1 _ hequal⟩
  have hstep : (none : Option Int) = some 0 := congrArg failedStep (hunique _ hsame)
  cases hstep

end RunResult

end Stepwise
