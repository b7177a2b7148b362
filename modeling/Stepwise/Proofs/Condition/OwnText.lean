import Stepwise.Proofs.Execution.Dispatch
import Stepwise.Proofs.Execution.Endings
import Stepwise.Proofs.Template.Totality
import Stepwise.Proofs.Validation.Forecast
import Stepwise.Proofs.Value.Spelling
import Stepwise.Run
import Stepwise.Simulation

/-! # A variable compared with its own text

A condition may compare a variable with a template that is a single block naming that variable. The
template is resolved to the text that stands for the value (`Template.stringify`), and the condition
then compares the value with that text, by what it is shown as (`Value.toText`).

The two texts need not be the same: one is the JSON text where the other is the literal.
`Value.meetsOwnText` says which values are equal to their own text, and
`Run.perform_on_own_text` that a condition step reports just this. A truth value never is, and a
list or an object only where it is spelled alike. -/

namespace Stepwise

/-! ## Values and their texts -/

/-- **Whether a value is equal to the text that stands for it**: texts and numbers are, truth values
are not, and lists and objects are if their two spellings are the same. -/
def Value.meetsOwnText : Value → Bool
  | .null | .bool _ => false
  | .int _ | .float _ | .text _ => true
  | value@(.list _) | value@(.object _) => value.isSpelledAlike

namespace Condition

/-- A value is equal to a text exactly if the text is what it is shown as. -/
theorem same_text (value : Value) (s : String) : same value (.text s) = (value.toText == s) := by
  rw [same, Value.toText_text]
  cases value with
  | text t =>
    rw [Value.equals, Value.toText_text, Bool.or_self]
  | _ => rfl

/-- **A value is equal to the text that stands for it** exactly if it meets its own text. -/
theorem same_stringify {value : Value} (h : value ≠ .null) :
    same value (.text (Template.stringify value)) = value.meetsOwnText := by
  have hspelled : ∀ other : Value, (other.literal == Json.write other) = other.isSpelledAlike := by
    intro other
    rw [Bool.eq_iff_iff, beq_iff_eq, eq_comm]
    exact other.write_eq_literal_iff
  rw [same_text]
  cases value with
  | null => exact absurd rfl h
  | bool b => exact hspelled (.bool b)
  | int n => exact beq_self_eq_true _
  | float x => exact beq_self_eq_true _
  | text s => exact beq_self_eq_true _
  | list items => exact hspelled (.list items)
  | object fields => exact hspelled (.object fields)

/-- Comparing a value with the text that stands for it. -/
theorem compare_stringify {value : Value} (h : value ≠ .null) :
    compare value (.text "==") (.text (Template.stringify value)) = .ok value.meetsOwnText := by
  have hnull : value.isNull = false := by
    cases value with
    | null => exact absurd rfl h
    | _ => rfl
  show Operator.equal.holds value _ = _
  rw [Operator.holds, hnull, ← same_stringify h]
  rfl

end Condition

/-! ## Templates that are a single block -/

namespace Template

variable {store : Store} {name : String}

/-- The template that is a single block with a given inside. -/
def block (name : String) : String := "\x7b\x7b" ++ name ++ "\x7d\x7d"

/-- A text without a closing brace has no reference. -/
theorem hasReference_of_free (h : '}' ∉ name.toList) : hasReference (.text name) = false := by
  obtain ⟨blocks, last, hcut, -⟩ := exists_cuts (fun _ => true) name.toList
  rw [← Bool.not_eq_true, hasReference_iff hcut]
  generalize name.toList = cs at h hcut
  cases hcut with
  | tail => simp
  | block =>
    refine absurd ?_ h
    simp [written]

/-- **A single block is resolved** to the text that stands for the value of its variable. -/
theorem resolve_block (hname : name ≠ "") (hfree : '}' ∉ name.toList) {value : Value}
    (hlookup : lookup store (Text.trimmed name) = .ok value) :
    resolve store (block name) = .ok (stringify value) := by
  have hinside : IsInside (fun _ => true) name.toList :=
    ⟨fun hnil => hname (String.toList_eq_nil_iff.mp hnil), hfree, rfl⟩
  have hwritten : (block name).toList = written name.toList ++ [] := by
    simp [block, written]
  have hlookup' : lookup store (String.ofList (Text.trim name.toList)) = .ok value := hlookup
  rw [resolve, pieces, hwritten, piecesWith_written hinside, piecesWith, resolvePieces,
    resolvePiece, hlookup', resolvePieces]
  simp [bind, Except.bind, pure, Except.pure]

end Template

namespace Template

/-- A field that is a text, in the resolved configuration. -/
theorem find?_of_resolve {store : Store} {config resolved : Fields} {field s t : String}
    (hconfig : resolveFields store config = .ok resolved)
    (hfind : config.find? field = some (.text s)) (hresolve : resolve store s = .ok t) :
    resolved.find? field = some (.text t) := by
  have hrelated := Preflight.find?_resolveFields hconfig field
  rw [hfind] at hrelated
  generalize Bindings.find? field resolved = found at hrelated ⊢
  cases hrelated with
  | some hvalue =>
    rw [resolveValue, hresolve] at hvalue
    rw [← Except.ok.inj hvalue]

end Template

variable {σ : Type}

/-! ## Condition steps -/

namespace Steps

/-- **What a condition step comes to**: it reports whether the comparison holds, or fails as the
comparison does. -/
theorem conditional_comesTo {config : Fields} {context : Context σ} {store : Store} {world : σ}
    {name : String} {operator actual : Value} (hname : Config.trimmed config "variable" = .ok name)
    (hoperator : Config.item config "condition" = .ok operator)
    (hactual : Template.lookup store name = .ok actual) :
    ((conditional : Handler σ).execute config context).ComesTo store world
      { result := (Condition.compare actual operator (Value.field "value" config)).map fun met =>
          .object [("variable", .text name), ("condition", operator),
            ("value", Value.field "value" config), ("variableValue", actual),
            ("conditionMet", .bool met)]
        store, world } := by
  refine (Action.Reads.lift hname).comesTo_bind ?_
  refine (Action.Reads.lift hoperator).comesTo_bind ?_
  refine Action.Reads.getStore.comesTo_bind ?_
  refine (Action.Reads.lift hactual).comesTo_bind ?_
  -- the only note that depends on the values is a warning before the comparison
  cases Condition.warning? actual operator (Value.field "value" config) with
  | none =>
    cases hmet : Condition.compare actual operator (Value.field "value" config) with
    | error fault => exact ⟨[], rfl⟩
    | ok met => exact (Action.Reads.lift rfl).bind ((Action.Reads.note _).bind (.pure _))
  | some warning =>
    refine (Action.Reads.note _).comesTo_bind ?_
    cases hmet : Condition.compare actual operator (Value.field "value" config) with
    | error fault => exact ⟨[], rfl⟩
    | ok met => exact (Action.Reads.lift rfl).bind ((Action.Reads.note _).bind (.pure _))

/-- **What a condition step reports**, if the comparison does not fail. -/
theorem conditional_reads {config : Fields} {context : Context σ} {store : Store} {world : σ}
    {name : String} {operator actual : Value} {met : Bool}
    (hname : Config.trimmed config "variable" = .ok name)
    (hoperator : Config.item config "condition" = .ok operator)
    (hactual : Template.lookup store name = .ok actual)
    (hmet : Condition.compare actual operator (Value.field "value" config) = .ok met) :
    ((conditional : Handler σ).execute config context).Reads store world
      (.object [("variable", .text name), ("condition", operator),
        ("value", Value.field "value" config), ("variableValue", actual),
        ("conditionMet", .bool met)]) := by
  have hcomes : ((conditional : Handler σ).execute config context).ComesTo store world _ :=
    conditional_comesTo hname hoperator hactual
  rw [hmet] at hcomes
  exact hcomes

/-- **A condition step accepts a comparison** of a variable with some value. -/
theorem conditional_accepts {config : Fields} {name : String} {value : Value}
    (hvariable : config.find? "variable" = some (.text name)) (hblank : Text.isBlank name = false)
    (hcondition : config.find? "condition" = some (.text "=="))
    (hvalue : config.find? "value" = some value) :
    (conditional : Handler σ).validate config = .ok () := by
  have hbinds : config.binds "value" = true := by
    rw [Bindings.binds, hvalue]
    rfl
  have hname := Config.requireText_of_find? hvariable hblank
  have hoperator := Config.requireText_of_find? hcondition (by decide)
  simp only [conditional, hname, hoperator, hbinds]
  rfl

end Steps

namespace Run

/-- **A condition step that compares a variable with its own text** is performed, whatever else its
configuration holds, if the references in it are legible: it reports the value, the text that stands
for it, and that the condition is met exactly if the value meets its own text. It changes no
variable and makes no request. -/
theorem perform_on_own_text {run : Run σ} {step : Step} {name : String} {value : Value}
    (hhandler : run.controller.registry.get? step.type = some Steps.conditional)
    (hvariable : step.config.find? "variable" = some (.text name))
    (hcondition : step.config.find? "condition" = some (.text "=="))
    (hvalue : step.config.find? "value" = some (.text (Template.block name)))
    (hreads : ∀ other ∈ Template.fieldReferences step.config,
      Template.IsLegible run.store other)
    (htrimmed : Text.trimmed name = name) (hne : name ≠ "") (hfree : '}' ∉ name.toList)
    (hbound : run.store.get? name = some value) (hnull : value ≠ .null) :
    (run.perform step).1 = .ok (.object [("variable", .text name), ("condition", .text "=="),
        ("value", .text (Template.stringify value)), ("variableValue", value),
        ("conditionMet", .bool value.meetsOwnText)]) ∧
      Condition.compare value (.text "==") (.text (Template.stringify value)) =
        .ok value.meetsOwnText ∧
      (run.perform step).2.store = run.store ∧ (run.perform step).2.requests = run.requests := by
  have hlookup : Template.lookup run.store name = .ok value := by
    rw [Template.lookup, hbound]
  have hmet := Condition.compare_stringify hnull
  -- the configuration in the run: the name and the operator as they are, and the text of the value
  obtain ⟨config, hconfig⟩ : ∃ config : Fields,
      Template.resolveFields run.store step.config = .ok config := by
    obtain ⟨values, hanswers, -⟩ :=
      Template.exists_answers fun other hother => (hreads other hother).read
    obtain ⟨config, hconfig, -⟩ := Template.resolveFields_filled step.config hanswers
    exact ⟨config, hconfig⟩
  have hvariable' := Template.find?_of_resolve hconfig hvariable
    (Template.resolve_eq_self (Template.hasReference_of_free hfree))
  have hcondition' := Template.find?_of_resolve hconfig hcondition
    (Template.resolve_eq_self (Template.hasReference_of_free (by decide)))
  have hvalue' := Template.find?_of_resolve hconfig hvalue
    (Template.resolve_block hne hfree (by rw [htrimmed]; exact hlookup))
  have hexpected : Value.field "value" config = .text (Template.stringify value) := by
    rw [Value.field, hvalue']
    rfl
  -- the step is accepted and looks the value up
  have hblank := Text.isBlank_eq_false htrimmed hne
  have hname : Config.trimmed config "variable" = .ok name := by
    rw [Config.trimmed_of_requireText (Config.requireText_of_find? hvariable' hblank), htrimmed]
  have hoperator : Config.item config "condition" = .ok (.text "==") := by
    rw [Config.item, hcondition']
  have hreport : ((Steps.conditional : Handler σ).execute config
      ⟨run.controller.platform, run.controller.settings, step⟩).Reads run.store
        run.controller.world _ :=
    Steps.conditional_reads hname hoperator hlookup (by rw [hexpected]; exact hmet)
  obtain ⟨log, hdispatch⟩ := dispatch_reads hhandler hconfig
    (Steps.conditional_accepts hvariable' hblank hcondition' hvalue') hreport
  rw [hexpected] at hdispatch
  unfold perform
  rw [hdispatch]
  exact ⟨rfl, hmet, rfl, List.append_nil _⟩

end Run

namespace Controller

/-- A controller that can compare, in a simulated world. -/
def comparing : Controller Simulation.World where
  registry := ⟨[("condition", Steps.conditional)]⟩
  platform := ({} : Simulation.Scenario).platform
  world := {}

/-- A step that compares a variable with its own text. -/
def ownTextStep (name : String) : Step where
  id := "c"
  type := "condition"
  config := [("variable", .text name), ("condition", .text "=="),
    ("value", .text (Template.block name))]

/-- A list of a number and a text with a single quote, as the variable `items`. -/
def quoting : Run Simulation.World where
  controller := comparing
  store := ⟨[("items", .list [.int 1, .text "it's"])]⟩

/-- The list is spelled alike in both ways, and so meets its own text. -/
theorem perform_on_own_text_quoting :
    (quoting.perform (ownTextStep "items")).1 =
      .ok (.object [("variable", .text "items"), ("condition", .text "=="),
        ("value", .text "[1, \"it's\"]"),
        ("variableValue", .list [.int 1, .text "it's"]), ("conditionMet", .bool true)]) := by
  have hreads : ∀ other ∈ Template.fieldReferences (ownTextStep "items").config,
      Template.IsLegible quoting.store other := by
    have hnames : Template.fieldReferences (ownTextStep "items").config = ["items"] := by
      decide +kernel
    rw [hnames, List.forall_mem_singleton]
    constructor
    · rintro ⟨hunbound, -⟩
      cases hunbound
    · -- the name is bound, so it denotes nothing but the list
      rintro value (hfound | ⟨hunbound, -, -⟩ | ⟨hunbound, -⟩)
      · obtain rfl := Option.some.inj hfound
        decide +kernel
      · cases hunbound
      · cases hunbound
  have htext : Template.stringify (.list [.int 1, .text "it's"]) = "[1, \"it's\"]" := by
    decide +kernel
  have hmeets : (Value.list [.int 1, .text "it's"]).meetsOwnText = true := by decide +kernel
  have hperform := (@Run.perform_on_own_text _ quoting (ownTextStep "items") "items" _
    rfl rfl rfl rfl hreads (by decide +kernel) (by decide) (by decide) rfl nofun).1
  rwa [htext, hmeets] at hperform

/-- Whether the condition of a step was met, if it reports so. -/
def conditionMet? (entry : StepResult) : Option Bool :=
  match Value.field "conditionMet" entry.output with
  | .bool met => some met
  | _ => none

/-- The variables `flag` and `tags`, each compared with its own text. -/
def tagging : Automation where
  id := "tagging"
  title := .text "Tagging"
  steps := [ownTextStep "flag", ownTextStep "tags"]

/-- A truth value, and a list of a plain text. -/
def tags : Value := .object [("flag", .bool true), ("tags", .list [.text "a"])]

/-- **A truth value does not meet its own text**, and neither does a list of a plain text: the run
is complete, but neither condition is met. -/
theorem misses_own_text :
    ∃ result, (comparing.start tagging tags).result = .ok result ∧ result.status = .completed ∧
      result.stepResults.map conditionMet? = [some false, some false] := by
  obtain ⟨result, hresult, hview⟩ := exists_ok_of_map (comparing.start tagging tags).result
    (fun result => (result.status, result.stepResults.map conditionMet?))
    (.completed, [some false, some false]) (by decide +kernel)
  obtain ⟨hstatus, hmet⟩ := Prod.mk.inj hview
  exact ⟨result, hresult, hstatus, hmet⟩

end Controller

end Stepwise
