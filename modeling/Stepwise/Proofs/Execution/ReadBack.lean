import Stepwise.Proofs.Condition.OwnText
import Stepwise.Proofs.Text.Trimming
import Stepwise.Simulation

/-! # Reading a variable back

A step of type `set-variable` binds its variable, and from then on every way of reading the variable
gives the value that was bound (`Steps.ReadsBack`): a look-up, a `get-variable` step, a condition on
the variable, and a template that refers to it. The name may be written with blanks around it
everywhere (`Text.IsPadded`).

No other name is affected, unless it is a path that leads through the variable: that is, no variable
has the name, and the first part of its path is the one that was bound (`Template.Bypasses`). The
main statement is `Steps.setVariable_reads_back`. -/

namespace Stepwise

variable {σ : Type}

/-! ## Looking up what was bound -/

namespace Template

/-- A variable is looked up as what it was set to. -/
theorem lookup_set (store : Store) (name : String) (value : Value) :
    lookup (store.set name value) name = .ok value := by
  rw [lookup, Store.get?_set]

/-- **A name bypasses a variable**: as another name, it does not lead through it. -/
inductive Bypasses (store : Store) (name other : String) : Prop
  /-- A variable has the other name, and is found first. -/
  | bound (h : (store.get? other).isSome = true)
  /-- The other name is no path. -/
  | plain (h : mayBePath other = false)
  /-- The path of the other name starts elsewhere. -/
  | elsewhere (h : (Path.parts other).head? ≠ some name.toList)

/-- The first part of a path selects the same from variables of which another one is set. -/
theorem select_set {part : List Char} {name : String} (h : part ≠ name.toList) (store : Store)
    (value : Value) :
    Path.select part (store.set name value).snapshot = Path.select part store.snapshot := by
  have hname : name ≠ String.ofList part := by
    rintro rfl
    exact h String.toList_ofList.symm
  have hfind : (store.set name value).bindings.find? (String.ofList part) =
      store.bindings.find? (String.ofList part) := store.get?_set_ne hname value
  rw [Store.snapshot, Path.select, Value.field, hfind]
  rfl

/-- **A name that bypasses a variable** is looked up as before when the variable is set. -/
theorem lookup_set_ne {store : Store} {name other : String} (hne : other ≠ name)
    (h : Bypasses store name other) (value : Value) :
    lookup (store.set name value) other = lookup store other := by
  have hget := store.get?_set_ne (Ne.symm hne) value
  cases hbound : store.get? other with
  | some old => rw [lookup, hget, lookup, hbound]
  | none =>
    rw [lookup_of_unbound (hget.trans hbound), lookup_of_unbound hbound]
    cases h with
    | bound hsome =>
      rw [hbound] at hsome
      cases hsome
    | plain hplain =>
      rw [hplain]
      rfl
    | elsewhere hhead =>
      -- only the first part of a path is looked for among the variables
      obtain ⟨part, rest, hparts⟩ := List.exists_cons_of_ne_nil (Text.split_ne_nil '.' _)
      have hparts' : Path.parts other = part :: rest := hparts
      have hpart : part ≠ name.toList := by
        rintro rfl
        exact hhead (by rw [hparts']; rfl)
      rw [Path.get, Path.get, hparts', Path.follow, Path.follow, select_set hpart]

end Template

/-! ## Reading steps -/

namespace Steps

/-- **A variable reads back as a value**, however it is read and whatever blanks stand around its
name. -/
structure ReadsBack (store : Store) (name : String) (value : Value) : Prop where
  /-- A look-up gives the value. -/
  lookup : Template.lookup store name = .ok value
  /-- A `get-variable` step reports the value as found; if it is null, it reports its default
  instead. -/
  getVariable {σ : Type} (context : Context σ) (world : σ) {config : Fields} {padded : String}
      (hpadded : Text.IsPadded name padded) (hname : config.find? "name" = some (.text padded)) :
    (getVariable : Handler σ).validate config = .ok () ∧
      ((getVariable.execute config context).run store world).result =
        .ok (.object [("name", .text name),
          ("value", if value.isNull then (config.find? "defaultValue").getD (.text "") else value),
          ("found", .bool !value.isNull)])
  /-- A condition compares the value. -/
  conditional {σ : Type} (context : Context σ) (world : σ) {config : Fields} {padded : String}
      {operator : Value} (hpadded : Text.IsPadded name padded)
      (hvariable : config.find? "variable" = some (.text padded))
      (hcondition : config.find? "condition" = some operator) :
    ((conditional.execute config context).run store world).result =
      (Condition.compare value operator (Value.field "value" config)).map fun met =>
        .object [("variable", .text name), ("condition", operator),
          ("value", Value.field "value" config), ("variableValue", value),
          ("conditionMet", .bool met)]
  /-- A template that refers to the variable is resolved to the text of the value. -/
  template {padded : String} (hpadded : Text.IsPadded name padded) (hfree : '}' ∉ name.toList) :
    Template.resolve store (Template.block padded) = .ok (Template.stringify value)

/-- **What a `get-variable` step reports** of a variable. -/
theorem result_getVariable {config : Fields} {context : Context σ} {store : Store} {world : σ}
    {name : String} {value : Value} (hname : Config.trimmed config "name" = .ok name)
    (hvalue : store.get? name = some value) :
    ((getVariable.execute config context).run store world).result =
      .ok (.object [("name", .text name),
        ("value", if value.isNull then (config.find? "defaultValue").getD (.text "") else value),
        ("found", .bool !value.isNull)]) := by
  have hread : ((getVariable.execute config context).run store world).result =
      .ok (.object [("name", .text name),
        ("value", if (Value.ofOption (store.get? name)).isNull then
            (config.find? "defaultValue").getD (.text "")
          else Value.ofOption (store.get? name)),
        ("found", .bool !(Value.ofOption (store.get? name)).isNull)]) := by
    dsimp only [getVariable]
    rw [hname]
    rfl
  rw [hread, hvalue]
  rfl

/-! ## What a step bound -/

/-- **A variable that was set reads back.** -/
theorem readsBack_set {name : String} (htrimmed : Text.IsTrimmed name)
    (hblank : Text.isBlank name = false) (store : Store) (value : Value) :
    ReadsBack (store.set name value) name value := by
  have hne : name ≠ "" := Text.ne_empty_of_isBlank hblank
  refine ⟨Template.lookup_set store name value, ?_, ?_, ?_⟩
  · intro σ context world config padded hpadded hname
    refine ⟨?_, ?_⟩
    · have hrequire := Config.requireText_of_find? hname (hpadded.isBlank_eq hblank)
      dsimp only [getVariable]
      rw [hrequire]
      rfl
    · refine result_getVariable ?_ (store.get?_set name value)
      rw [Config.trimmed_of_find? hname, hpadded.trimmed_eq htrimmed hne]
  · intro σ context world config padded operator hpadded hvariable hcondition
    have hname : Config.trimmed config "variable" = .ok name := by
      rw [Config.trimmed_of_find? hvariable, hpadded.trimmed_eq htrimmed hne]
    have hoperator : Config.item config "condition" = .ok operator := by
      rw [Config.item, hcondition]
    obtain ⟨log, hrun⟩ := conditional_comesTo hname hoperator (Template.lookup_set store name value)
    rw [hrun]
  · intro padded hpadded hfree
    -- blanks are no closing braces either, so the block ends where it should
    refine Template.resolve_block ?_ ?_ ?_
    · exact Text.ne_empty_of_isBlank (hpadded.isBlank_eq hblank)
    · intro hmem
      exact hfree (hpadded.mem_of_mem (by decide) hmem)
    · rw [hpadded.trimmed_eq htrimmed hne]
      exact Template.lookup_set store name value

/-- **Reads see the last write, and only it.** A `set-variable` step whose configuration is accepted
binds the value under its name without the blanks around it. The variable then reads back as that
value, in every way of reading it; every other name that bypasses it is looked up as before. -/
theorem setVariable_reads_back {config : Fields}
    (h : (setVariable : Handler σ).validate config = .ok ()) (context : Context σ) (store : Store)
    (world : σ) :
    ∃ written value, config.find? "name" = some (.text written) ∧
      config.find? "value" = some value ∧
      let name := Text.trimmed written
      let outcome := (setVariable.execute config context).run store world
      outcome.result = .ok (.object [("name", .text name), ("value", value)]) ∧
        ReadsBack outcome.store name value ∧
        ∀ other, other ≠ name → Template.Bypasses store name other →
          Template.lookup outcome.store other = Template.lookup store other := by
  obtain ⟨written, hwritten, h⟩ := bind_eq_ok_iff.mp h
  obtain ⟨hbinds, -⟩ := of_refuseIf_eq_ok nofun h
  rw [Bool.not_eq_eq_eq_not, Bool.not_false] at hbinds
  obtain ⟨value, hvalue⟩ := Option.isSome_iff_exists.mp hbinds
  have hname := Config.find?_of_requireText hwritten
  have hblank : Text.isBlank (Text.trimmed written) = false :=
    Text.isBlank_trimmed (Config.isBlank_of_requireText hwritten)
  have hrun : (setVariable.execute config context).run store world =
      { result := .ok (.object [("name", .text (Text.trimmed written)), ("value", value)])
        store := store.set (Text.trimmed written) value
        world
        log := [.info s!"Set variable '{Text.trimmed written}'"] } := by
    dsimp only [setVariable]
    rw [Config.trimmed_of_find? hname, Config.item, hvalue]
    rfl
  refine ⟨written, value, hname, hvalue, ?_⟩
  dsimp only
  rw [hrun]
  refine ⟨rfl, readsBack_set (Text.isTrimmed_trimmed written) hblank store value, ?_⟩
  intro other hne hbypasses
  exact Template.lookup_set_ne hne hbypasses value

/-- What a step in a simulated world can reach. -/
def simulated : Context Simulation.World where
  platform := ({} : Simulation.Scenario).platform
  settings := {}
  step := default

/-- A name that is a path, written between blanks. -/
def dotted : Fields := [("name", .text " a.0\t"), ("value", .int 2)]

/-- A variable that the path `a.0` leads through. -/
def nested : Store := ⟨[("a", .list [.int 1])]⟩

/-- A variable whose name is a path hides what the path leads to, but no other path to the same
place. -/
theorem setVariable_reads_back_dotted :
    (setVariable : Handler Simulation.World).validate dotted = .ok () ∧
      let outcome := (setVariable.execute dotted simulated).run nested {}
      ReadsBack outcome.store "a.0" (.int 2) ∧
        Template.lookup outcome.store "a[0]" = .ok (.int 1) := by
  have hvalid : (setVariable : Handler Simulation.World).validate dotted = .ok () := by
    decide +kernel
  have htrimmed : Text.trimmed " a.0\t" = "a.0" := by decide +kernel
  obtain ⟨written, value, hwritten, hvalue, -, hreads, hother⟩ :=
    setVariable_reads_back hvalid simulated nested {}
  obtain rfl : " a.0\t" = written := Value.text.inj (Option.some.inj hwritten)
  obtain rfl : Value.int 2 = value := Option.some.inj hvalue
  rw [htrimmed] at hreads hother
  refine ⟨hvalid, hreads, ?_⟩
  have hparts : Path.parts "a[0]" = [['a'], ['0']] := by decide +kernel
  have hbypasses : Template.Bypasses nested "a.0" "a[0]" := .elsewhere (by rw [hparts]; decide)
  rw [hother "a[0]" (by decide) hbypasses, Template.lookup_of_unbound rfl, Path.get, hparts]
  rfl

end Steps

end Stepwise
