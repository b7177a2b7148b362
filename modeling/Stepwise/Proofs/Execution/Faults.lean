import Stepwise.Proofs.Validation.Refusals

/-! # What computations fail with

What a step computes from its configuration, the variables and the settings alone fails in two ways
only. It refuses the configuration, or it *breaks*, with a fault that steps do not report
(`Fault.IsBreak`). Such a fault is *inward* (`Fault.IsInward`): it blames neither a collaborator nor
the lack of one.

A computation `FailsOnly` with faults of some kind. That is kept by going on and by branching, so
it is carried through the readings of a configuration, the resolution of its references, the making
of a map address and the check of every built-in handler (`Registry.IsBuiltIn.failsOnly_inward`). -/

namespace Stepwise

variable {σ α β : Type} {kind other : Fault → Prop}

/-! ## Kinds of faults -/

/-- **A fault breaks a step** if it is none that steps report. -/
def Fault.IsBreak (fault : Fault) : Prop := fault.isStep = false

/-- **An inward fault** refuses a configuration or breaks the step. -/
def Fault.IsInward (fault : Fault) : Prop :=
  (∃ field detail, fault = .configuration field detail) ∨ fault.IsBreak

/-- **A computation fails only with** faults of some kind. -/
def FailsOnly (kind : Fault → Prop) (computed : Except Fault α) : Prop :=
  ∀ fault, computed = .error fault → kind fault

namespace FailsOnly

/-- What has a value does not fail. -/
theorem ok (value : α) : FailsOnly kind (.ok value) := by
  intro fault h
  cases h

/-- Failing with a fault of the kind. -/
theorem fail {fault : Fault} (h : kind fault) : FailsOnly kind (.error fault : Except Fault α) := by
  intro fault' heq
  obtain rfl : fault = fault' := Except.error.inj heq
  exact h

/-- Failing, whatever would have come after that. -/
theorem fail_bind {fault : Fault} (h : kind fault) {next : α → Except Fault β} :
    FailsOnly kind ((throw fault : Except Fault α) >>= next) :=
  fail h

/-- What fails only with faults of one kind fails only with those of a wider one. -/
theorem mono {computed : Except Fault α} (h : FailsOnly kind computed)
    (hwider : ∀ fault, kind fault → other fault) : FailsOnly other computed :=
  fun fault heq => hwider fault (h fault heq)

/-- Going on. -/
theorem bind {first : Except Fault α} {next : α → Except Fault β} (h : FailsOnly kind first)
    (hnext : ∀ value, FailsOnly kind (next value)) : FailsOnly kind (first >>= next) := by
  cases first with
  | error fault => exact fail (h fault rfl)
  | ok value => exact hnext value

/-- Branching. -/
theorem ite {c : Prop} [Decidable c] {yes no : Except Fault α} (hyes : FailsOnly kind yes)
    (hno : FailsOnly kind no) : FailsOnly kind (if c then yes else no) := by
  split
  · exact hyes
  · exact hno

/-- Wrapping the value up. -/
theorem map {computed : Except Fault α} (h : FailsOnly kind computed) (wrap : α → β) :
    FailsOnly kind (computed.map wrap) := by
  cases computed with
  | error fault => exact fail (h fault rfl)
  | ok value => exact ok (wrap value)

/-- Wrapping the fault up. -/
theorem mapError {ε : Type} (computed : Except ε α) {wrap : ε → Fault}
    (h : ∀ fault, kind (wrap fault)) : FailsOnly kind (computed.mapError wrap) := by
  cases computed with
  | error fault => exact fail (h fault)
  | ok value => exact ok value

/-- Computing something of every element of a list. -/
theorem mapM {f : α → Except Fault β} (h : ∀ item, FailsOnly kind (f item)) (items : List α) :
    FailsOnly kind (items.mapM f) := by
  induction items with
  | nil => exact ok []
  | cons item rest ih =>
    rw [List.mapM_cons]
    refine (h item).bind fun value => ?_
    exact ih.bind fun values => ok (value :: values)

/-- Going from one value to the next along a list. -/
theorem foldlM {f : β → α → Except Fault β} (h : ∀ value item, FailsOnly kind (f value item))
    (items : List α) (start : β) : FailsOnly kind (items.foldlM f start) := by
  induction items generalizing start with
  | nil => exact ok start
  | cons item rest ih =>
    rw [List.foldlM_cons]
    exact (h start item).bind fun value => ih value

/-- A computation that breaks fails inwardly. -/
theorem inward {computed : Except Fault α} (h : FailsOnly Fault.IsBreak computed) :
    FailsOnly Fault.IsInward computed :=
  h.mono fun _ => .inr

end FailsOnly

/-- A check that refuses by name fails inwardly. -/
theorem RefusesByName.inward {fields : List String} {check : Except Fault α}
    (h : RefusesByName fields check) : FailsOnly Fault.IsInward check := by
  intro fault heq
  obtain ⟨field, -, detail, rfl⟩ := h fault heq
  exact .inl ⟨field, detail, rfl⟩

/-! ## Reading a configuration -/

namespace Config

variable (config : Fields) (name : String)

theorem item_breaks : FailsOnly Fault.IsBreak (item config name) := by
  unfold item
  split
  · exact .ok _
  · exact .fail rfl

theorem trimmed_breaks : FailsOnly Fault.IsBreak (trimmed config name) := by
  refine (item_breaks config name).bind fun value => ?_
  cases value with
  | text s => exact .ok _
  | _ => exact .fail rfl

theorem number_inward : FailsOnly Fault.IsInward (number config name) := by
  have hrefuses : RefusesByName [name] (number config name) := number_refuses List.mem_cons_self
  exact hrefuses.inward

end Config

namespace Steps

variable (config : Fields)

theorem chooseAction_inward (table : List (String × String)) :
    FailsOnly Fault.IsInward (chooseAction table config) := by
  have hrefuses : RefusesByName ["action"] (chooseAction table config) :=
    chooseAction_refuses table List.mem_cons_self
  exact hrefuses.inward

theorem iterations_inward : FailsOnly Fault.IsInward (iterations config) := by
  have hrefuses : RefusesByName ["count"] (iterations config) :=
    iterations_refuses List.mem_cons_self
  exact hrefuses.inward

/-- A bound that is no number cannot be compared with, and breaks the step. -/
theorem exceeds_breaks (delay : Binary64) (bound : Value) :
    FailsOnly Fault.IsBreak (exceeds delay bound) := by
  unfold exceeds
  split
  · exact .ok _
  · exact .fail rfl

/-- The delay under any bound. -/
theorem delayMs_inward (bound : Value) : FailsOnly Fault.IsInward (delayMs config bound) := by
  unfold delayMs
  refine .ite (.fail_bind (.inl ⟨_, _, rfl⟩)) ?_
  refine (Config.number_inward config _).bind fun delay => ?_
  refine .ite (.fail_bind (.inl ⟨_, _, rfl⟩)) ?_
  refine .ite ?_ (.ok delay)
  refine (exceeds_breaks delay bound).inward.bind fun tooLong => ?_
  exact .ite (.fail_bind (.inl ⟨_, _, rfl⟩)) (.ok delay)

/-- Any operation on any two numbers. -/
theorem apply_inward (op : Operation) (x y : Binary64) :
    FailsOnly Fault.IsInward (op.apply x y) := by
  cases op with
  | add => exact .ok _
  | subtract => exact .ok _
  | multiply => exact .ok _
  | divide => exact .ite (.fail (.inr rfl)) (.ok _)
  | modulo => exact .ite (.fail (.inr rfl)) (.ok _)
  | power => exact .mapError _ fun fault => .inl ⟨_, _, rfl⟩

theorem headerTexts_breaks (value : Value) : FailsOnly Fault.IsBreak (headerTexts value) := by
  have hfields : FailsOnly Fault.IsBreak (value.fieldsFor "items") := by
    cases value with
    | object fields => exact .ok fields
    | _ => exact .fail rfl
  exact .ite (.ok []) (hfields.bind fun fields => .ok _)

theorem lengthOf_breaks (value : Value) : FailsOnly Fault.IsBreak (lengthOf value) := by
  unfold lengthOf
  split
  · exact .ok _
  · exact .fail rfl

end Steps

/-! ## References and conditions -/

namespace Path

theorem readIndex_breaks (part : List Char) : FailsOnly Fault.IsBreak (readIndex part) :=
  .ite (.fail rfl) (.ite (.fail rfl) (.ok _))

theorem select_breaks (part : List Char) (value : Value) :
    FailsOnly Fault.IsBreak (select part value) := by
  cases value with
  | list items => exact .ite ((readIndex_breaks part).map _) (.ok _)
  | _ => exact .ok _

theorem follow_breaks (parts : List (List Char)) (value : Value) :
    FailsOnly Fault.IsBreak (follow parts value) := by
  induction parts generalizing value with
  | nil => exact .ok value
  | cons part rest ih => exact (select_breaks part value).bind ih

end Path

namespace Template

variable (store : Store)

/-- **Looking a name up**: nothing but an index that cannot be read is a fault. -/
theorem lookup_breaks (name : String) : FailsOnly Fault.IsBreak (lookup store name) := by
  unfold lookup
  split
  · exact .ok _
  · exact .ite (Path.follow_breaks _ _) (.ok _)

theorem resolvePieces_breaks (pieces : List Piece) :
    FailsOnly Fault.IsBreak (resolvePieces store pieces) := by
  induction pieces with
  | nil => exact .ok []
  | cons piece rest ih =>
    have hpiece : FailsOnly Fault.IsBreak (resolvePiece store piece) := by
      cases piece with
      | literal c => exact .ok [c]
      | block inside => exact (lookup_breaks store _).bind fun value => .ok _
    exact hpiece.bind fun here => ih.bind fun behind => .ok _

theorem resolve_breaks (s : String) : FailsOnly Fault.IsBreak (resolve store s) :=
  (resolvePieces_breaks store _).bind fun _ => .ok _

mutual

/-- Resolving a value. -/
theorem resolveValue_breaks (value : Value) :
    FailsOnly Fault.IsBreak (resolveValue store value) := by
  cases value with
  | text s =>
    rw [resolveValue]
    exact (resolve_breaks store s).bind fun text => .ok _
  | list items =>
    rw [resolveValue]
    exact (resolveItems_breaks items).bind fun list => .ok _
  | object fields =>
    rw [resolveValue]
    exact (resolveFields_breaks fields).bind fun object => .ok _
  | null => exact .ok _
  | bool b => exact .ok _
  | int n => exact .ok _
  | float x => exact .ok _

/-- Resolving a list. -/
theorem resolveItems_breaks (items : List Value) :
    FailsOnly Fault.IsBreak (resolveItems store items) := by
  cases items with
  | nil => exact .ok []
  | cons item rest =>
    rw [resolveItems]
    refine (resolveValue_breaks item).bind fun head => ?_
    exact (resolveItems_breaks rest).bind fun tail => .ok _

/-- **Resolving a configuration** breaks the step or has a value. -/
theorem resolveFields_breaks (fields : List (String × Value)) :
    FailsOnly Fault.IsBreak (resolveFields store fields) := by
  cases fields with
  | nil => exact .ok []
  | cons field rest =>
    obtain ⟨name, item⟩ := field
    rw [resolveFields]
    refine (resolveValue_breaks item).bind fun head => ?_
    exact (resolveFields_breaks rest).bind fun tail => .ok _

end

end Template

namespace Condition

theorem compareNumbers_breaks (test : Binary64 → Binary64 → Bool) (actual expected : Value) :
    FailsOnly Fault.IsBreak (compareNumbers test actual expected) := by
  unfold compareNumbers
  split
  · exact .ok _
  · exact .fail rfl
  · exact .ok _
  · exact .fail rfl
  · exact .ok _

/-- **Comparing two values**: only an integer beyond the binary64 numbers, or an operator that is no
name, is a fault. -/
theorem compare_breaks (actual operator expected : Value) :
    FailsOnly Fault.IsBreak (compare actual operator expected) := by
  have hholds : ∀ op : Operator, FailsOnly Fault.IsBreak (op.holds actual expected) := by
    intro op
    refine .ite (.ok _) ?_
    cases op with
    | less => exact compareNumbers_breaks _ _ _
    | greater => exact compareNumbers_breaks _ _ _
    | lessOrEqual => exact compareNumbers_breaks _ _ _
    | greaterOrEqual => exact compareNumbers_breaks _ _ _
    | _ => exact .ok _
  unfold compare
  split
  · split
    · exact hholds _
    · exact .ok _
  · exact .fail rfl
  · exact .fail rfl
  · exact .ok _

end Condition

/-! ## The map address -/

namespace Pattern

/-- The fault of a pattern breaks the step. -/
theorem isBreak_pattern (fault : PatternFault) : (Fault.pattern fault).IsBreak := rfl

theorem follow_breaks (value : Value) (member : Member) :
    FailsOnly Fault.IsBreak (member.follow value) := by
  cases member with
  | property name =>
    rw [Member.follow]
    split
    · exact .ok _
    · exact .fail rfl
  | key name =>
    cases value with
    | object fields =>
      rw [Member.follow]
      split
      · exact .ok _
      · exact .fail rfl
    | _ => exact .fail (isBreak_pattern _)
  | index n =>
    cases value with
    | list items =>
      rw [Member.follow]
      split
      · exact .ok _
      · exact .fail (isBreak_pattern _)
    | text s =>
      rw [Member.follow]
      split
      · exact .ok _
      · exact .fail (isBreak_pattern _)
    | _ => exact .fail (isBreak_pattern _)
  | broken fault => exact .fail (isBreak_pattern fault)

theorem lookUp_breaks (values : Fields) (name : List Char) :
    FailsOnly Fault.IsBreak (lookUp values name) := by
  unfold lookUp
  dsimp only
  refine FailsOnly.bind (.mapError _ isBreak_pattern) fun taken => ?_
  split
  · exact .fail (isBreak_pattern _)
  · refine .ite (.fail_bind (isBreak_pattern _)) ?_
    split
    · exact .fail rfl
    · exact .foldlM follow_breaks _ _

theorem convert_breaks (value : Value) (letter : Option Char) :
    FailsOnly Fault.IsBreak (convert value letter) := by
  unfold convert
  split
  · exact .ok _
  · exact .ok _
  · exact .ok _
  · exact .ok _
  · exact .fail rfl

theorem presentInt_breaks (layout : Layout) (typeName : String) (n : Int) :
    FailsOnly Fault.IsBreak (layout.presentInt typeName n) := by
  unfold Layout.presentInt
  split
  · exact .ok _
  · refine .ite ?_ (.ite ?_ (.fail rfl))
    · refine .ite (.fail rfl) (.ite (.fail rfl) (.ite ?_ (.ok _)))
      exact .mapError _ isBreak_pattern
    · split
      · exact .fail rfl
      · exact .mapError _ isBreak_pattern

theorem present_breaks (layout : List Char) (value : Value) :
    FailsOnly Fault.IsBreak (value.present layout) := by
  refine .ite (.ok _) ?_
  have hread : ∀ standard code, FailsOnly Fault.IsBreak
      ((Layout.ofText value.typeName standard code layout).mapError Fault.pattern) :=
    fun standard code => .mapError _ isBreak_pattern
  cases value with
  | float x =>
    refine (hread _ _).bind fun layout => ?_
    split
    · exact .ite (.mapError _ isBreak_pattern) (.fail (isBreak_pattern _))
    · exact .mapError _ isBreak_pattern
  | int n => exact (hread _ _).bind fun layout => presentInt_breaks layout _ n
  | bool b => exact (hread _ _).bind fun layout => presentInt_breaks layout _ b.toInt
  | text s => exact (hread _ _).bind fun layout => .mapError _ isBreak_pattern
  | _ => exact .fail rfl

/-- **Filling a pattern**, by induction on how deep layouts may be nested. -/
theorem fillWithin_breaks (values : Fields) (depth : Nat) (cs : List Char) :
    FailsOnly Fault.IsBreak (fillWithin values depth cs) := by
  induction depth generalizing cs with
  | zero => exact .fail rfl
  | succ depth ih =>
    unfold fillWithin
    refine FailsOnly.bind (.mapM (fun piece => ?_) _) fun texts => .ok _
    cases piece with
    | literal c => exact .ok [c]
    | broken fault => exact .fail rfl
    | placeholder placeholder =>
      refine (lookUp_breaks values _).bind fun found => ?_
      refine (convert_breaks found _).bind fun value => ?_
      refine .ite ?_ (present_breaks _ value)
      exact (ih _).bind fun layout => present_breaks layout value

end Pattern

/-- **Making a map address** breaks the step or has a value, under any settings. -/
theorem Steps.mapsAddress_breaks (settings : Settings) (latitude longitude : Value) :
    FailsOnly Fault.IsBreak (mapsAddress settings latitude longitude) := by
  unfold mapsAddress
  split
  · exact (Pattern.fillWithin_breaks _ _ _).map _
  · exact .fail rfl

/-! ## Checks -/

/-- **The check of a built-in handler** refuses the configuration or breaks the step. -/
theorem Registry.IsBuiltIn.failsOnly_inward {registry : Registry σ} (h : registry.IsBuiltIn)
    {stepType : String} {handler : Handler σ} (hget : registry.get? stepType = some handler)
    (config : Fields) : FailsOnly Fault.IsInward (handler.validate config) := by
  intro fault hfault
  rcases h.refusesPlainly hget config fault hfault with hrefusal | ⟨edition, -, url, -, hweb⟩
  · exact .inl hrefusal
  · cases Steps.isWeb_fault hweb with
    | _ => exact .inr rfl

end Stepwise
