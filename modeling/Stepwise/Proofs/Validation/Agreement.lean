import Stepwise.Registry
import Stepwise.Proofs.Text.Trimming
import Mathlib.Data.List.Forall2

/-! # Checks that agree

Two checks agree if both refuse, with faults of the same kind about the same field, or if both
accept and what they read is related (`Agrees`). Agreement is kept by going on (`Agrees.bind`) and
by branching (`Agrees.ite`), so it is carried through a handler stage by stage.

Two values look alike to a check (`Value.Alike`) if they are the same, or are both lists or both
objects, and empty or not alike. Every check of a configuration agrees on fields that look alike:
none of them looks inside a list or an object, except at the bracket it is written with
(`isBracketed`). -/

namespace Stepwise

variable {σ α β γ δ : Type}

/-! ## Agreement -/

/-- The field that a configuration fault is about. -/
def Fault.field? : Fault → Option String
  | configuration field _ => some field
  | _ => none

/-- **Two checks agree**: they refuse in the same way, or read what is related. -/
inductive Agrees (R : α → β → Prop) : Except Fault α → Except Fault β → Prop
  /-- Both accept. -/
  | ok {a : α} {b : β} (related : R a b) : Agrees R (.ok a) (.ok b)
  /-- Both refuse. -/
  | error {fault fault' : Fault} (label : fault.label = fault'.label)
      (field : fault.field? = fault'.field?) : Agrees R (.error fault) (.error fault')

namespace Agrees

variable {R : α → β → Prop} {S : γ → δ → Prop}

/-- A check agrees with itself. -/
theorem refl {R : α → α → Prop} (hR : ∀ a, R a a) (check : Except Fault α) :
    Agrees R check check := by
  cases check with
  | error fault => exact .error rfl rfl
  | ok a => exact .ok (hR a)

/-- Going on after checks that agree. -/
theorem bind {check : Except Fault α} {check' : Except Fault β} {next : α → Except Fault γ}
    {next' : β → Except Fault δ} (h : Agrees R check check')
    (hnext : ∀ a b, R a b → Agrees S (next a) (next' b)) :
    Agrees S (check >>= next) (check' >>= next') := by
  cases h with
  | ok hrelated => exact hnext _ _ hrelated
  | error hlabel hfield => exact .error hlabel hfield

/-- Going on after checks that read the same. -/
theorem bind_eq {check check' : Except Fault α} {next : α → Except Fault γ}
    {next' : α → Except Fault δ} (h : Agrees Eq check check')
    (hnext : ∀ a, Agrees S (next a) (next' a)) : Agrees S (check >>= next) (check' >>= next') := by
  refine h.bind ?_
  rintro a _ rfl
  exact hnext a

/-- Branching on the same condition. -/
theorem ite {c c' : Bool} (hc : c = c') {yes no : Except Fault α} {yes' no' : Except Fault β}
    (hyes : Agrees R yes yes') (hno : Agrees R no no') :
    Agrees R (if c = true then yes else no) (if c' = true then yes' else no') := by
  subst hc
  split
  · exact hyes
  · exact hno

/-- Two refusals of the same field agree, whatever they say. -/
theorem refuse (field detail detail' : String) :
    Agrees R (throw (.configuration field detail)) (throw (.configuration field detail')) :=
  .error rfl rfl

/-- Two refusals of the same field agree, whatever would have come after them. -/
theorem refuse_bind (field detail detail' : String) {next : α → Except Fault γ}
    {next' : β → Except Fault δ} :
    Agrees S (throw (.configuration field detail) >>= next)
      (throw (.configuration field detail') >>= next') :=
  .error rfl rfl

end Agrees

/-! ## Values that look alike -/

/-- **Two values look alike** to every check. -/
inductive Value.Alike : Value → Value → Prop
  /-- The same value. -/
  | refl (value : Value) : Alike value value
  /-- Two lists. -/
  | list {items items' : List Value} (h : items.isEmpty = items'.isEmpty) :
      Alike (.list items) (.list items')
  /-- Two objects. -/
  | object {fields fields' : List (String × Value)} (h : fields.isEmpty = fields'.isEmpty) :
      Alike (.object fields) (.object fields')

/-- Whether a text starts with the bracket of a list or an object. -/
def isBracketed : List Char → Bool
  | '[' :: _ | '{' :: _ => true
  | _ => false

/-- A text starts with a bracket if it is one with something behind it. -/
theorem isBracketed_iff {cs : List Char} :
    isBracketed cs = true ↔ ∃ rest, cs = '[' :: rest ∨ cs = '{' :: rest := by
  constructor
  · intro h
    unfold isBracketed at h
    split at h
    next rest => exact ⟨rest, .inl rfl⟩
    next rest => exact ⟨rest, .inr rfl⟩
    next => cases h
  · rintro ⟨rest, rfl | rfl⟩
    · rfl
    · rfl

/-- Trimming keeps a bracket. -/
theorem isBracketed_trim {cs : List Char} (h : isBracketed cs = true) :
    isBracketed (Text.trim cs) = true := by
  obtain ⟨rest, rfl | rfl⟩ := isBracketed_iff.mp h
  · obtain ⟨after, htrim⟩ := Text.trim_cons (c := '[') (by decide) rest
    exact isBracketed_iff.mpr ⟨after, .inl htrim⟩
  · obtain ⟨after, htrim⟩ := Text.trim_cons (c := '{') (by decide) rest
    exact isBracketed_iff.mpr ⟨after, .inr htrim⟩

/-- Lower case keeps a bracket. -/
theorem isBracketed_lower {cs : List Char} (h : isBracketed cs = true) :
    isBracketed (Unicode.lower cs) = true := by
  obtain ⟨rest, rfl | rfl⟩ := isBracketed_iff.mp h
  · have hlower : Unicode.lowerChar '[' = ['['] := by decide +kernel
    rw [Unicode.lower, Unicode.lowerAfter, if_neg (by decide), hlower]
    rfl
  · have hlower : Unicode.lowerChar '{' = ['{'] := by decide +kernel
    rw [Unicode.lower, Unicode.lowerAfter, if_neg (by decide), hlower]
    rfl

/-- Upper case keeps a bracket. -/
theorem isBracketed_upper {cs : List Char} (h : isBracketed cs = true) :
    isBracketed (Unicode.upper cs) = true := by
  obtain ⟨rest, rfl | rfl⟩ := isBracketed_iff.mp h
  · have hupper : Unicode.upperChar '[' = ['['] := by decide +kernel
    rw [Unicode.upper, List.flatMap_cons, hupper]
    rfl
  · have hupper : Unicode.upperChar '{' = ['{'] := by decide +kernel
    rw [Unicode.upper, List.flatMap_cons, hupper]
    rfl

namespace Value.Alike

variable {value value' : Value}

/-- Values that look alike count as true alike. -/
theorem isTrue_eq (h : Alike value value') : value.isTrue = value'.isTrue := by
  cases h with
  | refl => rfl
  | list hempty => exact congrArg Bool.not hempty
  | object hempty => exact congrArg Bool.not hempty

/-- Values that look alike are null alike. -/
theorem isNull_eq (h : Alike value value') : value.isNull = value'.isNull := by
  cases h <;> rfl

/-- Values that look alike are unset alike. -/
theorem isUnset_eq (h : Alike value value') : value.isUnset = value'.isUnset := by
  cases h <;> rfl

/-- Values that look alike are blank alike. -/
theorem isBlank_eq (h : Alike value value') : Config.isBlank value = Config.isBlank value' := by
  cases h <;> rfl

/-- Values that look alike can be headers alike. -/
theorem isHeaders_eq (h : Alike value value') :
    Steps.isHeaders value = Steps.isHeaders value' := by
  cases h <;> rfl

/-- Values that look alike name a counted loop alike. -/
theorem isCounted_eq (h : Alike value value') :
    Steps.isCounted value = Steps.isCounted value' := by
  cases h <;> rfl

/-- **Values that look alike are the same, or both are written in brackets.** -/
theorem eq_or_isBracketed (h : Alike value value') :
    value = value' ∨
      isBracketed value.toText.toList = true ∧ isBracketed value'.toText.toList = true := by
  cases h with
  | refl => exact .inl rfl
  | list =>
    refine .inr ⟨?_, ?_⟩
    · simp [toText, literal, isBracketed]
    · simp [toText, literal, isBracketed]
  | object =>
    refine .inr ⟨?_, ?_⟩
    · simp [toText, literal, isBracketed]
    · simp [toText, literal, isBracketed]

end Value.Alike

/-! ## Checks of one field -/

namespace Value.Alike

variable {config config' : Fields} {name : String}

/-- A field that must be there. -/
theorem require (h : (field name config).Alike (field name config')) (detail : Option String) :
    Agrees Alike (Config.require config name detail) (Config.require config' name detail) := by
  unfold Config.require
  simp only [h.isBlank_eq]
  split
  · exact .error rfl rfl
  · exact .ok h

/-- A field that must be a text: it is the same text. -/
theorem requireText (h : (field name config).Alike (field name config')) :
    Agrees Eq (Config.requireText config name) (Config.requireText config' name) := by
  refine (h.require none).bind ?_
  intro value value' halike
  cases halike with
  | refl => exact .refl (fun _ => rfl) _
  | list => exact .refuse ..
  | object => exact .refuse ..

/-- A field that is a number if it is set: it is the same number. -/
theorem number? (h : (field name config).Alike (field name config')) :
    Agrees Eq (Config.number? config name) (Config.number? config' name) := by
  unfold Config.number?
  generalize field name config = value at h ⊢
  generalize field name config' = value' at h ⊢
  cases h with
  | refl => exact .refl (fun _ => rfl) _
  | list => exact .error rfl rfl
  | object => exact .error rfl rfl

/-- A field that must be a number: it is the same number. -/
theorem number (h : (field name config).Alike (field name config')) :
    Agrees Eq (Config.number config name) (Config.number config' name) := by
  refine h.number?.bind_eq ?_
  intro x
  exact .refl (fun _ => rfl) _

end Value.Alike

/-! ## Fields that look alike -/

/-- **Two configurations look alike**: the same names in the same order, and values that look alike
behind them. -/
abbrev LookAlike (config config' : Fields) : Prop :=
  List.Forall₂ (fun field field' => field.1 = field'.1 ∧ field.2.Alike field'.2) config config'

namespace LookAlike

variable {config config' : Fields}

/-- A name is bound in both or in neither, and then to values that look alike. -/
theorem find? (h : LookAlike config config') (name : String) :
    Option.Rel Value.Alike (Bindings.find? name config) (Bindings.find? name config') := by
  induction h with
  | nil => exact .none
  | @cons field field' rest rest' hfield _ ih =>
    obtain ⟨key, value⟩ := field
    obtain ⟨key', value'⟩ := field'
    obtain ⟨rfl, halike⟩ : key = key' ∧ value.Alike value' := hfield
    rw [Bindings.find?, Bindings.find?]
    split
    · exact .some halike
    · exact ih

/-- The same names are bound. -/
theorem binds_eq (h : LookAlike config config') (name : String) :
    Bindings.binds name config = Bindings.binds name config' := by
  have hfind := h.find? name
  unfold Bindings.binds
  generalize Bindings.find? name config = found at hfind ⊢
  generalize Bindings.find? name config' = found' at hfind ⊢
  cases hfind with
  | some => rfl
  | none => rfl

/-- Fields of the same name look alike, also where there is none. -/
theorem field (h : LookAlike config config') (name : String) :
    (Value.field name config).Alike (Value.field name config') := by
  have hfind := h.find? name
  unfold Value.field
  generalize Bindings.find? name config = found at hfind ⊢
  generalize Bindings.find? name config' = found' at hfind ⊢
  cases hfind with
  | some halike => exact halike
  | none => exact .refl _

/-- The first fields that are set look alike. -/
theorem firstSet (h : LookAlike config config') (names : List String) :
    (Config.firstSet config names).Alike (Config.firstSet config' names) := by
  unfold Config.firstSet
  induction names with
  | nil => exact .refl _
  | cons name rest ih =>
    have hset := (h.field name).isUnset_eq
    rw [List.map_cons, List.map_cons, List.find?_cons, List.find?_cons, hset]
    split
    · exact h.field name
    · exact ih

/-- A field that must be there. -/
theorem require (h : LookAlike config config') (name : String) (detail : Option String) :
    Agrees Value.Alike (Config.require config name detail)
      (Config.require config' name detail) :=
  (h.field name).require detail

/-- A field that must be a text: it is the same text. -/
theorem requireText (h : LookAlike config config') (name : String) :
    Agrees Eq (Config.requireText config name) (Config.requireText config' name) :=
  (h.field name).requireText

/-- A field that must be a number: it is the same number. -/
theorem number (h : LookAlike config config') (name : String) :
    Agrees Eq (Config.number config name) (Config.number config' name) :=
  (h.field name).number

end LookAlike

end Stepwise
