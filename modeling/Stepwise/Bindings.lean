/-! # Bindings in order

A `Bindings α` lists names with their values in the order in which the names were first bound. It
is the shape of a JSON object, of a variable store and of a registry. `put` overwrites a name in
its place and binds a new name at the end; the laws below say what each operation does to the list
of names (`names_put`, `names_erase`) and to a later look-up (`find?_put`, `find?_erase_ne`). -/

namespace Stepwise

universe u

/-- Names with their values, in the order of first binding. -/
abbrev Bindings (α : Type u) := List (String × α)

namespace Bindings

variable {α : Type u}

/-- The value bound to a name. -/
def find? (name : String) : Bindings α → Option α
  | [] => none
  | (key, value) :: rest => if key = name then some value else find? name rest

/-- The bound names, in order. -/
def names (bindings : Bindings α) : List String := bindings.map Prod.fst

/-- Whether a name is bound. -/
def binds (name : String) (bindings : Bindings α) : Bool := (find? name bindings).isSome

/-- Bind a name: in its place if it is bound already, else at the end. -/
def put (name : String) (value : α) : Bindings α → Bindings α
  | [] => [(name, value)]
  | (key, old) :: rest =>
    if key = name then (name, value) :: rest else (key, old) :: put name value rest

/-- Remove the binding of a name. -/
def erase (name : String) : Bindings α → Bindings α
  | [] => []
  | (key, value) :: rest => if key = name then rest else (key, value) :: erase name rest

/-- Bind the names of a list of pairs one after the other. -/
def putAll (bindings : Bindings α) (pairs : List (String × α)) : Bindings α :=
  pairs.foldl (fun acc pair => put pair.1 pair.2 acc) bindings

/-! ## Reading equations -/

@[simp] theorem find?_nil (name : String) : find? name ([] : Bindings α) = none := rfl

@[simp] theorem find?_cons_self (name : String) (value : α) (rest : Bindings α) :
    find? name ((name, value) :: rest) = some value := by
  simp [find?]

@[simp] theorem names_nil : names ([] : Bindings α) = [] := rfl

@[simp] theorem names_cons (pair : String × α) (rest : Bindings α) :
    names (pair :: rest) = pair.1 :: names rest := rfl

/-- A name is bound exactly when it is listed. -/
theorem binds_iff (name : String) (bindings : Bindings α) :
    binds name bindings = true ↔ name ∈ names bindings := by
  induction bindings with
  | nil => simp [binds]
  | cons pair rest ih =>
    obtain ⟨key, value⟩ := pair
    by_cases h : key = name
    · simp [binds, find?, h]
    · simp only [binds, find?, h, if_false, names_cons, List.mem_cons] at ih ⊢
      rw [ih]
      simp [Ne.symm h]

/-! ## Writing -/

/-- The value just bound is read back. -/
@[simp] theorem find?_put (name : String) (value : α) (bindings : Bindings α) :
    find? name (put name value bindings) = some value := by
  induction bindings with
  | nil => simp [put]
  | cons pair rest ih =>
    by_cases h : pair.1 = name
    · simp [put, h]
    · simp [put, find?, h, ih]

/-- Binding a name leaves every other name as it was. -/
theorem find?_put_ne {name other : String} (h : name ≠ other) (value : α)
    (bindings : Bindings α) : find? other (put name value bindings) = find? other bindings := by
  induction bindings with
  | nil => simp [put, find?, h]
  | cons pair rest ih =>
    by_cases hk : pair.1 = name
    · simp [put, find?, hk, h]
    · simp [put, find?, hk, ih]

/-- Binding a name that is bound keeps the list of names; a new name comes last. -/
theorem names_put (name : String) (value : α) (bindings : Bindings α) :
    names (put name value bindings) =
      if name ∈ names bindings then names bindings else names bindings ++ [name] := by
  induction bindings with
  | nil => simp [put, names]
  | cons pair rest ih =>
    by_cases hk : pair.1 = name
    · simp [put, hk]
    · have hne : name ≠ pair.1 := Ne.symm hk
      simp only [put, hk, if_false, names_cons, ih, List.mem_cons, hne, false_or]
      split <;> simp

/-- Removing a name takes its first mention from the list of names. -/
theorem names_erase (name : String) (bindings : Bindings α) :
    names (erase name bindings) = (names bindings).erase name := by
  induction bindings with
  | nil => rfl
  | cons pair rest ih =>
    by_cases hk : pair.1 = name
    · simp [erase, hk]
    · simp [erase, hk, ih]

/-- Removing a name leaves every other name as it was. -/
theorem find?_erase_ne {name other : String} (h : name ≠ other) (bindings : Bindings α) :
    find? other (erase name bindings) = find? other bindings := by
  induction bindings with
  | nil => rfl
  | cons pair rest ih =>
    by_cases hk : pair.1 = name
    · simp [erase, find?, hk, h]
    · simp [erase, find?, hk, ih]

/-- Distinct names stay distinct when a name is bound. -/
theorem nodup_names_put {bindings : Bindings α} (h : (names bindings).Nodup) (name : String)
    (value : α) : (names (put name value bindings)).Nodup := by
  rw [names_put]
  split
  · exact h
  · rename_i hmem
    rw [List.nodup_append]
    refine ⟨h, by simp, ?_⟩
    intro a ha b hb
    rw [List.mem_singleton] at hb
    subst hb
    exact fun heq => hmem (heq ▸ ha)

/-- Distinct names stay distinct when a name is removed. -/
theorem nodup_names_erase {bindings : Bindings α} (h : (names bindings).Nodup) (name : String) :
    (names (erase name bindings)).Nodup := by
  rw [names_erase]
  exact h.erase name

end Bindings

end Stepwise
