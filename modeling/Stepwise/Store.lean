import Stepwise.Value.Entries

/-! # The variable store

The variables of one run: names bound to values, in the order of first binding. Reading, writing and
removing are the operations of `Bindings`; the operations here add what the store promises beyond
them. An operation that fails (`item`, `delete`, `pop`, `popFirst`) returns a fault instead of a new
store, so a failed operation cannot change anything. -/

namespace Stepwise

/-- The variables of a run. -/
structure Store where
  /-- The variables with their values, in the order of first binding. -/
  bindings : Fields := []
  deriving Repr, Inhabited

namespace Store

/-- A store with the initial variables that a value gives. -/
def ofValue (initial : Value) : Except Fault Store := initial.toFields.map Store.mk

/-- The value of a variable. -/
def get? (store : Store) (name : String) : Option Value := store.bindings.find? name

/-- Whether a variable is bound. -/
def contains (store : Store) (name : String) : Bool := store.bindings.binds name

/-- The names of the variables, in order. -/
def names (store : Store) : List String := store.bindings.names

/-- The values of the variables, in order. -/
def values (store : Store) : List Value := store.bindings.map Prod.snd

/-- The number of variables. -/
def size (store : Store) : Nat := store.bindings.length

/-- The bindings as a value that no later change of the store touches. -/
def snapshot (store : Store) : Value := .object store.bindings

/-- Bind a variable: in its place if it is bound already, else at the end. -/
def set (store : Store) (name : String) (value : Value) : Store :=
  ⟨store.bindings.put name value⟩

/-- The value of a variable that must be bound. -/
def item (store : Store) (name : String) : Except Fault Value :=
  match store.get? name with
  | some value => .ok value
  | none => .error (.missingKey name)

/-- The store without a variable that must be bound. -/
def delete (store : Store) (name : String) : Except Fault Store :=
  if store.contains name then .ok ⟨store.bindings.erase name⟩ else .error (.missingKey name)

/-- Take a variable out: its value and the store without it. A variable that is not bound gives the
default, if there is one. -/
def pop (store : Store) (name : String) (default : Option Value) : Except Fault (Value × Store) :=
  match store.get? name, default with
  | some value, _ => .ok (value, ⟨store.bindings.erase name⟩)
  | none, some value => .ok (value, store)
  | none, none => .error (.missingKey name)

/-- Take the first variable out: its name and value, and the store without it. -/
def popFirst (store : Store) : Except Fault ((String × Value) × Store) :=
  match store.bindings with
  | [] => .error (.missingKey none)
  | first :: rest => .ok (first, ⟨rest⟩)

/-- The store without any variable. -/
def clear (_ : Store) : Store := {}

/-- The value of a variable; one that is not bound is bound to the default first. -/
def setDefault (store : Store) (name : String) (default : Value) : Value × Store :=
  match store.get? name with
  | some value => (value, store)
  | none => (default, store.set name default)

/-- Bind the fields of an object or a list of pairs; what is bound before a pair that is refused
stays bound. -/
def update (store : Store) (values : Value) : Store × Except Fault Unit :=
  let (bindings, outcome) := values.assign store.bindings
  (⟨bindings⟩, outcome)

/-- Whether the store holds the same variables as an object, in any order. -/
def equals (store : Store) : Value → Bool
  | .object fields => store.snapshot.equals (.object fields)
  | _ => false

/-- The store as it appears in messages. -/
def literal (store : Store) : String := s!"VariableStore({store.snapshot.literal})"

/-! ## Laws -/

/-- A variable reads as what it was last set to. -/
@[simp] theorem get?_set (store : Store) (name : String) (value : Value) :
    (store.set name value).get? name = some value := by
  simp [get?, set]

/-- Setting a variable leaves every other one as it was. -/
theorem get?_set_ne (store : Store) {name other : String} (h : name ≠ other) (value : Value) :
    (store.set name value).get? other = store.get? other := by
  simp [get?, set, Bindings.find?_put_ne h]

end Store

end Stepwise
