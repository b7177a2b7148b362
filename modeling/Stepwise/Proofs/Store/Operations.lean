import Stepwise.Proofs.Bindings.History
import Stepwise.Store

/-! # The store under any sequence of operations

A store is an insertion-ordered map: whatever is done to it, its names are distinct and stand in the
order in which they came to be bound, and each reads as it was last written (`Store.Tells`).

What an operation answers and changes is laid down by the history of the store alone
(`Store.Operation.Answers`), with no mention of how the store is held. The step is
`Store.perform_answers`: the operations answer as laid down, and the store recounts the longer
history. `Store.run_tells` says so of whole sequences. -/

namespace Stepwise.Store

open History

/-! ## Operations -/

/-- An operation on a store. -/
inductive Operation where
  /-- Bind a variable. -/
  | set (name : String) (value : Value)
  /-- Remove a variable that must be bound. -/
  | delete (name : String)
  /-- Take a variable out; one that is not bound gives the default, if there is one. -/
  | pop (name : String) (default : Option Value)
  /-- Take the first variable out. -/
  | popFirst
  /-- Remove all variables. -/
  | clear
  /-- Read a variable, and bind one that is not bound to the default first. -/
  | setDefault (name : String) (default : Value)
  /-- Bind the fields of an object. -/
  | update (fields : Fields)
  /-- Read a variable that must be bound. -/
  | item (name : String)
  /-- Read a variable; one that is not bound reads as the default. -/
  | get (name : String) (default : Value)
  /-- Ask whether a variable is bound. -/
  | contains (name : String)
  /-- Copy the bindings. -/
  | snapshot

/-- What an operation comes to that gives a value and another store, or fails and leaves the
store. -/
def settle (store : Store) : Except Fault (Value × Store) → Except Fault Value × Store
  | .ok (value, changed) => (.ok value, changed)
  | .error fault => (.error fault, store)

/-- Perform an operation: its answer, which is null where there is nothing to say, and the store
afterwards. -/
def perform (store : Store) : Operation → Except Fault Value × Store
  | .set name value => (.ok .null, store.set name value)
  | .delete name => store.settle ((store.delete name).map fun left => (.null, left))
  | .pop name default => store.settle (store.pop name default)
  | .popFirst =>
    store.settle (store.popFirst.map fun (first, left) => (.list [.text first.1, first.2], left))
  | .clear => (.ok .null, store.clear)
  | .setDefault name default =>
    let (value, changed) := store.setDefault name default
    (.ok value, changed)
  | .update fields =>
    let (changed, outcome) := store.update (.object fields)
    (outcome.map fun _ => .null, changed)
  | .item name => (store.item name, store)
  | .get name default => (.ok ((store.get? name).getD default), store)
  | .contains name => (.ok (.bool (store.contains name)), store)
  | .snapshot => (.ok store.snapshot, store)

/-- Perform operations one after the other: their answers, and the store at the end. -/
def run (store : Store) : List Operation → List (Except Fault Value) × Store
  | [] => ([], store)
  | operation :: rest =>
    let performed := store.perform operation
    let later := performed.2.run rest
    (performed.1 :: later.1, later.2)

/-! ## What a history lays down -/

namespace Operation

/-- The name that an operation fails without. -/
def needs? : Operation → Option String
  | delete name | item name | pop name none => some name
  | _ => none

/-- **What an operation answers and changes** after a history. -/
inductive Answers (history : History Value) : Operation → Except Fault Value → History Value → Prop
  /-- A variable is bound, whether it was before or not. -/
  | set (name : String) (value : Value) :
      Answers history (set name value) (.ok .null) [.bound name value]
  /-- A variable is removed. -/
  | delete {name : String} {value : Value} (hbound : history.value? name = some value) :
      Answers history (delete name) (.ok .null) [.removed name]
  /-- A variable is taken out, with its value. -/
  | pop {name : String} {value : Value} (default : Option Value)
      (hbound : history.value? name = some value) :
      Answers history (pop name default) (.ok value) [.removed name]
  /-- There is nothing to take out, but a default. -/
  | popDefault {name : String} (default : Value) (habsent : history.value? name = none) :
      Answers history (pop name (some default)) (.ok default) []
  /-- The variable is taken out that came to be bound before all others. -/
  | popFirst {name : String} {value : Value} (hbound : history.value? name = some value)
      (hfirst : ∀ other, (history.value? other).isSome = true → other ≠ name →
        history.Precedes name other) :
      Answers history popFirst (.ok (.list [.text name, value])) [.removed name]
  /-- All variables are removed. -/
  | clear : Answers history clear (.ok .null) [.cleared]
  /-- A variable that is bound is read. -/
  | setDefault {name : String} {value : Value} (default : Value)
      (hbound : history.value? name = some value) :
      Answers history (setDefault name default) (.ok value) []
  /-- A variable that is not bound is bound to the default. -/
  | setDefaultNew {name : String} (default : Value) (habsent : history.value? name = none) :
      Answers history (setDefault name default) (.ok default) [.bound name default]
  /-- The fields are bound one after the other. -/
  | update (fields : Fields) : Answers history (update fields) (.ok .null) (ofBindings fields)
  /-- A variable that is bound is read. -/
  | item {name : String} {value : Value} (hbound : history.value? name = some value) :
      Answers history (item name) (.ok value) []
  /-- A variable is read, or the default. -/
  | get (name : String) (default : Value) :
      Answers history (get name default) (.ok ((history.value? name).getD default)) []
  /-- Whether a variable is bound. -/
  | contains (name : String) :
      Answers history (contains name) (.ok (.bool (history.value? name).isSome)) []
  /-- The bindings that recount the history; there is one way to do so. -/
  | snapshot {fields : Fields} (hrecounts : Bindings.Recounts fields history) :
      Answers history snapshot (.ok (.object fields)) []
  /-- A variable that is needed is not bound: nothing changes. -/
  | missing {operation : Operation} {name : String} (hneeds : operation.needs? = some name)
      (habsent : history.value? name = none) :
      Answers history operation (.error (.missingKey name)) []
  /-- There is no first variable: nothing changes. -/
  | empty (habsent : ∀ name, history.value? name = none) :
      Answers history popFirst (.error (.missingKey none)) []

end Operation

/-- **What a sequence of operations answers**, and the history that it leads to. -/
inductive Leads :
    History Value → List Operation → List (Except Fault Value) → History Value → Prop
  /-- Nothing is done. -/
  | nil (history : History Value) : Leads history [] [] history
  /-- First one operation, then the others. -/
  | cons {history changes later : History Value} {operation : Operation} {rest : List Operation}
      {answer : Except Fault Value} {answers : List (Except Fault Value)}
      (hfirst : operation.Answers history answer changes)
      (hrest : Leads (changes ++ history) rest answers later) :
      Leads history (operation :: rest) (answer :: answers) later

/-- **A store tells a history**: it is the insertion-ordered map of what the history says. -/
structure Tells (store : Store) (history : History Value) : Prop where
  /-- The names are distinct. -/
  distinct : store.names.Nodup
  /-- The size is their number. -/
  size_eq : store.size = store.names.length
  /-- They are the names that are bound after the history. -/
  mem_names_iff : ∀ name, name ∈ store.names ↔ (history.value? name).isSome = true
  /-- They stand in the order in which they came to be bound. -/
  ordered : store.names.Pairwise history.Precedes
  /-- Each reads as it was last written. -/
  get?_eq : ∀ name, store.get? name = history.value? name
  /-- Nothing else tells the history. -/
  unique : ∀ bindings : Fields, bindings.Recounts history → bindings = store.bindings

/-! ## One operation -/

variable {store : Store} {history : History Value} {name : String}

/-- A store that recounts a history tells it. -/
theorem tells_of_recounts (h : store.bindings.Recounts history) : store.Tells history where
  distinct := h.nodup
  size_eq := (List.length_map Prod.fst).symm
  mem_names_iff := fun name => by
    rw [Option.isSome_iff_exists]
    exact h.mem_names_iff
  ordered := h.ordered
  get?_eq := h.find?
  unique := fun _ h' => h'.unique h

/-- A variable that is bound is taken out. -/
theorem pop_of_some {value : Value} (h : store.get? name = some value) (default : Option Value) :
    store.pop name default = .ok (value, ⟨store.bindings.erase name⟩) := by
  unfold pop
  rw [h]

/-- A variable that is not bound gives the default, if there is one. -/
theorem pop_of_none (h : store.get? name = none) (default : Option Value) :
    store.pop name default =
      match default with
      | some value => .ok (value, store)
      | none => .error (.missingKey name) := by
  unfold pop
  rw [h]
  cases default <;> rfl

/-- An operation that needs a variable fails without it, and leaves the store. -/
theorem perform_of_missing {operation : Operation} (hneeds : operation.needs? = some name)
    (habsent : store.get? name = none) :
    store.perform operation = (.error (.missingKey name), store) := by
  have hunbound : store.contains name = false := by
    show (store.get? name).isSome = false
    rw [habsent, Option.isSome_none]
  cases operation with
  | delete _ =>
    obtain rfl := Option.some.inj hneeds
    rw [perform, delete, hunbound]
    rfl
  | item _ =>
    obtain rfl := Option.some.inj hneeds
    rw [perform, item, habsent]
  | pop _ default =>
    cases default with
    | none =>
      obtain rfl := Option.some.inj hneeds
      rw [perform, pop_of_none habsent]
      rfl
    | some _ => cases hneeds
  | _ => cases hneeds

/-- **An operation that fails leaves the store.** -/
theorem store_perform_of_error {operation : Operation} {fault : Fault}
    (h : (store.perform operation).1 = .error fault) : (store.perform operation).2 = store := by
  have hsettle : ∀ outcome : Except Fault (Value × Store),
      (store.settle outcome).1 = .error fault → (store.settle outcome).2 = store := by
    intro outcome hfault
    cases outcome with
    | error other => rfl
    | ok changed => cases hfault
  cases operation with
  | delete name => exact hsettle _ h
  | pop name default => exact hsettle _ h
  | popFirst => exact hsettle _ h
  | item name => rfl
  | _ => cases h

/-- The first variable of a store that recounts a history came to be bound before all others. -/
theorem answers_popFirst (h : store.bindings.Recounts history) :
    ∃ changes, Operation.popFirst.Answers history (store.perform .popFirst).1 changes ∧
      (store.perform .popFirst).2.bindings.Recounts (changes ++ history) := by
  obtain ⟨bindings⟩ := store
  cases bindings with
  | nil => exact ⟨[], .empty fun name => (h.find? name).symm, h⟩
  | cons first rest =>
    obtain ⟨name, value⟩ := first
    have hbound : history.value? name = some value :=
      (h.find? name).symm.trans (Bindings.find?_cons_self name value rest)
    refine ⟨[.removed name], .popFirst hbound fun other hother hne => ?_, ?_⟩
    · have hmem : other ∈ Bindings.names ((name, value) :: rest) :=
        h.mem_names_iff.mpr (Option.isSome_iff_exists.mp hother)
      rw [Bindings.names_cons, List.mem_cons] at hmem
      exact List.rel_of_pairwise_cons h.ordered (hmem.resolve_left hne)
    · have herase : Bindings.erase name ((name, value) :: rest) = rest := by
        rw [Bindings.erase, if_pos rfl]
      have hremoved := h.removed name
      rwa [herase] at hremoved

/-- **Every operation answers as the history lays down**, and the store recounts what it did. -/
theorem perform_answers (h : store.bindings.Recounts history) (operation : Operation) :
    ∃ changes, operation.Answers history (store.perform operation).1 changes ∧
      (store.perform operation).2.bindings.Recounts (changes ++ history) := by
  have hget : ∀ name, store.get? name = history.value? name := h.find?
  -- an operation that fails for want of a variable does so whichever it is
  have hmissing : ∀ {operation : Operation} {name : String}, operation.needs? = some name →
      history.value? name = none →
      ∃ changes, operation.Answers history (store.perform operation).1 changes ∧
        (store.perform operation).2.bindings.Recounts (changes ++ history) := by
    intro operation name hneeds habsent
    rw [perform_of_missing hneeds ((hget name).trans habsent)]
    exact ⟨[], .missing hneeds habsent, h⟩
  cases operation with
  | set name value => exact ⟨_, .set name value, h.bound name value⟩
  | delete name =>
    cases hvalue : history.value? name with
    | none => exact hmissing rfl hvalue
    | some value =>
      have hbound : store.contains name = true := by
        show (store.get? name).isSome = true
        rw [hget, hvalue, Option.isSome_some]
      rw [perform, delete, hbound]
      exact ⟨_, .delete hvalue, h.removed name⟩
  | pop name default =>
    cases hvalue : history.value? name with
    | none =>
      cases default with
      | none => exact hmissing rfl hvalue
      | some value =>
        rw [perform, pop_of_none ((hget name).trans hvalue)]
        exact ⟨[], .popDefault value hvalue, h⟩
    | some value =>
      rw [perform, pop_of_some ((hget name).trans hvalue)]
      exact ⟨_, .pop default hvalue, h.removed name⟩
  | popFirst => exact answers_popFirst h
  | clear => exact ⟨_, .clear, h.change .cleared⟩
  | setDefault name default =>
    cases hvalue : history.value? name with
    | none =>
      rw [perform, setDefault, hget, hvalue]
      exact ⟨_, .setDefaultNew default hvalue, h.bound name default⟩
    | some value =>
      rw [perform, setDefault, hget, hvalue]
      exact ⟨[], .setDefault default hvalue, h⟩
  | update fields =>
    refine ⟨_, .update fields, ?_⟩
    have hchanges := h.changes (ofBindings fields)
    rwa [← Bindings.putAll_eq_foldr] at hchanges
  | item name =>
    cases hvalue : history.value? name with
    | none => exact hmissing rfl hvalue
    | some value =>
      rw [perform, item, hget, hvalue]
      exact ⟨[], .item hvalue, h⟩
  | get name default =>
    rw [perform, hget]
    exact ⟨[], .get name default, h⟩
  | contains name =>
    have hcontains : store.contains name = (history.value? name).isSome := by
      rw [← hget]
      rfl
    rw [perform, hcontains]
    exact ⟨[], .contains name, h⟩
  | snapshot => exact ⟨[], .snapshot h, h⟩

/-! ## Sequences of operations -/

/-- **A sequence of operations answers as the history lays down**, and the store recounts what was
done. -/
theorem run_leads (operations : List Operation) (h : store.bindings.Recounts history) :
    ∃ later, Leads history operations (store.run operations).1 later ∧
      (store.run operations).2.bindings.Recounts later := by
  induction operations generalizing store history with
  | nil => exact ⟨history, .nil history, h⟩
  | cons operation rest ih =>
    obtain ⟨changes, hfirst, hchanged⟩ := perform_answers h operation
    obtain ⟨later, hrest, hlast⟩ := ih hchanged
    exact ⟨later, .cons hfirst hrest, hlast⟩

/-- **What is done later does not touch what was answered before**: operations are answered one
after the other. -/
theorem run_append (operations later : List Operation) :
    store.run (operations ++ later) =
      ((store.run operations).1 ++ ((store.run operations).2.run later).1,
        ((store.run operations).2.run later).2) := by
  induction operations generalizing store with
  | nil => rfl
  | cons operation rest ih =>
    have hrest := @ih (store.perform operation).2
    rw [List.cons_append, run, run, hrest]
    rfl

/-- Each operation has one answer. -/
theorem length_run (operations : List Operation) :
    (store.run operations).1.length = operations.length := by
  induction operations generalizing store with
  | nil => rfl
  | cons operation rest ih => exact congrArg Nat.succ ih

/-- **A store is an insertion-ordered map under every sequence of operations.** Let it start with
the fields of an object with distinct names. Then every operation answers as the history lays down,
and the store tells the history at the end. An operation that fails leaves it as it is; a snapshot
is what the store holds when it is taken, whatever is done later. -/
theorem run_tells {initial : Fields} (hdistinct : initial.names.Nodup)
    (hstore : Store.ofValue (.object initial) = .ok store) (operations : List Operation) :
    ∃ history, Leads (ofBindings initial) operations (store.run operations).1 history ∧
      (store.run operations).2.Tells history ∧
      (∀ operation fault, ((store.run operations).2.perform operation).1 = .error fault →
        ((store.run operations).2.perform operation).2 = (store.run operations).2) ∧
      ∀ later, (store.run (operations ++ .snapshot :: later)).1[operations.length]? =
        some (.ok (.object (store.run operations).2.bindings)) := by
  have hinitial : store = ⟨initial⟩ := by
    rw [ofValue, Value.toFields_object] at hstore
    exact (Except.ok.inj hstore).symm
  have hrecounts : store.bindings.Recounts (ofBindings initial) := by
    rw [hinitial]
    exact Bindings.recounts_ofBindings hdistinct
  obtain ⟨history, hleads, hlast⟩ := run_leads operations hrecounts
  refine ⟨history, hleads, tells_of_recounts hlast, fun _ _ => store_perform_of_error, ?_⟩
  intro later
  rw [run_append, List.getElem?_append_right (Nat.le_of_eq (length_run operations)), length_run,
    Nat.sub_self]
  rfl

/-- Two variables. -/
def given : Fields := [("a", .int 1), ("b", .int 2)]

/-- The first variable is overwritten, and the second one removed and bound again; one that is not
bound is asked for, the first one is taken out, and what is left is copied and then changed. -/
def changes : List Operation :=
  [.set "a" (.int 3), .delete "b", .set "c" (.int 4), .set "b" (.int 5), .pop "d" none, .popFirst,
    .snapshot, .clear]

/-- The variable that is overwritten keeps its place, and the one that is bound again comes last. -/
theorem run_tells_changes :
    given.names.Nodup ∧ Store.ofValue (.object given) = .ok ⟨given⟩ ∧
      ∃ history, Leads (ofBindings given) changes
          [.ok .null, .ok .null, .ok .null, .ok .null, .error (.missingKey (some "d")),
            .ok (.list [.text "a", .int 3]), .ok (.object [("c", .int 4), ("b", .int 5)]),
            .ok .null] history ∧
        Tells {} history := by
  have hdistinct : given.names.Nodup := by decide
  have hstore : Store.ofValue (.object given) = .ok ⟨given⟩ := rfl
  obtain ⟨history, hleads, htells, -⟩ := run_tells hdistinct hstore changes
  exact ⟨hdistinct, hstore, history, hleads, htells⟩

end Stepwise.Store
