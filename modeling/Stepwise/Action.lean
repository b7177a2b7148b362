import Stepwise.Platform
import Stepwise.Store

/-! # Actions

An `Action σ α` is a computation that a step performs: it reads and writes the variable store, calls
collaborators in a world of type `σ`, leaves notes in a log, and gives a result of type `α` or a
fault. Its `Outcome` holds what it did: the requests made and the notes left *by this action*, in
order. An action therefore cannot look at what happened before it except through the store and the
world, and running two actions one after the other joins their requests (`run_bind_ok`). -/

namespace Stepwise

/-- How important a note is. -/
inductive Severity where
  /-- For information. -/
  | info
  /-- Something to look at. -/
  | warning
  /-- Something went wrong. -/
  | error
  deriving DecidableEq, Repr

/-- A note in a log. -/
structure Note where
  /-- How important the note is. -/
  severity : Severity
  /-- What the note says. -/
  text : String
  deriving DecidableEq, Repr

/-- A note for information. -/
def Note.info (text : String) : Note := ⟨.info, text⟩

/-- A note about something to look at. -/
def Note.warning (text : String) : Note := ⟨.warning, text⟩

/-- A note about something that went wrong. -/
def Note.error (text : String) : Note := ⟨.error, text⟩

/-- What an action did. -/
structure Outcome (σ α : Type) where
  /-- The result of the action, or why it failed. -/
  result : Except Fault α
  /-- The store after the action. -/
  store : Store
  /-- The world after the action. -/
  world : σ
  /-- The requests made by the action, in order. -/
  requests : List Request := []
  /-- The notes left by the action, in order. -/
  log : List Note := []

/-- A computation over a store and a world. -/
def Action (σ α : Type) : Type := Store → σ → Outcome σ α

namespace Action

variable {σ α β : Type}

/-- Perform an action. -/
def run (action : Action σ α) (store : Store) (world : σ) : Outcome σ α := action store world

/-- The action that does nothing and gives a value. -/
def done (value : α) : Action σ α := fun store world => { result := .ok value, store, world }

/-- Perform an action and then one that depends on its result; a fault of the first ends both. -/
def andThen (first : Action σ α) (next : α → Action σ β) : Action σ β := fun store world =>
  let outcome := first store world
  match outcome.result with
  | .error fault =>
    { result := .error fault, store := outcome.store, world := outcome.world
      requests := outcome.requests, log := outcome.log }
  | .ok value =>
    let later := next value outcome.store outcome.world
    { later with
      requests := outcome.requests ++ later.requests
      log := outcome.log ++ later.log }

instance : Monad (Action σ) where
  pure := done
  bind := andThen

/-- Fail with a fault. -/
def fail (fault : Fault) : Action σ α := fun store world =>
  { result := .error fault, store, world }

/-- The action that gives a result already known. -/
def ofExcept (result : Except Fault α) : Action σ α := fun store world =>
  { result, store, world }

instance : MonadLift (Except Fault) (Action σ) := ⟨ofExcept⟩

/-- The store as it is now. -/
def getStore : Action σ Store := fun store world => { result := .ok store, store, world }

/-- Bind a variable. -/
def setVariable (name : String) (value : Value) : Action σ Unit := fun store world =>
  { result := .ok (), store := store.set name value, world }

/-- Leave a note. -/
def note (entry : Note) : Action σ Unit := fun store world =>
  { result := .ok (), store, world, log := [entry] }

/-- Make a request to the platform. -/
def request (platform : Platform σ) (request : Request) : Action σ request.Reply :=
  fun store world =>
    let (result, world) := platform.answer request world
    { result, store, world, requests := [request] }

/-- Change the fault of an action that fails. -/
def mapFault (change : Fault → Fault) (action : Action σ α) : Action σ α := fun store world =>
  let outcome := action store world
  { outcome with result := outcome.result.mapError change }

/-! ## Reading equations -/

@[simp] theorem run_pure (value : α) (store : Store) (world : σ) :
    run (pure value) store world = { result := .ok value, store, world } := rfl

@[simp] theorem run_fail (fault : Fault) (store : Store) (world : σ) :
    run (fail fault : Action σ α) store world = { result := .error fault, store, world } := rfl

/-- After an action that succeeds, the next one runs in the store and world it left; the requests
and the notes of the two are joined. -/
theorem run_bind_ok {first : Action σ α} {next : α → Action σ β} {store : Store} {world : σ}
    {value : α} (h : (run first store world).result = .ok value) :
    run (first >>= next) store world =
      let outcome := run first store world
      let later := run (next value) outcome.store outcome.world
      { later with
        requests := outcome.requests ++ later.requests
        log := outcome.log ++ later.log } := by
  simp only [run] at h ⊢
  simp only [bind, andThen, h]

/-- An action that fails ends the whole. -/
theorem run_bind_error {first : Action σ α} {next : α → Action σ β} {store : Store} {world : σ}
    {fault : Fault} (h : (run first store world).result = .error fault) :
    run (first >>= next) store world =
      let outcome := run first store world
      { result := .error fault, store := outcome.store, world := outcome.world
        requests := outcome.requests, log := outcome.log } := by
  simp only [run] at h ⊢
  simp only [bind, andThen, h]

end Action

/-! ## Calls to collaborators -/

/-- The fault of a call to a collaborator as a step reports it: step faults stay, all others become
an external failure of what was attempted. -/
def Fault.ofCall (attempt : String) (fault : Fault) : Fault :=
  if fault.isStep then fault
  else match fault with
    | .denied reason => .external s!"{attempt}: permission denied ({reason})"
    | other => .external s!"{attempt}: {other.message}"

/-- Call a collaborator; a fault is reported as a failure of what was attempted. -/
def Action.call {σ : Type} (platform : Platform σ) (attempt : String) (request : Request) :
    Action σ request.Reply :=
  (Action.request platform request).mapFault (Fault.ofCall attempt)

end Stepwise
