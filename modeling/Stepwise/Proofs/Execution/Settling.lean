import Stepwise.Handler
import Stepwise.Proofs.Computations

/-! # How an action settles

The platform *refuses* a request if it raises a fault, or if its reply declines what was asked for:
nothing opens the address, or the answer of the server reports an error (`Platform.refuses`).

An action `Settles` if it ends in one of four ways (`Settled`): it gives a good value, or finds that
a collaborator is not there, or refuses its configuration late, all of these only if the platform
refused nothing; or it fails outside, and that only if the platform refused something. Settling is
kept by going on (`Settles.bind`), so it is carried through a step one action after the other. -/

namespace Stepwise

variable {σ α β : Type}

/-! ## What a platform refuses -/

/-- Whether a reply declines what was asked for. -/
def Request.declines : (request : Request) → request.Reply → Bool
  | .openUrl _, opened => !opened
  | .send .., response => !response.ok
  | _, _ => false

namespace Platform

/-- Whether a request is refused in a world. -/
def refuses (platform : Platform σ) (request : Request) (world : σ) : Bool :=
  match (platform.answer request world).1 with
  | .error _ => true
  | .ok reply => request.declines reply

/-- The world after some requests. -/
def after (platform : Platform σ) : List Request → σ → σ
  | [], world => world
  | request :: rest, world => platform.after rest (platform.answer request world).2

/-- Whether one of some requests, made one after the other, is refused. -/
def refusesSome (platform : Platform σ) : List Request → σ → Bool
  | [], _ => false
  | request :: rest, world =>
    platform.refuses request world || platform.refusesSome rest (platform.answer request world).2

variable (platform : Platform σ)

@[simp] theorem after_nil (world : σ) : platform.after [] world = world := rfl

@[simp] theorem refusesSome_nil (world : σ) : platform.refusesSome [] world = false := rfl

/-- The world after a single request. -/
theorem after_singleton (request : Request) (world : σ) :
    platform.after [request] world = (platform.answer request world).2 := rfl

/-- A single request is refused or not. -/
theorem refusesSome_singleton (request : Request) (world : σ) :
    platform.refusesSome [request] world = platform.refuses request world := Bool.or_false _

/-- The world after some requests and some more. -/
theorem after_append (first second : List Request) (world : σ) :
    platform.after (first ++ second) world =
      platform.after second (platform.after first world) := by
  induction first generalizing world with
  | nil => rfl
  | cons request rest ih => exact ih _

/-- Something is refused of some requests and some more. -/
theorem refusesSome_append (first second : List Request) (world : σ) :
    platform.refusesSome (first ++ second) world =
      (platform.refusesSome first world ||
        platform.refusesSome second (platform.after first world)) := by
  induction first generalizing world with
  | nil => rfl
  | cons request rest ih => rw [List.cons_append, refusesSome, ih, ← Bool.or_assoc]; rfl

/-- **A plain platform**: waiting never fails, and no collaborator raises a step fault. -/
structure IsPlain : Prop where
  /-- Waiting never fails. -/
  sleeps (seconds : Binary64) (world : σ) : (platform.answer (.sleep seconds) world).1 = .ok ()
  /-- What is raised is no step fault. -/
  raises (request : Request) (world : σ) {fault : Fault}
    (h : (platform.answer request world).1 = .error fault) : fault.isStep = false

end Platform

/-- Every other fault of a call is a failure outside. -/
theorem Fault.ofCall_of_not_isStep {fault : Fault} (h : fault.isStep = false) (attempt : String) :
    ∃ reason, fault.ofCall attempt = .external reason := by
  unfold Fault.ofCall
  rw [h]
  cases fault with
  | denied reason => exact ⟨_, rfl⟩
  | _ => exact ⟨_, rfl⟩

/-- What a call to a collaborator does. -/
theorem Action.run_call (platform : Platform σ) (attempt : String) (request : Request)
    (store : Store) (world : σ) :
    run (call platform attempt request) store world =
      { result := (platform.answer request world).1.mapError (Fault.ofCall attempt), store
        world := (platform.answer request world).2, requests := [request] } :=
  rfl

/-! ## Settled results -/

/-- **The ways in which a step ends that was accepted**, by whether the platform refused anything.
-/
inductive Settled (late : Prop) (good : α → Prop) : Bool → Except Fault α → Prop
  /-- With a good value. -/
  | done {value : α} (h : good value) : Settled late good false (.ok value)
  /-- With a failure outside. -/
  | failed (reason : String) : Settled late good true (.error (.external reason))
  /-- For want of a collaborator. -/
  | unsupported (collaborator : String) (stepType : Option String) :
      Settled late good false (.error (.unsupported collaborator stepType))
  /-- With a late refusal of the configuration. -/
  | late (field detail : String) (h : late) :
      Settled late good false (.error (.configuration field detail))

/-- Going on by doing nothing. -/
theorem Action.bind_pure (action : Action σ α) : (action >>= pure) = action := by
  funext store world
  simp only [bind, pure, andThen, done]
  generalize action store world = outcome
  obtain ⟨result, store', world', requests, log⟩ := outcome
  cases result with
  | error fault => rfl
  | ok value => simp only [List.append_nil]

/-- **An action settles**: the platform is where its requests lead, and its result is settled. -/
def Action.Settles (platform : Platform σ) (late : Prop) (good : α → Prop) (action : Action σ α) :
    Prop :=
  ∀ store world, let outcome := action.run store world
    outcome.world = platform.after outcome.requests world ∧
      Settled late good (platform.refusesSome outcome.requests world) outcome.result

namespace Action.Settles

variable {platform : Platform σ} {late : Prop} {good : α → Prop} {better : β → Prop}

/-! ## Actions without requests -/

/-- Giving a good value. -/
theorem pure {value : α} (h : good value) : Settles platform late good (pure value) :=
  fun _ _ => ⟨rfl, .done h⟩

/-- Giving a settled result. -/
theorem lift {result : Except Fault α} (h : Settled late good false result) :
    Settles platform late good (liftM result) :=
  fun _ _ => ⟨rfl, h⟩

/-- Giving the value of a computation that has one. -/
theorem lift_ok {result : Except Fault α} {value : α} (h : result = .ok value) :
    Settles platform late (fun given => given = value) (liftM result) := by
  subst h
  exact lift (.done rfl)

/-- Refusing the configuration, whatever would have come after that. -/
theorem refuse_bind (h : late) (field detail : String) {next : α → Action σ β} :
    Settles platform late better (fail (.configuration field detail) >>= next) :=
  fun _ _ => ⟨rfl, .late field detail h⟩

/-- Leaving a note. -/
theorem note (entry : Note) : Settles platform late (fun _ => True) (note entry) :=
  fun _ _ => ⟨rfl, .done trivial⟩

/-- Looking at the store. -/
theorem getStore : Settles platform late (fun _ => True) getStore :=
  fun _ _ => ⟨rfl, .done trivial⟩

/-- Binding a variable. -/
theorem setVariable (name : String) (value : Value) :
    Settles platform late (fun _ => True) (setVariable name value) :=
  fun _ _ => ⟨rfl, .done trivial⟩

/-- Asking for a collaborator. -/
theorem reach (context : Context σ) (name stepType : String) :
    Settles platform late (fun _ => True) (context.reach name stepType) := by
  unfold Context.reach
  split
  · exact pure trivial
  · exact fun _ _ => ⟨rfl, .unsupported name _⟩

/-! ## Going on -/

/-- **Going on** after an action that settles. -/
theorem bind {first : Action σ α} {next : α → Action σ β} (h : Settles platform late good first)
    (hnext : ∀ value, good value → Settles platform late better (next value)) :
    Settles platform late better (first >>= next) := by
  intro store world
  obtain ⟨hworld, hsettled⟩ := h store world
  generalize hrefused : platform.refusesSome (first.run store world).requests world = refused
    at hsettled
  generalize hresult : (first.run store world).result = result at hsettled
  cases hsettled with
  | done hgood =>
    -- nothing was refused so far, so the rest decides
    obtain ⟨hworld', hsettled'⟩ := hnext _ hgood (first.run store world).store
      (first.run store world).world
    rw [run_bind_ok hresult]
    dsimp only
    rw [platform.after_append, platform.refusesSome_append, ← hworld, hrefused, Bool.false_or]
    exact ⟨hworld', hsettled'⟩
  | failed reason =>
    -- a fault ends the action, with the requests made so far
    rw [run_bind_error hresult]
    dsimp only
    rw [hrefused]
    exact ⟨hworld, .failed reason⟩
  | unsupported collaborator stepType =>
    rw [run_bind_error hresult]
    dsimp only
    rw [hrefused]
    exact ⟨hworld, .unsupported collaborator stepType⟩
  | late field detail hlate =>
    rw [run_bind_error hresult]
    dsimp only
    rw [hrefused]
    exact ⟨hworld, .late field detail hlate⟩

/-- Going on after an action whose value does not matter. -/
theorem andThen {first : Action σ α} {next : α → Action σ β}
    (h : Settles platform late (fun _ => True) first)
    (hnext : ∀ value, Settles platform late better (next value)) :
    Settles platform late better (first >>= next) :=
  h.bind fun value _ => hnext value

/-- Branching. -/
theorem ite {c : Prop} [Decidable c] {yes no : Action σ α}
    (hyes : c → Settles platform late good yes) (hno : ¬ c → Settles platform late good no) :
    Settles platform late good (if c then yes else no) := by
  split
  next hc => exact hyes hc
  next hc => exact hno hc

/-! ## Requests -/

/-- Waiting. -/
theorem sleep (hplain : platform.IsPlain) (seconds : Binary64) :
    Settles platform late (fun _ => True) (request platform (.sleep seconds)) := by
  intro store world
  have hanswer := hplain.sleeps seconds world
  have hrefused : platform.refusesSome [.sleep seconds] world = false := by
    rw [platform.refusesSome_singleton, Platform.refuses, hanswer]
    rfl
  have hresult : (run (request platform (.sleep seconds)) store world).result = .ok () := hanswer
  have hrequests : (run (request platform (.sleep seconds)) store world).requests =
      [.sleep seconds] := rfl
  dsimp only
  rw [hrequests, hrefused, hresult]
  exact ⟨rfl, .done trivial⟩

/-- An action that fails outside without asking for anything. -/
def FailsOutside (action : Action σ α) : Prop :=
  ∀ store world, ∃ reason log,
    action.run store world = { result := .error (.external reason), store, world, log }

/-- **Calling a collaborator** and going on, if a reply that declines is a failure outside. -/
theorem call_bind (hplain : platform.IsPlain) {attempt : String} {request : Request}
    {next : request.Reply → Action σ α}
    (hnext : ∀ reply, request.declines reply = false → Settles platform late good (next reply))
    (hdeclined : ∀ reply, request.declines reply = true → FailsOutside (next reply)) :
    Settles platform late good (call platform attempt request >>= next) := by
  intro store world
  have hcall := run_call platform attempt request store world
  cases hanswer : (platform.answer request world).1 with
  | error fault =>
    obtain ⟨reason, hreason⟩ :=
      Fault.ofCall_of_not_isStep (hplain.raises request world hanswer) attempt
    have hrefuses : platform.refuses request world = true := by
      rw [Platform.refuses, hanswer]
    have hresult : (run (call platform attempt request) store world).result =
        .error (.external reason) := by
      rw [hcall, hanswer, ← hreason]
      rfl
    rw [run_bind_error hresult]
    dsimp only
    rw [hcall, platform.refusesSome_singleton, hrefuses, platform.after_singleton]
    exact ⟨rfl, .failed reason⟩
  | ok reply =>
    have hresult : (run (call platform attempt request) store world).result = .ok reply := by
      rw [hcall, hanswer]
      rfl
    have hrefuses : platform.refuses request world = request.declines reply := by
      rw [Platform.refuses, hanswer]
    rw [run_bind_ok hresult]
    dsimp only
    rw [hcall, platform.refusesSome_append, platform.refusesSome_singleton, hrefuses,
      platform.after_append, platform.after_singleton]
    cases hdeclines : request.declines reply with
    | true =>
      -- the failure that follows makes no request of its own
      obtain ⟨reason, log, hfails⟩ :=
        hdeclined reply hdeclines store (platform.answer request world).2
      dsimp only
      rw [hfails]
      exact ⟨rfl, .failed reason⟩
    | false => exact hnext reply hdeclines store (platform.answer request world).2

/-- Calling a collaborator whose replies never decline. -/
theorem call (hplain : platform.IsPlain) (attempt : String) {request : Request}
    (haccepts : ∀ reply, request.declines reply = false) :
    Settles platform late (fun _ => True) (Action.call platform attempt request) := by
  rw [← bind_pure (Action.call platform attempt request)]
  refine call_bind hplain (fun _ _ => pure trivial) ?_
  intro reply hdeclines
  rw [haccepts reply] at hdeclines
  cases hdeclines

end Action.Settles

end Stepwise
