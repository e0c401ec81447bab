/-
Module: NetStack.Action
Purpose: Operations on a state that may end in a failure, keep the state they
  reached all the same, and report what they do.
Main exports:
  Step, Action, Action.emit, Action.refuse, Action.check, Action.attempt,
  Action.zoom
-/
import NetStack.Event

namespace NetStack

/-!
An operation that fails keeps the work done before the failure: a binding
learned, a number taken, a frame consumed.  A `Step` therefore pairs the result
with a state in every case, and the events of the work that was done.  Events
never influence results or states.
-/

/-- What an operation did. -/
structure Step (σ α : Type) where
  result : Except Failure α
  state : σ
  events : List Event

namespace Step

variable {σ α : Type}

/-- The same outcome, with reports of what came before. -/
def after (step : Step σ α) (earlier : List Event) : Step σ α :=
  { step with events := earlier ++ step.events }

@[simp] theorem result_after (step : Step σ α) (earlier : List Event) :
    (step.after earlier).result = step.result := rfl

@[simp] theorem state_after (step : Step σ α) (earlier : List Event) :
    (step.after earlier).state = step.state := rfl

@[simp] theorem after_nil (step : Step σ α) : step.after [] = step := rfl

end Step

/-- An operation on a state `σ` that answers with an `α`. -/
def Action (σ α : Type) : Type :=
  σ → Step σ α

namespace Action

variable {σ τ α β : Type}

/-- Carry the operation out. -/
def run (action : Action σ α) (state : σ) : Step σ α :=
  action state

protected def pure (value : α) : Action σ α := fun state =>
  { result := .ok value, state, events := [] }

/-- The second operation goes on from the state of the first, unless the first
failed. -/
protected def bind (first : Action σ α) (next : α → Action σ β) : Action σ β := fun state =>
  let done := first state
  match done.result with
  | .ok value => (next value done.state).after done.events
  | .error failure => { result := .error failure, state := done.state, events := done.events }

instance : Monad (Action σ) where
  pure := Action.pure
  bind := Action.bind

/-- The state as it is. -/
def get : Action σ σ := fun state =>
  { result := .ok state, state, events := [] }

def modify (change : σ → σ) : Action σ Unit := fun state =>
  { result := .ok (), state := change state, events := [] }

/-- Report events. -/
def emitAll (events : List Event) : Action σ Unit := fun state =>
  { result := .ok (), state, events }

def emit (event : Event) : Action σ Unit :=
  emitAll [event]

def fail (failure : Failure) : Action σ α := fun state =>
  { result := .error failure, state, events := [] }

/-- Drop what is being worked on. -/
def refuse (cause : StackError) : Action σ α :=
  fail (.refused cause)

/-- Take a result over, state and events apart. -/
def ofExcept : Except Failure α → Action σ α
  | .ok value => Action.pure value
  | .error failure => fail failure

/-- The value of a checked access or computation. -/
def check : Except Fault α → Action σ α
  | .ok value => Action.pure value
  | .error cause => fail (.fault cause)

/-- The value of something that may be missing, or else the cause given. -/
def demand (value? : Option α) (cause : StackError) : Action σ α :=
  match value? with
  | some value => Action.pure value
  | none => refuse cause

/-- Carry out an operation whose refusal is not the end.  A fault still is. -/
def attempt (action : Action σ α) : Action σ (Except StackError α) := fun state =>
  let done := action state
  match done.result with
  | .ok value => { done with result := .ok (.ok value) }
  | .error (.refused cause) => { done with result := .ok (.error cause) }
  | .error (.fault cause) => { done with result := .error (.fault cause) }

/-- Carry out an operation on a part of the state. -/
def zoom (view : σ → τ) (update : σ → τ → σ) (action : Action τ α) : Action σ α := fun state =>
  let done := action (view state)
  { done with state := update state done.state }

instance : LawfulMonad (Action σ) :=
  LawfulMonad.mk' (Action σ)
    (fun action => by
      funext state
      show Action.bind action (fun value => Action.pure value) state = action state
      simp only [Action.bind, Action.pure]
      cases given : (action state).result with
      | ok value => simp [Step.after, ← given]
      | error failure => simp [← given])
    (fun value next => by
      funext state
      show Action.bind (Action.pure value) next state = next value state
      simp [Action.bind, Action.pure])
    (fun action next last => by
      funext state
      show Action.bind (Action.bind action next) last state =
        Action.bind action (fun value => Action.bind (next value) last) state
      simp only [Action.bind]
      cases (action state).result with
      | ok value =>
          dsimp only [Step.result_after, Step.state_after]
          cases (next value (action state).state).result with
          | ok value => simp [Step.after, List.append_assoc]
          | error failure => simp [Step.after]
      | error failure => simp)

/-! ## Values taken over -/

@[simp] theorem check_ok (value : α) : (check (.ok value) : Action σ α) = pure value := rfl

@[simp] theorem demand_some (value : α) (cause : StackError) :
    (demand (some value) cause : Action σ α) = pure value := rfl

@[simp] theorem demand_none (cause : StackError) :
    (demand none cause : Action σ α) = refuse cause := rfl

@[simp] theorem ofExcept_ok (value : α) : (ofExcept (.ok value) : Action σ α) = pure value := rfl

end Action

end NetStack
