/-
Module: NetStack.Proofs.Outcome
Purpose: What an operation answers and which state it leaves, its reports
  apart, and how outcomes of operations compose.
Main exports:
  Action.outcome, Action.outcome_bind_of_ok, Action.outcome_bind_of_error,
  Action.outcome_attempt, Action.outcome_attempt_bind
-/
import NetStack.Action

namespace NetStack.Action

variable {σ τ α β : Type}

/-- The answer of an operation and the state it leaves, without its reports. -/
def outcome (action : Action σ α) (state : σ) : Except Failure α × σ :=
  ((action state).result, (action state).state)

theorem state_eq (action : Action σ α) (state : σ) :
    (action state).state = (action.outcome state).2 := rfl

@[simp] theorem outcome_pure (value : α) (state : σ) :
    (pure value : Action σ α).outcome state = (.ok value, state) := rfl

@[simp] theorem outcome_modify (change : σ → σ) (state : σ) :
    (modify change).outcome state = (.ok (), change state) := rfl

@[simp] theorem outcome_emit (event : Event) (state : σ) :
    (emit event).outcome state = (.ok (), state) := rfl

@[simp] theorem outcome_emitAll (events : List Event) (state : σ) :
    (emitAll events).outcome state = (.ok (), state) := rfl

@[simp] theorem outcome_fail (failure : Failure) (state : σ) :
    (fail failure : Action σ α).outcome state = (.error failure, state) := rfl

@[simp] theorem outcome_refuse (cause : StackError) (state : σ) :
    (refuse cause : Action σ α).outcome state = (.error (.refused cause), state) := rfl

theorem outcome_ite (condition : Prop) [Decidable condition] (yes no : Action σ α) (state : σ) :
    (if condition then yes else no).outcome state =
      if condition then yes.outcome state else no.outcome state := by
  split <;> rfl

/-! ## Sequences -/

variable (next : α → Action σ β) (proceed : Unit → Action σ β) (state : σ)

@[simp] theorem outcome_get_bind (answer : σ → Action σ β) :
    ((Action.get : Action σ σ) >>= answer).outcome state = (answer state).outcome state := rfl

@[simp] theorem outcome_modify_bind (change : σ → σ) :
    (modify change >>= proceed).outcome state = (proceed ()).outcome (change state) := rfl

@[simp] theorem outcome_emit_bind (event : Event) :
    (emit event >>= proceed).outcome state = (proceed ()).outcome state := rfl

@[simp] theorem outcome_emitAll_bind (events : List Event) :
    (emitAll events >>= proceed).outcome state = (proceed ()).outcome state := rfl

@[simp] theorem outcome_refuse_bind (cause : StackError) :
    (refuse cause >>= next).outcome state = (.error (.refused cause), state) := rfl

variable {next state}

/-- After a success the sequence goes on from the state that it left. -/
theorem outcome_bind_of_ok {action : Action σ α} {value : α} {middle : σ}
    (succeeds : action.outcome state = (.ok value, middle)) :
    (action >>= next).outcome state = (next value).outcome middle := by
  obtain ⟨answered, left⟩ := Prod.mk.inj succeeds
  show (Action.bind action next).outcome state = _
  simp only [outcome, Action.bind, answered, left, Step.result_after, Step.state_after]

/-- A failure ends the sequence. -/
theorem outcome_bind_of_error {action : Action σ α} {failure : Failure} {middle : σ}
    (fails : action.outcome state = (.error failure, middle)) :
    (action >>= next).outcome state = (.error failure, middle) := by
  obtain ⟨answered, left⟩ := Prod.mk.inj fails
  show (Action.bind action next).outcome state = _
  simp only [outcome, Action.bind, answered, left]

/-- What `attempt` makes of an answer. -/
def attempted : Except Failure α → Except Failure (Except StackError α)
  | .ok value => .ok (.ok value)
  | .error (.refused cause) => .ok (.error cause)
  | .error (.fault cause) => .error (.fault cause)

theorem outcome_attempt (action : Action σ α) (state : σ) :
    action.attempt.outcome state =
      (attempted (action.outcome state).1, (action.outcome state).2) := by
  simp only [outcome, attempt]
  cases (action state).result with
  | ok value => rfl
  | error failure => cases failure <;> rfl

/-- Whoever attempts an operation and passes its refusal on has done nothing
but the operation, apart from the answer given in its place. -/
theorem outcome_attempt_bind {action : Action σ Unit} {value : β}
    {next : Except StackError Unit → Action σ β}
    (passesOk : ∀ middle, (next (.ok ())).outcome middle = (.ok value, middle))
    (passesRefusal : ∀ cause middle,
      (next (.error cause)).outcome middle = (.error (.refused cause), middle)) :
    (action.attempt >>= next).outcome state =
      ((action.outcome state).1.map fun () => value, (action.outcome state).2) := by
  have tried := outcome_attempt action state
  rcases done : action.outcome state with ⟨answer, middle⟩
  rw [done] at tried
  cases answer with
  | ok answered =>
      rw [outcome_bind_of_ok tried, passesOk]
      rfl
  | error failure =>
      cases failure with
      | refused cause =>
          rw [outcome_bind_of_ok tried, passesRefusal]
          rfl
      | fault cause =>
          rw [outcome_bind_of_error tried]
          rfl

/-- In particular, nothing but the operation when there is no other answer. -/
theorem outcome_attempt_forward {action : Action σ Unit}
    {next : Except StackError Unit → Action σ Unit}
    (passesOk : ∀ middle, (next (.ok ())).outcome middle = (.ok (), middle))
    (passesRefusal : ∀ cause middle,
      (next (.error cause)).outcome middle = (.error (.refused cause), middle)) :
    (action.attempt >>= next).outcome state = action.outcome state := by
  rw [outcome_attempt_bind passesOk passesRefusal]
  rcases action.outcome state with ⟨answer, middle⟩
  cases answer <;> rfl

theorem outcome_map (f : α → β) (action : Action σ α) (state : σ) :
    (f <$> action).outcome state =
      ((action.outcome state).1.map f, (action.outcome state).2) := by
  rw [← bind_pure_comp]
  rcases done : action.outcome state with ⟨answer, middle⟩
  cases answer with
  | ok value =>
      rw [outcome_bind_of_ok done]
      rfl
  | error failure =>
      rw [outcome_bind_of_error done]
      rfl

end NetStack.Action
